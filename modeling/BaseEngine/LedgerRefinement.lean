import BaseEngine.LedgerRuns
import BaseEngine.Lockstep

/-!
# The engine on its database refines the engine

`BaseEngine.Engine` knows of an attempt's row what the daily exposure is summed
from, and of the database whether it takes a write. This module shows that
nothing else of the database matters to the loop: a run with all its statements
is the run of that engine on the same signals, translated one by one
(`LedgerArrival.abstract`, `ledger_refines`). What is proved there of books, risk
states, attempts and exits therefore holds of the engine on its database.

The translation answers a write as the serialiser and the driver do, so that an
answer is good exactly when the log or the documents of that one write are
taken; no statement fails for a missing row or for a column that cannot be read.
-/

namespace BaseEngine

open Fallible

/-! ## What the exposure is summed from -/

def ExecutionAttemptRow.summary (row : ExecutionAttemptRow) : AttemptRow :=
  { requestedNotionalWei := (numeric row.requestedNotionalWei).getD 0,
    submissionAllowed := row.submissionAllowed, observedAt := row.observedAt }

namespace Database

def summary (db : Database) : List AttemptRow :=
  db.executionAttempts.values.map ExecutionAttemptRow.summary

/-- The amounts can be read. -/
def Numeric (db : Database) : Prop :=
  ∀ row ∈ db.executionAttempts.values, ∃ amount, numeric row.requestedNotionalWei = some amount

end Database

/-- A number is read back from its text. -/
theorem numeric_toString (n : Nat) : numeric (toString n) = some n := by
  have hread : Text.ofDigits 10 0 (Nat.toDigits 10 n) = some n :=
    Text.ofDigits_toDigits (by decide) (by decide) n
  unfold numeric
  rw [Nat.toString_eq_repr, Nat.repr_eq_ofList_toDigits, String.toList_ofList, hread, if_neg]
  intro hempty
  have hnil := congrArg String.toList hempty
  rw [String.toList_ofList] at hnil
  exact absurd hnil (Nat.toDigits_ne_nil)

theorem mapM_numeric {rows : List ExecutionAttemptRow}
    (h : ∀ row ∈ rows, ∃ amount, numeric row.requestedNotionalWei = some amount) :
    rows.mapM (fun row => numeric row.requestedNotionalWei)
      = some (rows.map fun row => row.summary.requestedNotionalWei) := by
  induction rows with
  | nil => rfl
  | cons row rows ih =>
      obtain ⟨amount, hamount⟩ := h row List.mem_cons_self
      have hrest := ih fun other hother => h other (List.mem_cons_of_mem _ hother)
      rw [List.mapM_cons, hrest, hamount, List.map_cons, ExecutionAttemptRow.summary, hamount]
      rfl

/-- The sum over the texts is the exposure. -/
theorem exposure_eq {db : Database} (h : db.Numeric) (now : Nat) :
    db.exposure now = .ok (exposure db.summary now) := by
  have hcounted : ∀ row ∈ db.executionAttempts.values.filter fun row =>
      row.submissionAllowed && decide (dayStart now ≤ row.observedAt),
      ∃ amount, numeric row.requestedNotionalWei = some amount :=
    fun row hrow => h row (List.mem_of_mem_filter hrow)
  unfold Database.exposure BaseEngine.exposure Database.summary
  simp only [mapM_numeric hcounted]
  rw [List.filter_map, List.map_map]
  rfl

/-! ## The translation -/

/-- The replies as answers: a write is answered as its statement checks it. -/
def Ledger.Replies.answers (serde : Serde) (replies : Ledger.Replies) : Answers :=
  { replies.toOutside with loadExposure := replies.loadExposure, write := replies.write serde }

/-- The answer to the log of an event. -/
def LedgerArrival.persistLog (serde : Serde) (arrival : LedgerArrival) : Except ErrorChain Unit :=
  match arrival.event with
  | .log entry => ((arrival.call entry).send serde.toValue).map fun _ => ()
  | _ => .ok ()

/-- What arrives, as the engine without tables sees it. -/
def LedgerArrival.abstract (serde : Serde) (arrival : LedgerArrival) : Arrival :=
  { event := arrival.event, persistLog := arrival.persistLog serde, pools := arrival.pools,
    answers := arrival.replies.answers serde }

/-- The state of the loop, as the engine without tables has it. -/
def Engine.abstract (s : LedgerEngine) : Engine Storage :=
  { book := s.book, risk := s.risk, storage := s.storage.map Database.summary, exit := s.exit,
    handed := s.handed }

/-- The tables beside their rows, which can be read. -/
def summaries : Matching (Option Database) Storage where
  storages pool storage := storage = pool.map Database.summary ∧ ∀ db ∈ pool, db.Numeric
  logs _ j := j = none
  runs _ _ := True
  driven i j pool storage := (storage = pool.map Database.summary ∧ ∀ db ∈ pool, db.Numeric)
    ∧ Newest i pool ∧ j.isSome = i.isSome
  lost _ := False

section Refinement

variable {serde : Serde} {replies : Ledger.Replies} {db : Database} {row : ExecutionAttemptRow}
  {request : ExecutionRequest}

theorem todaysSubmittableNotionalWei_eq (h : db.Numeric) :
    Database.todaysSubmittableNotionalWei (some db) replies.exposureAt replies.loadExposure
      = todaysSubmittableNotionalWei (some db.summary) (replies.answers serde) := by
  unfold Database.todaysSubmittableNotionalWei todaysSubmittableNotionalWei
  change (withContext _ (replies.loadExposure.bind fun _ => db.exposure replies.exposureAt) >>= _)
    = (withContext _ replies.loadExposure >>= _)
  cases replies.loadExposure with
  | error e => rfl
  | ok _ =>
      change (withContext _ (db.exposure replies.exposureAt) >>= _) = _
      rw [exposure_eq h]
      rfl

theorem summary_withAttempt (db : Database) (row : ExecutionAttemptRow) :
    (db.withAttempt row).summary = db.summary ++ [row.summary] := by
  unfold Database.summary Database.withAttempt
  rw [Table.values_insert, List.map_append]
  rfl

theorem Database.Numeric.withAttempt (h : db.Numeric) {amount : Nat}
    (hrow : numeric row.requestedNotionalWei = some amount) : (db.withAttempt row).Numeric := by
  intro other hother
  rw [Database.withAttempt, Table.values_insert] at hother
  rcases List.mem_append.mp hother with hold | hnew
  · exact h other hold
  · obtain rfl := List.mem_singleton.mp hnew
    exact ⟨amount, hrow⟩

/-- The row that is inserted is the one the exposure will count. -/
theorem summary_inserted (decisionRunId : Option Nat) (attempt : ExecutionAttempt) :
    (ExecutionAttemptRow.inserted replies.insertedAt decisionRunId attempt request).summary
      = attemptRow attempt (replies.answers serde) := by
  unfold ExecutionAttemptRow.summary ExecutionAttemptRow.inserted attemptRow
  dsimp only
  rw [numeric_toString, Option.getD_some]
  rfl

/-- No update changes what is counted. -/
theorem requestedNotionalWei_updated (row : ExecutionAttemptRow) (update : AttemptUpdate) :
    (row.updated replies update).requestedNotionalWei = row.requestedNotionalWei
      ∧ (row.updated replies update).summary = row.summary := by
  cases update with
  | _ => exact ⟨rfl, rfl⟩

theorem summaries_updated {storage : Storage} (update : AttemptUpdate)
    (h : summaries.storages (some (db.withAttempt row)) storage) :
    summaries.storages (some (db.withAttempt (row.updated replies update))) storage := by
  obtain ⟨hamount, hsummary⟩ := @requestedNotionalWei_updated replies row update
  obtain ⟨rfl, hnumeric⟩ := h
  have hold := hnumeric _ rfl
  refine ⟨?_, fun other hother => ?_⟩
  · rw [Option.map_some, Option.map_some, summary_withAttempt, summary_withAttempt, hsummary]
  · obtain rfl := Option.some.inj hother
    have hdb : db.Numeric := fun entry hentry => hold entry (by
      rw [Database.withAttempt, Table.values_insert]
      exact List.mem_append_left _ hentry)
    obtain ⟨amount, hrow⟩ := hold row (by
      rw [Database.withAttempt, Table.values_insert]
      exact List.mem_append_right _ (List.mem_singleton_self row))
    exact hdb.withAttempt (hamount ▸ hrow)

/-- **Every statement comes to what its answer says.** -/
theorem statements_follow (serde : Serde) (replies : Ledger.Replies) :
    (replies.statements serde).Follows (replies.answers serde).statements summaries where
  run := by
    rintro pool storage record observedLogId ⟨rfl, hnumeric⟩ rfl
    cases pool with
    | none => exact .ok ⟨⟨rfl, hnumeric⟩, trivial⟩
    | some db =>
        rw [persistDecisionRun_eq, Answers.persistDecisionRun_eq]
        exact .map _ ⟨⟨rfl, fun _ h => Option.some.inj h ▸ hnumeric db rfl⟩, trivial⟩
  attempt := by
    rintro pool storage i j attempt request ⟨rfl, hnumeric⟩ -
    cases pool with
    | none => exact .ok ⟨⟨rfl, hnumeric⟩, .none, rfl⟩
    | some db =>
        rw [persistExecutionAttempt_eq, Answers.persistExecutionAttempt_eq]
        refine .map _ ⟨⟨?_, fun _ h => Option.some.inj h
          ▸ (hnumeric db rfl).withAttempt (numeric_toString _)⟩, .some, rfl⟩
        dsimp only
        rw [Option.map_some, Option.map_some, Option.map_some, summary_withAttempt,
          @summary_inserted serde replies]
  update := by
    rintro pool storage i j update ⟨hstorages, hnewest, hj⟩
    cases hnewest with
    | none =>
        obtain rfl : j = none := by simpa using hj
        exact .inl ⟨⟨hstorages, .none, rfl⟩, rfl⟩
    | @some db row =>
        obtain ⟨k, rfl⟩ := Option.isSome_iff_exists.mp hj
        rw [onRow_newest]
        have hupdated := @summaries_updated replies db row storage update hstorages
        obtain ⟨rfl, -⟩ := id hstorages
        rw [Option.map_some, Answers.onRow_some]
        refine .inl ⟨⟨?_, ?_, rfl⟩, rfl⟩
        · dsimp only
          split_ifs with hok
          · exact hupdated
          · exact hstorages
        · dsimp only
          split_ifs with hok
          · exact .some
          · exact .some
  storages := fun h => h.1
  keeps := ⟨fun h => h.elim, fun h => h.elim⟩

/-- What arrives comes to the same. -/
theorem ledgerBackend_follows (serde : Serde) (sha256 : List UInt8 → String) :
    (ledgerBackend serde sha256).Follows rowsBackend (LedgerArrival.abstract serde) summaries where
  event _ := rfl
  pools _ := rfl
  outside _ := rfl
  observed := by
    rintro pool storage arrival log hevent ⟨rfl, hnumeric⟩
    cases pool with
    | none => exact .ok ⟨⟨rfl, hnumeric⟩, rfl⟩
    | some db =>
        have hpersist : (arrival.abstract serde).persistLog
            = ((arrival.call log).send serde.toValue).map fun _ => () := by
          unfold LedgerArrival.abstract LedgerArrival.persistLog
          rw [show arrival.event = .log log from hevent]
        change Paired _ _ (Database.observe serde sha256 (some db) (arrival.call log))
          ((arrival.abstract serde).persistLog >>= fun _ => .ok _)
        rw [observe_eq, hpersist]
        cases (arrival.call log).send serde.toValue with
        | ok logJson => exact .ok ⟨⟨rfl, fun _ h => Option.some.inj h ▸ hnumeric db rfl⟩, rfl⟩
        | error e => exact .error
  exposure := by
    rintro pool storage arrival ⟨rfl, hnumeric⟩
    cases pool with
    | none => rfl
    | some db => exact todaysSubmittableNotionalWei_eq (hnumeric db rfl)
  statements arrival := statements_follow serde arrival.replies
  sure _ h := h

end Refinement

theorem Engine.Like.abstract_eq {s : LedgerEngine} {t : Engine Storage}
    (h : s.Like summaries.storages t) : t = s.abstract := by
  obtain ⟨book, risk, storage, exit, handed⟩ := t
  obtain ⟨hbook, hrisk, ⟨hstorage, -⟩, hexit, hhanded⟩ := h
  obtain rfl := hstorage
  obtain rfl := hbook
  obtain rfl := hrisk
  obtain rfl := hexit
  obtain rfl := hhanded
  rfl

/-- **The engine on its database refines the engine.** A run with all its
statements is the run of the engine without tables on the translated signals, with
the same events, times, pools and answers of the node, on the rows as the exposure
reads them. In the translation a log is taken exactly when the serialiser, its
chain id and the database allow it, and a write exactly when the serialiser takes
each of its documents, its gas estimate fits and the database replies. -/
theorem ledger_refines (serde : Serde) (rt : Runtime) (book : PoolBook) (pool : Option Database)
    (hnumeric : ∀ db ∈ pool, db.Numeric) (signals : List LedgerSignal) :
    Run.final rt.step (Engine.start book (pool.map Database.summary))
        (signals.map (Signal.map (LedgerArrival.abstract serde)))
      = (Run.final (rt.stepRecorded serde) (Engine.start book pool) signals).abstract
    ∧ ∀ arrival : LedgerArrival,
      (∀ log, arrival.event = .log log → ((arrival.abstract serde).persistLog = .ok ()
        ↔ (arrival.call log).Accepted serde.toValue))
      ∧ ∀ write, (arrival.abstract serde).answers.write write = .ok ()
        ↔ arrival.replies.Takes serde write := by
  refine ⟨?_, fun arrival => ⟨fun log hevent => ?_, fun write => ?_⟩⟩
  · have hstart : (Engine.start book pool).Like summaries.storages
        (Engine.start book (pool.map Database.summary)) := ⟨rfl, rfl, ⟨rfl, hnumeric⟩, rfl, rfl⟩
    exact ((ledgerBackend_follows serde rt.sha256).final hstart signals).abstract_eq
  · unfold LedgerArrival.abstract LedgerArrival.persistLog
    rw [hevent, ← PersistCall.send_isOk_iff]
    dsimp only
    cases (arrival.call log).send serde.toValue with
    | ok logJson => exact ⟨fun _ => ⟨logJson, rfl⟩, fun _ => rfl⟩
    | error e => exact ⟨fun h => (nomatch h), fun ⟨_, h⟩ => (nomatch h)⟩
  · exact Ledger.Replies.write_eq_ok_iff

/-- The tables before the first start. -/
def emptyDatabase : Database :=
  { observedLogs := { rows := [], nextId := 1, unique := List.nodup_nil }
    decisionRuns := .empty
    executionAttempts := .empty }

theorem emptyDatabase_numeric : ∀ db ∈ some emptyDatabase, db.Numeric := by
  intro db hdb row hrow
  obtain rfl := Option.some.inj hdb
  exact absurd hrow List.not_mem_nil

mutual

/-- The integers of a JSON value fit `u64` or `i64`. -/
def valueFits : Json.Value → Bool
  | .number (.posInt n) => decide (n < 2 ^ 64)
  | .number (.negInt n) => decide (-2 ^ 63 ≤ n)
  | .array items => itemsFit items
  | .object entries => entriesFit entries
  | _ => true

def itemsFit : List Json.Value → Bool
  | [] => true
  | value :: rest => valueFits value && itemsFit rest

def entriesFit : List (String × Json.Value) → Bool
  | [] => true
  | entry :: rest => entryFits entry && entriesFit rest

def entryFits : String × Json.Value → Bool
  | (_, value) => valueFits value

end

/-- The amounts of a document. -/
def Document.amounts : Document → List Nat
  | .opportunity loop =>
      loop.inputAmount :: loop.expectedOutputAmount :: loop.expectedNetProfit
        :: loop.route.flatMap fun leg => leg.amountIn.toList ++ leg.minAmountOut.toList
  | .simulation sim =>
      [sim.expectedGrossProfit, sim.expectedNetProfit, sim.gasCostWei, sim.l1DataFee]
  | .risk decision => [decision.minSurplus]
  | .executionRequest request =>
      request.elim [] fun request =>
        request.minRepay :: request.minSurplus :: request.flashloanAmount.toList
          ++ request.steps.flatMap fun step => step.minAmountOut :: step.amountIn.toList
  | .attempt sent =>
      sent.requestedNotional :: sent.maxFeePerGas.toList ++ sent.maxPriorityFeePerGas.toList
  | .receipt mined => mined.effectiveGasPrice.toList ++ mined.l1FeePaid.toList
  | .outcome result => result.totalFeePaid.toList ++ result.realizedSurplus.toList

/-- A serialiser that refuses what is above `u64::MAX`. -/
def sampleSerde : Serde where
  toValue value := if valueFits value then .ok value else .error ["number out of range"]
  document document :=
    if document.amounts.all fun amount => decide (amount < 2 ^ 64) then .ok ()
    else .error ["number out of range"]

/-- The sample log with a database that takes every statement. -/
def sampleLedgerArrival : LedgerArrival :=
  { event := sampleArrival.event
    observedAt := 1700000000
    logReply := .ok ()
    pools := sampleArrival.pools
    replies :=
      { CanaryRun.obligingAnswers.toOutside with
        loadExposure := .ok (), persistDecisionRun := .ok (), persistAttempt := .ok (),
        updateAttempt := .ok (), recordResult := .ok (), runInsertedAt := 1700000000,
        submittedAt := 1700000001, finalizedAt := 1700000003 } }

/-- The first run on a new database, under a serialiser that refuses large
amounts. -/
theorem firstRun_refines :
    Run.final sampleRuntime.step (Engine.start sampleBook (some emptyDatabase.summary))
        [.event (sampleLedgerArrival.abstract sampleSerde), .ctrlC (.ok ())]
      = (Run.final (sampleRuntime.stepRecorded sampleSerde)
          (Engine.start sampleBook (some emptyDatabase))
          [.event sampleLedgerArrival, .ctrlC (.ok ())]).abstract
    ∧ (sampleLedgerArrival.abstract sampleSerde).persistLog = .ok () :=
  have hrefines := ledger_refines sampleSerde sampleRuntime sampleBook (some emptyDatabase)
    emptyDatabase_numeric [.event sampleLedgerArrival, .ctrlC (.ok ())]
  ⟨hrefines.1, ((hrefines.2 sampleLedgerArrival).1 _ rfl).mpr
    ⟨⟨_, rfl⟩, by decide, rfl⟩⟩

end BaseEngine
