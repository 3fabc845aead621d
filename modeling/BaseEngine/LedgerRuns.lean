import BaseEngine.CircuitBreaker
import BaseEngine.EngineRuns
import BaseEngine.LedgerTruth

/-!
# The ledger along whole runs

What the tables say after any run of the engine on a database.

`Recording` and `LedgerTurn` say what one output and one turn of the loop can do
to the database; `Chronicle` is the invariant they keep. `ledger_tells`: the rows
of `execution_attempts` only grow, they say which attempts were handed to the
transport, and the circuit breaker's counter is what they say it was told; when
the engine has ended with an error, the newest row may be unfinished.
`attemptRows_traced`: every row agrees with its documents and leads to the
decision and to the log behind it.
-/

namespace BaseEngine

open Fallible Machine Streak

/-! ## Handling an output -/

section Recording

variable (sha256 : List UInt8 → String) (policy : RiskPolicy) (replies : Ledger.Replies)

/-- The row of the decision run of an output. -/
def DecisionPipelineOutput.run (out : DecisionPipelineOutput) (risk : RiskState)
    (request : Option ExecutionRequest) : DecisionRunRow :=
  (out.record (out.assessed sha256 policy replies.toOutside risk).1 request).row
    replies.runInsertedAt

/-- The ways an output is handled on a database: there is none; no row is written;
only the decision run; or the decision run and the attempt, whose row has the
updates of its course. -/
inductive Recording (output : Option DecisionPipelineOutput) (risk : RiskState) (db : Database) :
    Handled (Option Database) → Prop
  | idle (hout : output = none) : Recording output risk db (.quiet risk (some db) (.ok ()))
  | unrecorded {out : DecisionPipelineOutput} {e : ErrorChain} (hout : output = some out) :
      Recording output risk db
        (.quiet (out.assessed sha256 policy replies.toOutside risk).2 (some db) (.error e))
  | decided {out : DecisionPipelineOutput} {request : Option ExecutionRequest}
      {result : Except ErrorChain Unit} (hout : output = some out) :
      Recording output risk db
        (.quiet (out.assessed sha256 policy replies.toOutside risk).2
          (some (db.withRun (out.run sha256 policy replies risk request))) result)
  | attempted {out : DecisionPipelineOutput} {request : ExecutionRequest}
      {attempt : ExecutionAttempt} {updates : List AttemptUpdate}
      {handled : Handled (Option Database)} (hout : output = some out)
      (hrequest : buildExecutionRequest out.opportunity
        (out.assessed sha256 policy replies.toOutside risk).1 = some request)
      (hfresh : attempt.Fresh) (hid : attempt.requestId = request.opportunityId)
      (hcourse : Course request attempt updates handled.handed handled.recorded handled.result)
      (hstorage : handled.storage
        = some ((db.withRun (out.run sha256 policy replies risk (some request))).withAttempt
          ((ExecutionAttemptRow.inserted replies.insertedAt (some db.decisionRuns.nextId) attempt
            request).after replies updates)))
      (hrisk : handled.risk
        = (out.assessed sha256 policy replies.toOutside risk).2.count handled.recorded) :
      Recording output risk db handled

end Recording

variable {serde : Serde} {sha256 : List UInt8 → String} {codec : AlloyCodec} {config : AppConfig}
  {policy : RiskPolicy} {replies : Ledger.Replies} {output : Option DecisionPipelineOutput}
  {risk : RiskState} {db : Database}

theorem map_eq_ok {α : Type} {check : Except ErrorChain Unit} {value result : α}
    (h : (check.map fun _ => value) = .ok result) : value = result := by
  cases check with
  | ok _ => exact Except.ok.inj h
  | error e => cases h

/-- **What handling an output can do to the database.** -/
theorem Handling.recording {handled : Handled (Option Database)}
    (h : Handling (replies.statements serde) sha256 config policy replies.toOutside output risk
      (some db) handled) :
    Recording sha256 policy replies output risk db handled := by
  cases h with
  | idle hout => exact .idle hout
  | unrecorded hout => exact .unrecorded hout
  | decided hout hrun =>
      rw [persistDecisionRun_eq] at hrun
      obtain ⟨rfl, -⟩ := Prod.mk.inj (map_eq_ok hrun)
      exact .decided hout
  | @attempted out request prepared current _ _ _ _ _ hout hrequest hcurrent hprepared hrun
      hattempt hruns =>
      rw [persistDecisionRun_eq] at hrun
      obtain ⟨rfl, rfl⟩ := Prod.mk.inj (map_eq_ok hrun)
      rw [persistExecutionAttempt_eq] at hattempt
      obtain ⟨rfl, rfl⟩ := Prod.mk.inj (map_eq_ok hattempt)
      obtain ⟨updates, hcourse, hwrites⟩ := hruns.ran
      refine .attempted hout hrequest
        ⟨(prepareExecution_ok hprepared).built, txHash_of_prepareExecution hprepared⟩ ?_ hcourse
        hwrites.row_after hruns.risk
      obtain ⟨_, _, _, _, -, rfl⟩ := exists_policy_of_prepareExecution hprepared
      rfl

/-! ## A turn of the loop -/

/-- A log was observed: it has a row, and the other rows are still there. -/
structure Observed (sha256 : List UInt8 → String) (before after : ObservedLogs) (log : Log)
    (id : Nat) : Prop where
  kept : ∀ row ∈ before.rows, ∃ row' ∈ after.rows,
    row'.id = row.id ∧ row'.fingerprint = row.fingerprint
  row : ∃ row ∈ after.rows, row.id = id ∧ row.fingerprint = observedLogFingerprint sha256 log

theorem observed_upsert (table : ObservedLogs) (now : Nat) (log : Log) (logJson : Json.Value) :
    Observed sha256 table (table.upsert now (observedLogColumns sha256 log logJson)).1 log
      (table.upsert now (observedLogColumns sha256 log logJson)).2 := by
  constructor
  · intro row hrow
    obtain ⟨_, -, -, hrows, -⟩ | ⟨-, hrows, -⟩ :=
      @ObservedLogs.upsert_cases table now (observedLogColumns sha256 log logJson)
    · refine ⟨_, hrows ▸ List.mem_map_of_mem hrow, ?_, ObservedLogs.fingerprint_overwrite ..⟩
      unfold ObservedLogs.overwrite
      split_ifs with hsame
      · rfl
      · rfl
    · exact ⟨row, hrows ▸ List.mem_cons_of_mem _ hrow, rfl, rfl⟩
  · obtain ⟨row, hrow, hfingerprint, hid⟩ :=
      @ObservedLogs.exists_row_upsert table now (observedLogColumns sha256 log logJson)
    exact ⟨row, hrow, hid, hfingerprint⟩

theorem observe_eq (call : PersistCall) :
    Database.observe serde sha256 (some db) call
      = (call.send serde.toValue).map fun logJson =>
        (some { db with
            observedLogs := (db.observedLogs.upsert call.now
              (observedLogColumns sha256 call.log logJson)).1 },
          some (db.observedLogs.upsert call.now
            (observedLogColumns sha256 call.log logJson)).2) := by
  unfold Database.observe persistObservedLog
  cases call.send serde.toValue with
  | ok logJson => rfl
  | error e => rfl

/-- Only a database can refuse a log. -/
theorem observe_error_iff {pool : Option Database} {call : PersistCall} :
    (∃ e, Database.observe serde sha256 pool call = .error e)
      ↔ pool.isSome = true ∧ ¬ call.Accepted serde.toValue := by
  cases pool with
  | none => exact iff_of_false (fun ⟨_, h⟩ => (nomatch h)) fun h => absurd h.1 Bool.false_ne_true
  | some db =>
      rw [observe_eq, ← PersistCall.send_isOk_iff, and_iff_right Option.isSome_some]
      cases call.send serde.toValue with
      | ok logJson => exact iff_of_false (fun ⟨_, h⟩ => (nomatch h)) fun h => h ⟨logJson, rfl⟩
      | error e => exact iff_of_true ⟨e, rfl⟩ fun ⟨_, h⟩ => (nomatch h)

theorem observed_of_observe {call : PersistCall} {result : Option Database × Option Nat}
    (h : Database.observe serde sha256 (some db) call = .ok result) :
    ∃ table id, Observed sha256 db.observedLogs table call.log id
      ∧ result = (some { db with observedLogs := table }, some id) := by
  rw [observe_eq] at h
  cases hsend : call.send serde.toValue with
  | ok logJson =>
      rw [hsend] at h
      exact ⟨_, _, observed_upsert db.observedLogs call.now call.log logJson,
        (Except.ok.inj h).symm⟩
  | error e =>
      rw [hsend] at h
      cases h

/-- A log that is written changes nothing but the observed logs. -/
theorem rel_of_observe {pool storage : Option Database} {call : PersistCall}
    {observedLogId : Option Nat}
    (h : Database.observe serde sha256 pool call = .ok (storage, observedLogId)) :
    Option.Rel (fun after before : Database => ∃ observedLogs, after = { before with observedLogs })
      storage pool := by
  cases pool with
  | none =>
      obtain ⟨rfl, -⟩ := Prod.mk.inj (Except.ok.inj h)
      exact .none
  | some db =>
      obtain ⟨table, id, -, hresult⟩ := observed_of_observe h
      obtain ⟨rfl, -⟩ := Prod.mk.inj hresult
      exact .some ⟨table, rfl⟩

/-- The output was decided after the log, which has the row. -/
structure DecisionPipelineOutput.Follows (out : DecisionPipelineOutput) (log : Log) (id : Nat) :
    Prop where
  observedLogId : out.observedLogId = some id
  triggerTxHash : out.opportunity.triggerTxHash = log.metadata.txHash
  blockContext : out.opportunity.blockContext = log.metadata.blockContext

variable {rt : Runtime} {s s' : LedgerEngine}

theorem Runtime.follows_of_decisionOn {id : Nat} {pools : List V2PoolState} {log : Log}
    {outcome : MarketEventOutcome} {out : DecisionPipelineOutput}
    (h : rt.decisionOn (some id) pools log outcome = some out) : out.Follows log id := by
  obtain ⟨-, scan, -, hdecide⟩ := Runtime.decisionOn_eq_some h
  obtain ⟨hhead, -, hid⟩ := RuntimeScanConfig.decide_eq_some_iff.mp hdecide
  obtain ⟨first, -, second, -, hloop⟩ := exists_pairLoop_of_head? hhead
  obtain ⟨-, there, back, -, -, hopp⟩ := pairLoop_eq_some_iff.mp hloop
  refine ⟨hid, ?_, ?_⟩
  · rw [hopp]
    rfl
  · rw [hopp]
    rfl

/-- The ways through a turn of the loop on a database. -/
inductive LedgerTurn (rt : Runtime) (s : LedgerEngine) (db : Database) : LedgerEngine → Prop
  | kept {exit : Option (Except ErrorChain String)} (hexit : s.exit.isSome = true → exit = s.exit) :
      LedgerTurn rt s db { s with exit }
  | observed {log : Log} {table : ObservedLogs} {id : Nat} {book : PoolBook} {e : ErrorChain}
      (hlog : Observed rt.sha256 db.observedLogs table log id) :
      LedgerTurn rt s db
        ({ s with storage := some { db with observedLogs := table }, book }.leave (.error e))
  | handled {log : Log} {table : ObservedLogs} {id : Nat} {book : PoolBook}
      {replies : Ledger.Replies} {output : Option DecisionPipelineOutput}
      {handled : Handled (Option Database)} (hexit : s.exit = none)
      (hlog : Observed rt.sha256 db.observedLogs table log id)
      (hfollows : ∀ out ∈ output, out.Follows log id)
      (hrecording : Recording rt.sha256 rt.policy replies output s.risk
        { db with observedLogs := table } handled) :
      LedgerTurn rt s db
        ({ s with storage := some { db with observedLogs := table }, book }.record
          replies.toOutside handled)

/-- **What a turn of the loop can do to the database.** -/
theorem ledgerTurn_step (hpool : s.storage = some db) (signal : LedgerSignal) :
    LedgerTurn rt s db (rt.stepRecorded serde s signal) := by
  have hturn : LoopTurn rt (ledgerBackend serde rt.sha256) s signal
      (rt.stepRecorded serde s signal) := loopTurn_step ..
  have hkept : ∀ result, s.exit = none → LedgerTurn rt s db (s.leave result) :=
    fun result hexit => .kept fun hsome => by rw [hexit] at hsome; cases hsome
  generalize rt.stepRecorded serde s signal = next at hturn
  cases hturn with
  | stopped _ => exact .kept fun _ => rfl
  | hears _ _ => exact .kept fun _ => rfl
  | passes _ _ _ => exact .kept fun _ => rfl
  | leaves hexit _ => exact hkept _ hexit
  | unpersisted hexit _ _ _ => exact hkept _ hexit
  | @inapplicable arrival log storage observedLogId book e hexit _ _ hpersist _ =>
      rw [hpool] at hpersist
      obtain ⟨table, id, hlog, hresult⟩ := observed_of_observe hpersist
      obtain ⟨rfl, -⟩ := Prod.mk.inj hresult
      exact .observed hlog
  | @settles arrival log storage observedLogId book outcome hexit _ _ hpersist _ =>
      rw [hpool] at hpersist
      obtain ⟨table, id, hlog, hresult⟩ := observed_of_observe hpersist
      obtain ⟨rfl, rfl⟩ := Prod.mk.inj hresult
      exact .handled hexit hlog (fun out hout => Runtime.follows_of_decisionOn hout)
        handling_maybeLogDecisionOutput.recording

/-! ## Runs -/

/-- The decision run and the log behind an attempt's row. -/
def ExecutionAttemptRow.Traced (sha256 : List UInt8 → String) (db : Database)
    (row : ExecutionAttemptRow) : Prop :=
  ∃ runId run logId log, row.decisionRunId = some runId
    ∧ db.decisionRuns.find? runId = some run
    ∧ run.riskAccepted = true ∧ run.opportunityId = row.requestId
    ∧ run.executionRequestJson = some row.executionRequestJson
    ∧ run.observedLogId = some logId ∧ run.triggerTxHash = log.metadata.txHash
    ∧ run.blockContext = String.ofList log.metadata.blockContext.json.text
    ∧ ∃ logRow ∈ db.observedLogs.rows,
      logRow.id = logId ∧ logRow.fingerprint = observedLogFingerprint sha256 log

/-- No table loses a row that another can point to. -/
structure Database.Extends (db db' : Database) : Prop where
  runs : ∀ {id run}, db.decisionRuns.find? id = some run → db'.decisionRuns.find? id = some run
  logs : ∀ row ∈ db.observedLogs.rows, ∃ row' ∈ db'.observedLogs.rows,
    row'.id = row.id ∧ row'.fingerprint = row.fingerprint

theorem Database.Extends.traced {db db' : Database} (h : db.Extends db')
    {row : ExecutionAttemptRow} (hrow : row.Traced sha256 db) : row.Traced sha256 db' := by
  obtain ⟨runId, run, logId, log, hid, hrun, haccepted, hopp, hrequest, hlogId, htrigger, hcontext,
    logRow, hlogRow, hsame, hfingerprint⟩ := hrow
  obtain ⟨logRow', hlogRow', hsame', hfingerprint'⟩ := h.logs logRow hlogRow
  exact ⟨runId, run, logId, log, hid, h.runs hrun, haccepted, hopp, hrequest, hlogId, htrigger,
    hcontext, logRow', hlogRow', hsame'.trans hsame, hfingerprint'.trans hfingerprint⟩

theorem Database.Extends.trans {db db' db'' : Database} (h : db.Extends db')
    (h' : db'.Extends db'') : db.Extends db'' where
  runs := fun hrun => h'.runs (h.runs hrun)
  logs := fun row hrow => by
    obtain ⟨row', hrow', hid, hfingerprint⟩ := h.logs row hrow
    obtain ⟨row'', hrow'', hid', hfingerprint'⟩ := h'.logs row' hrow'
    exact ⟨row'', hrow'', hid'.trans hid, hfingerprint'.trans hfingerprint⟩

theorem Database.extends_observed {table : ObservedLogs} {log : Log} {id : Nat}
    (h : Observed sha256 db.observedLogs table log id) :
    db.Extends { db with observedLogs := table } where
  runs := fun hrun => hrun
  logs := h.kept

theorem Database.extends_withRun (db : Database) (row : DecisionRunRow) :
    db.Extends (db.withRun row) where
  runs := fun hrun => Table.find?_insert_of_find? hrun row
  logs := fun row hrow => ⟨row, hrow, rfl, rfl⟩

theorem Database.extends_withAttempt (db : Database) (row : ExecutionAttemptRow) :
    db.Extends (db.withAttempt row) where
  runs := fun hrun => hrun
  logs := fun row hrow => ⟨row, hrow, rfl, rfl⟩

/-- A row that points to the decision run of its output is traced. -/
theorem traced_of_follows {db' : Database} {out : DecisionPipelineOutput} {log : Log} {id : Nat}
    {request : ExecutionRequest} {row : ExecutionAttemptRow}
    (hlog : ∃ logRow ∈ db'.observedLogs.rows,
      logRow.id = id ∧ logRow.fingerprint = observedLogFingerprint sha256 log)
    (hfollows : out.Follows log id)
    (hrequest : buildExecutionRequest out.opportunity
      (out.assessed sha256 policy replies.toOutside risk).1 = some request)
    (hrunId : row.decisionRunId = some db'.decisionRuns.nextId)
    (hid : row.requestId = request.opportunityId) (hrow : row.executionRequestJson = request) :
    row.Traced sha256
      ((db'.withRun (out.run sha256 policy replies risk (some request))).withAttempt row) := by
  obtain ⟨haccepted, -⟩ := buildExecutionRequest_fields hrequest
  refine ⟨_, _, id, log, hrunId, Table.find?_insert_self _, haccepted, ?_, ?_,
    hfollows.observedLogId, hfollows.triggerTxHash, ?_, hlog⟩
  · rw [hid, buildExecutionRequest_opportunityId hrequest]
    rfl
  · rw [hrow]
    rfl
  · rw [← hfollows.blockContext]
    rfl

/-- The engine has not ended with an error. -/
def Engine.Sound (s : LedgerEngine) : Prop := ∀ e, s.exit ≠ some (.error e)

/-- What the database says of a run that started on `db₀`: the rows that were
added, the last of which may be pending when the engine has ended with an error. -/
structure Chronicle (rt : Runtime) (db₀ : Database) (s : LedgerEngine) (db : Database)
    (new pending : List ExecutionAttemptRow) : Prop where
  storage : s.storage = some db
  rows : db.executionAttempts.values = db₀.executionAttempts.values ++ (new ++ pending)
  single : pending.length ≤ 1
  sound : s.Sound → pending = []
  handed : ∃ extra, (extra = [] ∨ extra = pending.map ExecutionAttemptRow.entry)
    ∧ s.handed.map Handover.entry
      = (new.filter ExecutionAttemptRow.handedOver).map ExecutionAttemptRow.entry ++ extra
  reverts : s.Sound → s.risk.consecutiveReverts
    = min (2 ^ 32 - 1) (streak (!·) (new.filterMap ExecutionAttemptRow.told))
  truthful : ∀ row ∈ new ++ pending, row.Coherent ∧ row.Traced rt.sha256 db

/-- An outcome is counted as the history says, up to the largest word. -/
theorem count_consecutiveReverts_min {risk : RiskState} {outcomes : List Bool}
    (h : risk.consecutiveReverts = min (2 ^ 32 - 1) (streak (!·) outcomes))
    (told : Option Bool) :
    (risk.count told).consecutiveReverts
      = min (2 ^ 32 - 1) (streak (!·) (outcomes ++ told.toList)) := by
  cases told with
  | none => simpa [RiskState.count] using h
  | some success =>
      rw [Option.toList_some, streak_concat]
      cases success with
      | true => rfl
      | false =>
          change saturatingAdd 32 risk.consecutiveReverts 1
            = min (2 ^ 32 - 1) (streak (!·) outcomes + 1)
          rw [h]
          unfold saturatingAdd
          omega

namespace Chronicle

variable {db₀ db' : Database} {new pending : List ExecutionAttemptRow}

theorem start (book : PoolBook) (db₀ : Database) :
    Chronicle rt db₀ (Engine.start book (some db₀)) db₀ [] [] where
  storage := rfl
  rows := (List.append_nil _).symm
  single := Nat.zero_le 1
  sound := fun _ => rfl
  handed := ⟨[], .inl rfl, rfl⟩
  reverts := fun _ => (Nat.min_zero _).symm
  truthful := fun _ hrow => absurd hrow List.not_mem_nil

theorem sound_of_running (hexit : s.exit = none) : s.Sound := by
  intro e hend
  rw [hexit] at hend
  cases hend

/-- The rows stay as they are: nothing is handed over, and either the engine ends
with an error or the breaker is told nothing. -/
theorem unchanged (h : Chronicle rt db₀ s db new pending) (hpool : s'.storage = some db')
    (hrows : db'.executionAttempts = db.executionAttempts) (hextends : db.Extends db')
    (hhanded : s'.handed = s.handed)
    (hsound : s'.Sound → s.Sound ∧ s'.risk.consecutiveReverts = s.risk.consecutiveReverts) :
    Chronicle rt db₀ s' db' new pending where
  storage := hpool
  rows := by rw [hrows]; exact h.rows
  single := h.single
  sound := fun hs => h.sound (hsound hs).1
  handed := by rw [hhanded]; exact h.handed
  reverts := fun hs => (hsound hs).2.trans (h.reverts (hsound hs).1)
  truthful := fun row hrow => ⟨(h.truthful row hrow).1, hextends.traced (h.truthful row hrow).2⟩

/-- A row more, of an attempt that has run its course. -/
theorem attempted (h : Chronicle rt db₀ s db new pending) (hrunning : s.Sound)
    {request : ExecutionRequest} {attempt : ExecutionAttempt} {runId : Option Nat}
    {updates : List AttemptUpdate} {row : ExecutionAttemptRow} {handled : Handled (Option Database)}
    (hfresh : attempt.Fresh)
    (hcourse : Course request attempt updates handled.handed handled.recorded handled.result)
    (hrow : row = (ExecutionAttemptRow.inserted replies.insertedAt runId attempt request).after
      replies updates)
    (hextends : db.Extends db')
    (hrows : db'.executionAttempts.values = db.executionAttempts.values ++ [row])
    (htraced : row.Traced rt.sha256 db') (hpool : s'.storage = some db')
    (hhanded : s'.handed = s.handed ++ handled.handed.map replies.toOutside.handover)
    (hrisk : ∃ risk : RiskState, risk.consecutiveReverts = s.risk.consecutiveReverts
      ∧ s'.risk = risk.count handled.recorded)
    (hexit : s'.Sound ↔ handled.result = .ok ()) :
    ∃ new' pending', Chronicle rt db₀ s' db' new' pending' := by
  have hcoherent : row.Coherent := hrow ▸ hcourse.coherent hfresh
  obtain rfl := h.sound hrunning
  obtain ⟨extra, hextra, hbefore⟩ := h.handed
  obtain rfl : extra = [] := by simpa using hextra
  have hvalues : db'.executionAttempts.values
      = db₀.executionAttempts.values ++ (new ++ [row]) := by
    rw [hrows, h.rows, List.append_nil, List.append_assoc]
  have htruthful : ∀ other ∈ new ++ [row], other.Coherent ∧ other.Traced rt.sha256 db' := by
    intro other hother
    rcases List.mem_append.mp hother with hold | hnew
    · have hold := h.truthful other (List.mem_append_left _ hold)
      exact ⟨hold.1, hextends.traced hold.2⟩
    · obtain rfl := List.mem_singleton.mp hnew
      exact ⟨hcoherent, htraced⟩
  have hentries : s'.handed.map Handover.entry
      = (new.filter ExecutionAttemptRow.handedOver).map ExecutionAttemptRow.entry
        ++ handled.handed.map fun attempt => (replies.insertedAt, attempt) := by
    rw [hhanded, List.map_append, hbefore, List.append_nil, List.map_map]
    rfl
  cases hresult : handled.result with
  | error e =>
      -- the engine has ended, and the row is pending
      have hfailed : ¬ s'.Sound := fun hs => by cases hresult.symm.trans (hexit.mp hs)
      rw [hresult] at hcourse
      have hpends := @Course.pends request attempt replies.insertedAt runId updates _ _ replies
        hfresh e hcourse
      rw [← hrow] at hpends
      exact ⟨new, [row], hpool, hvalues, Nat.le_refl 1, fun hs => absurd hs hfailed,
        ⟨_, hpends, hentries⟩, fun hs => absurd hs hfailed, htruthful⟩
  | ok _ =>
      rw [hresult] at hcourse
      obtain ⟨htold, hover⟩ := hcourse.tells hfresh hrow
      obtain ⟨risk, hreverts, hcount⟩ := hrisk
      refine ⟨new ++ [row], [], hpool, ?_, Nat.zero_le 1, fun _ => rfl, ⟨[], .inl rfl, ?_⟩, ?_, ?_⟩
      · rw [hvalues, List.append_nil]
      · rw [hentries, hover, List.filter_append, List.map_append, List.append_nil]
      · intro _
        have hold := h.reverts hrunning
        rw [List.filterMap_append, hcount]
        have hnew : [row].filterMap ExecutionAttemptRow.told = handled.recorded.toList := by
          rw [← htold]
          cases hrow : row.told with
          | none => simp [hrow]
          | some success => simp [hrow]
        rw [hnew]
        exact count_consecutiveReverts_min (hreverts.trans hold) handled.recorded
      · rw [List.append_nil]
        exact htruthful

theorem sound_record_iff {outside : Outside} {handled : Handled (Option Database)} :
    (s.record outside handled).Sound ↔ handled.result = .ok () := by
  unfold Engine.Sound Engine.record
  dsimp only
  cases handled.result with
  | ok _ => simp
  | error e => simp

/-- **Step lemma.** -/
theorem step (h : Chronicle rt db₀ s db new pending) (hturn : LedgerTurn rt s db s') :
    ∃ db' new' pending', Chronicle rt db₀ s' db' new' pending' := by
  cases hturn with
  | @kept exit hexit =>
      refine ⟨db, new, pending, h.unchanged h.storage rfl
        ⟨id, fun row hrow => ⟨row, hrow, rfl, rfl⟩⟩ rfl fun hs => ⟨?_, rfl⟩⟩
      cases hbefore : s.exit with
      | none => exact sound_of_running hbefore
      | some result =>
          intro e hend
          exact hs e ((hexit (by rw [hbefore]; rfl)).trans hend)
  | @observed log table id book e hlog =>
      have hfailed : ¬ (Engine.leave
          { s with storage := some { db with observedLogs := table }, book }
          (.error e)).Sound := fun hs => hs e rfl
      exact ⟨_, new, pending, h.unchanged rfl rfl (Database.extends_observed hlog) rfl
        fun hs => absurd hs hfailed⟩
  | @handled log table id book replies output handled hexit hlog hfollows hrecording =>
      have hrunning := sound_of_running hexit
      have hobserved := Database.extends_observed hlog
      cases hrecording with
      | idle _ =>
          exact ⟨_, new, pending, h.unchanged rfl rfl hobserved (List.append_nil _)
            fun _ => ⟨hrunning, rfl⟩⟩
      | unrecorded _ =>
          exact ⟨_, new, pending, h.unchanged rfl rfl hobserved (List.append_nil _)
            fun _ => ⟨hrunning, assess_consecutiveReverts ..⟩⟩
      | decided _ =>
          exact ⟨_, new, pending, h.unchanged rfl rfl
            (hobserved.trans (Database.extends_withRun _ _)) (List.append_nil _)
            fun _ => ⟨hrunning, assess_consecutiveReverts ..⟩⟩
      | @attempted out request attempt updates _ hout hrequest hfresh hid hcourse hstorage hrisk =>
          obtain ⟨hrunId, hrowId, hrowRequest⟩ := ExecutionAttemptRow.identity_after replies
            (.inserted replies.insertedAt (some db.decisionRuns.nextId) attempt request) updates
          exact ⟨_, h.attempted hrunning hfresh hcourse rfl
            ((hobserved.trans (Database.extends_withRun _ _)).trans
              (Database.extends_withAttempt _ _)) (Table.values_insert _)
            (traced_of_follows hlog.row (hfollows out hout) hrequest hrunId
              (hrowId.trans hid) hrowRequest) hstorage rfl
            ⟨_, assess_consecutiveReverts .., hrisk⟩ sound_record_iff⟩

end Chronicle

/-- The engine after a run that started on a database. -/
def Runtime.runRecorded (rt : Runtime) (serde : Serde) (book : PoolBook) (db : Database)
    (signals : List LedgerSignal) : LedgerEngine :=
  Run.final (rt.stepRecorded serde) (Engine.start book (some db)) signals

/-- **Run lemma.** -/
theorem chronicle_run (serde : Serde) (rt : Runtime) (book : PoolBook) (db₀ : Database)
    (signals : List LedgerSignal) :
    ∃ db new pending, Chronicle rt db₀ (rt.runRecorded serde book db₀ signals) db new pending := by
  have hstep : ∀ (s : LedgerEngine) (signal : LedgerSignal),
      (∃ db new pending, Chronicle rt db₀ s db new pending) → True →
      ∃ db new pending, Chronicle rt db₀ (rt.stepRecorded serde s signal) db new pending := by
    rintro s signal ⟨db, new, pending, h⟩ -
    exact h.step (ledgerTurn_step h.storage signal)
  exact Run.inv_final hstep ⟨db₀, [], [], Chronicle.start book db₀⟩
    (Run.along_of_forall fun _ _ => trivial)

/-- **The ledger tells what has happened.** In every run on a database the rows of
`execution_attempts` only grow, by rows that say which attempts were handed to the
transport, in their order and with the times at which the database wrote the rows,
and what the circuit breaker was told; the breaker's counter can be rebuilt from
them. When the engine has ended with an error there may be one row more, whose
attempt was handed over or not. -/
theorem ledger_tells (serde : Serde) (rt : Runtime) (book : PoolBook) (db₀ : Database)
    (signals : List LedgerSignal) :
    ∃ db new pending extra,
      (rt.runRecorded serde book db₀ signals).storage = some db
      ∧ db.executionAttempts.values = db₀.executionAttempts.values ++ (new ++ pending)
      ∧ (rt.runRecorded serde book db₀ signals).handed.map Handover.entry
        = (new.filter ExecutionAttemptRow.handedOver).map ExecutionAttemptRow.entry ++ extra
      ∧ pending.length ≤ 1 ∧ (extra = [] ∨ extra = pending.map ExecutionAttemptRow.entry)
      ∧ ((∃ e, (rt.runRecorded serde book db₀ signals).exit = some (.error e))
        ∨ pending = []
          ∧ (rt.runRecorded serde book db₀ signals).risk.consecutiveReverts
            = min (2 ^ 32 - 1) (streak (!·) (new.filterMap ExecutionAttemptRow.told))) := by
  obtain ⟨db, new, pending, h⟩ := chronicle_run serde rt book db₀ signals
  obtain ⟨extra, hextra, hhanded⟩ := h.handed
  refine ⟨db, new, pending, extra, h.storage, h.rows, hhanded, h.single, hextra, ?_⟩
  by_cases hsound : (rt.runRecorded serde book db₀ signals).Sound
  · exact .inr ⟨h.sound hsound, h.reverts hsound⟩
  · obtain ⟨e, hend⟩ := not_forall.mp hsound
    exact .inl ⟨e, not_not.mp hend⟩

/-- A turn adds rows and changes none. -/
theorem LedgerTurn.appends (hturn : LedgerTurn rt s db s') (hpool : s.storage = some db) :
    ∃ db', s'.storage = some db'
      ∧ db.executionAttempts.values <+: db'.executionAttempts.values := by
  cases hturn with
  | kept _ => exact ⟨db, hpool, List.prefix_refl _⟩
  | observed _ => exact ⟨_, rfl, List.prefix_refl _⟩
  | handled _ _ _ hrecording =>
      cases hrecording with
      | idle _ => exact ⟨_, rfl, List.prefix_refl _⟩
      | unrecorded _ => exact ⟨_, rfl, List.prefix_refl _⟩
      | decided _ => exact ⟨_, rfl, List.prefix_refl _⟩
      | attempted _ _ _ _ _ hstorage _ =>
          exact ⟨_, hstorage, [_], (Table.values_insert _).symm⟩

/-- **Rows are final and lead back to their log.** What a row says after the signal
that wrote it is never changed by a later one; its columns, documents, times and
errors fit together; and it points to the accepted decision run of its request,
which points to the observed log that was decided on. -/
theorem attemptRows_traced (serde : Serde) (rt : Runtime) (book : PoolBook) (db₀ : Database)
    (earlier later : List LedgerSignal) :
    ∃ db₁ db₂ new, (rt.runRecorded serde book db₀ earlier).storage = some db₁
      ∧ (rt.runRecorded serde book db₀ (earlier ++ later)).storage = some db₂
      ∧ db₂.executionAttempts.values = db₁.executionAttempts.values ++ new
      ∧ ∀ row ∈ new, row.Coherent ∧ row.Traced rt.sha256 db₂ := by
  obtain ⟨db₁, new₁, pending₁, h₁⟩ := chronicle_run serde rt book db₀ earlier
  obtain ⟨db₂, new₂, pending₂, h₂⟩ := chronicle_run serde rt book db₀ (earlier ++ later)
  have hstep : ∀ (s : LedgerEngine) (signal : LedgerSignal),
      (∃ db, s.storage = some db ∧ db₁.executionAttempts.values <+: db.executionAttempts.values) →
      True → ∃ db, (rt.stepRecorded serde s signal).storage = some db
        ∧ db₁.executionAttempts.values <+: db.executionAttempts.values := by
    rintro s signal ⟨db, hpool, hgrown⟩ -
    obtain ⟨db', hpool', hgrown'⟩ := (ledgerTurn_step hpool signal).appends hpool
    exact ⟨db', hpool', hgrown.trans hgrown'⟩
  have hrun := Run.inv_final hstep ⟨db₁, h₁.storage, List.prefix_refl _⟩
    (@Run.along_of_forall _ _ _ _ later _ fun _ _ => trivial)
  obtain ⟨db, hpool, new, hnew⟩ := hrun
  have hsplit : rt.runRecorded serde book db₀ (earlier ++ later)
      = Run.final (rt.stepRecorded serde) (rt.runRecorded serde book db₀ earlier) later :=
    Run.final_append ..
  obtain rfl : db = db₂ := Option.some.inj (hpool.symm.trans (hsplit ▸ h₂.storage))
  refine ⟨db₁, db, new, h₁.storage, h₂.storage, hnew.symm, fun row hrow => h₂.truthful row ?_⟩
  have hrows := hnew.trans h₂.rows
  rw [h₁.rows, List.append_assoc, List.append_right_inj] at hrows
  rw [← hrows]
  exact List.mem_append_right _ hrow

end BaseEngine
