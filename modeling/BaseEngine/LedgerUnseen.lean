import BaseEngine.LedgerRefinement

/-!
# What the engine does not see

Most logs are for pools that the book does not have. They leave the book alone and
nothing is decided on them, but `persist_observed_log` comes first: each takes a
row of `observed_logs`, and one that cannot be written ends the engine like any
other (`BaseEngine.LedgerFailures`). As long as they can be written they do no
more than that: `ledger_filter_relevant` compares a run with the run of the
relevant signals alone. What is left of the difference in the other tables is the
number under which a decision run refers to its log.
-/

namespace BaseEngine

open Fallible

/-! ## Logs that no pool reads -/

/-- The kind of event that a pool of the book reads. -/
def PoolState.reads : PoolState → DecodedLogKind → Bool
  | .v2 _, kind => decide (kind = .v2Sync)
  | .v3 _, kind => decide (kind = .v3Swap)

/-- The log is an event for the pool that a directory has under its address. -/
def readBy (directory : String → Option PoolState) (log : Log) : Bool :=
  match log.address, log.decodedEvent with
  | some address, some decoded =>
      (directory (normalizeAddressKey address)).any (PoolState.reads · decoded.kind)
  | _, _ => false

/-- The signal ends the loop, or brings a log that a pool reads. -/
def LedgerSignal.relevant (directory : String → Option PoolState) (signal : LedgerSignal) : Bool :=
  match signal with
  | .event arrival =>
      match arrival.event with
      | .log log => readBy directory log
      | _ => false
  | _ => signal.exit?.isSome

theorem LedgerSignal.relevant_of_log {directory : String → Option PoolState}
    {arrival : LedgerArrival} {log : Log} (hevent : arrival.event = .log log) :
    LedgerSignal.relevant directory (.event arrival) = readBy directory log := by
  unfold LedgerSignal.relevant
  simp only [hevent]

section Unread

variable {u256FromDecimal : String → Option Nat} {book : PoolBook} {log : Log}

theorem readBy_of_lookup {address : String} {entry : PoolState} {decoded : DecodedLogEvent}
    (haddr : log.address = some address)
    (hentry : book.pools.lookup (normalizeAddressKey address) = some entry)
    (hdec : log.decodedEvent = some decoded) :
    readBy book.directory log = entry.reads decoded.kind := by
  unfold readBy PoolBook.directory
  simp only [haddr, hdec, hentry, Option.map_some, Option.any_some]
  cases entry with
  | v2 _ => rfl
  | v3 _ => rfl

/-- A log that no pool of the book reads is ignored. -/
theorem applyLog_of_not_read (h : readBy book.directory log = false) :
    book.applyLog u256FromDecimal log = (book, .ok .ignored) := by
  have hstep := PoolBook.bookStep_applyLog u256FromDecimal book log
  have hunread : ∀ {address entry decoded}, log.address = some address →
      book.pools.lookup (normalizeAddressKey address) = some entry →
      log.decodedEvent = some decoded → entry.reads decoded.kind = false := by
    intro address entry decoded haddr hentry hdec
    rw [← readBy_of_lookup haddr hentry hdec]
    exact h
  generalize book.applyLog u256FromDecimal log = result at hstep
  cases hstep with
  | ignored _ _ => rfl
  | applied haddr hpool _ hdec hkind _ _ _ _ _ =>
      exact absurd hkind (of_decide_eq_false (hunread haddr hpool hdec))
  | reverted haddr hpool hdec hkind _ _ _ =>
      exact absurd hkind (of_decide_eq_false (hunread haddr hpool hdec))
  | swapped haddr hpool _ hdec hkind _ =>
      exact absurd hkind (of_decide_eq_false (hunread haddr hpool hdec))
  | @failed address entry e haddr hpool hfail =>
      refine absurd ((PoolBook.logApplicable_iff haddr hpool).mpr ?_) hfail
      cases entry with
      | v2 pool =>
          exact fun decoded hdec hkind =>
            absurd hkind (of_decide_eq_false (hunread haddr hpool hdec))
      | v3 pool =>
          exact fun decoded hdec hkind =>
            absurd hkind (of_decide_eq_false (hunread haddr hpool hdec))

end Unread

/-! ## Databases with the same decisions -/

/-- A decision run without the number of its log. -/
def DecisionRunRow.unlogged (row : DecisionRunRow) : DecisionRunRow :=
  { row with observedLogId := none }

/-- The same attempts, and the same decision runs up to the numbers of their logs. -/
structure Database.SameDecisions (db db' : Database) : Prop where
  attempts : db.executionAttempts = db'.executionAttempts
  runs : db.decisionRuns.rows.map (Prod.map id DecisionRunRow.unlogged)
    = db'.decisionRuns.rows.map (Prod.map id DecisionRunRow.unlogged)
  nextRun : db.decisionRuns.nextId = db'.decisionRuns.nextId

namespace Database.SameDecisions

variable {db db' db'' : Database}

theorem refl (db : Database) : db.SameDecisions db := ⟨rfl, rfl, rfl⟩

theorem trans (h : db.SameDecisions db') (h' : db'.SameDecisions db'') : db.SameDecisions db'' :=
  ⟨h.attempts.trans h'.attempts, h.runs.trans h'.runs, h.nextRun.trans h'.nextRun⟩

/-- The observed logs do not count. -/
theorem withLogs (h : db.SameDecisions db') (observedLogs observedLogs' : ObservedLogs) :
    ({ db with observedLogs } : Database).SameDecisions
      { db' with observedLogs := observedLogs' } := ⟨h.attempts, h.runs, h.nextRun⟩

theorem withRun (h : db.SameDecisions db') {row row' : DecisionRunRow}
    (hrow : row.unlogged = row'.unlogged) : (db.withRun row).SameDecisions (db'.withRun row') where
  attempts := h.attempts
  runs := by
    unfold Database.withRun Table.insert
    dsimp only
    rw [List.map_append, List.map_append, h.runs, h.nextRun]
    simp only [List.map_cons, List.map_nil, Prod.map_apply, hrow]
  nextRun := congrArg (· + 1) h.nextRun

theorem withAttempt (h : db.SameDecisions db') (row : ExecutionAttemptRow) :
    (db.withAttempt row).SameDecisions (db'.withAttempt row) where
  attempts := by
    unfold Database.withAttempt
    rw [h.attempts]
  runs := h.runs
  nextRun := h.nextRun

theorem updateAttempt (h : db.SameDecisions db') (id : Nat) (missing : String)
    (change : ExecutionAttemptRow → ExecutionAttemptRow) :
    Paired (Option.Rel Database.SameDecisions) (fun _ => False)
      (db.updateAttempt id missing change) (db'.updateAttempt id missing change) := by
  unfold Database.updateAttempt
  rw [h.attempts]
  dsimp only
  split_ifs with hmissing
  · exact .error
  · exact .ok (.some ⟨rfl, h.runs, h.nextRun⟩)

end Database.SameDecisions

/-- Two databases with the same decisions, side by side. -/
def sameDecisions : Matching (Option Database) (Option Database) where
  storages := Option.Rel Database.SameDecisions
  logs _ _ := True
  runs := Eq
  driven i j pool pool' := i = j ∧ Option.Rel Database.SameDecisions pool pool'
  lost _ := False

section Statements

variable {serde : Serde} {replies : Ledger.Replies}

theorem Paired.bind {α β : Type} {related : α → β → Prop} {lost : β → Prop}
    (check : Except ErrorChain Unit) {x : Except ErrorChain α} {y : Except ErrorChain β}
    (h : Paired related lost x y) :
    Paired related lost (check >>= fun _ => x) (check >>= fun _ => y) := by
  cases check with
  | ok _ => exact h
  | error e => exact .error

theorem updateAttempt_paired (id : Nat) (update : AttemptUpdate) {pool pool' : Option Database}
    (h : Option.Rel Database.SameDecisions pool pool') :
    Paired (Option.Rel Database.SameDecisions) (fun _ => False)
      ((replies.statements serde).updateAttempt id update pool)
      ((replies.statements serde).updateAttempt id update pool') := by
  cases h with
  | none =>
      cases update with
      | _ => exact .ok .none
  | some hsame =>
      cases update with
      | submitted attempt => exact (hsame.updateAttempt id _ _).bind _
      | finalized attempt receipt outcome => exact (hsame.updateAttempt id _ _).bind _
      | finalizedWithoutReceipt attempt outcome => exact (hsame.updateAttempt id _ _).bind _
      | failed stage message => exact (hsame.updateAttempt id _ _).bind _

theorem statements_sameDecisions (serde : Serde) (replies : Ledger.Replies) :
    (replies.statements serde).Follows (replies.statements serde) sameDecisions where
  run := by
    rintro pool pool' record observedLogId hsame -
    cases hsame with
    | none => exact .ok ⟨.none, rfl⟩
    | some hsame =>
        rw [persistDecisionRun_eq, persistDecisionRun_eq]
        exact .map _ ⟨.some (hsame.withRun rfl), congrArg some hsame.nextRun⟩
  attempt := by
    rintro pool pool' i j attempt request hsame rfl
    cases hsame with
    | none => exact .ok ⟨rfl, .none⟩
    | some hsame =>
        rw [persistExecutionAttempt_eq, persistExecutionAttempt_eq, ← hsame.attempts]
        exact .map _ ⟨rfl, .some (hsame.withAttempt _)⟩
  update := by
    rintro pool pool' i j update ⟨rfl, hsame⟩
    cases i with
    | none => exact .inl ⟨⟨rfl, hsame⟩, rfl⟩
    | some id =>
        have hpaired := @updateAttempt_paired serde replies id update pool pool' hsame
        unfold Statements.onRow
        dsimp only
        generalize (replies.statements serde).updateAttempt id update pool = x at hpaired
        generalize (replies.statements serde).updateAttempt id update pool' = y at hpaired
        cases hpaired with
        | ok hsame' => exact .inl ⟨⟨rfl, hsame'⟩, rfl⟩
        | error => exact .inl ⟨⟨rfl, hsame⟩, rfl⟩
        | lost h => exact h.elim
  storages := fun h => h.2
  keeps := ⟨fun h => h.elim, fun h => h.elim⟩

theorem ledgerBackend_sameDecisions (serde : Serde) (sha256 : List UInt8 → String) :
    (ledgerBackend serde sha256).Follows (ledgerBackend serde sha256) id sameDecisions where
  event _ := rfl
  pools _ := rfl
  outside _ := rfl
  observed := by
    rintro pool pool' arrival log - hsame
    cases hsame with
    | none => exact .ok ⟨.none, trivial⟩
    | some hsame =>
        unfold ledgerBackend
        dsimp only [id]
        rw [observe_eq, observe_eq]
        cases (arrival.call log).send serde.toValue with
        | ok logJson => exact .ok ⟨.some (hsame.withLogs _ _), trivial⟩
        | error e => exact .error
  exposure := by
    rintro pool pool' arrival hsame
    cases hsame with
    | none => rfl
    | some hsame =>
        unfold ledgerBackend Ledger.Replies.statements Database.todaysSubmittableNotionalWei
          Database.exposure
        dsimp only [id]
        rw [hsame.attempts]
  statements arrival := statements_sameDecisions serde arrival.replies
  sure _ h := h

end Statements

/-! ## Runs -/

/-- The same book, risk state, exit and attempts handed over, on databases with
the same decisions. -/
abbrev SameButLogs (s t : LedgerEngine) : Prop := s.Like (Option.Rel Database.SameDecisions) t

/-- A log that comes to a database is taken by it: the serialiser accepts it, its
chain id fits, and the database replies. -/
def Taken (serde : Serde) (s : LedgerEngine) (signal : LedgerSignal) : Prop :=
  ∀ arrival log, signal = .event arrival → arrival.event = .log log →
    s.storage.isSome = true → (arrival.call log).Accepted serde.toValue

section Runs

variable {rt : Runtime} {serde : Serde} {s t u : LedgerEngine} {signal : LedgerSignal}

theorem rel_sameDecisions_refl (pool : Option Database) :
    Option.Rel Database.SameDecisions pool pool := by
  cases pool with
  | none => exact .none
  | some db => exact .some (.refl db)

theorem SameButLogs.refl (s : LedgerEngine) : SameButLogs s s :=
  ⟨rfl, rfl, rel_sameDecisions_refl _, rfl, rfl⟩

theorem SameButLogs.trans (h : SameButLogs s t) (h' : SameButLogs t u) : SameButLogs s u where
  book := h.book.trans h'.book
  risk := h.risk.trans h'.risk
  storage := by
    have hst := h.storage
    have htu := h'.storage
    generalize s.storage = x at hst
    generalize t.storage = y at hst htu
    generalize u.storage = z at htu
    cases hst with
    | none => exact htu
    | some hfirst =>
        cases htu with
        | some hsecond => exact .some (hfirst.trans hsecond)
  exit := h.exit.trans h'.exit
  handed := h.handed.trans h'.handed

theorem sameDecisions_of_observe {sha256 : List UInt8 → String} {pool storage : Option Database}
    {call : PersistCall} {observedLogId : Option Nat}
    (h : Database.observe serde sha256 pool call = .ok (storage, observedLogId)) :
    Option.Rel Database.SameDecisions storage pool := by
  cases rel_of_observe h with
  | none => exact .none
  | some hsame =>
      obtain ⟨_, rfl⟩ := hsame
      exact .some ⟨rfl, rfl, rfl⟩

/-- **Step lemma.** A signal that is not relevant leaves a row of `observed_logs`
at most. -/
theorem sameButLogs_step (hrelevant : signal.relevant s.book.directory = false)
    (htaken : Taken serde s signal) : SameButLogs (rt.stepRecorded serde s signal) s := by
  have hturn : LoopTurn rt (ledgerBackend serde rt.sha256) s signal
      (rt.stepRecorded serde s signal) := loopTurn_step ..
  generalize rt.stepRecorded serde s signal = s' at hturn
  cases hturn with
  | stopped _ => exact .refl s
  | hears _ _ => exact .refl s
  | passes _ _ _ => exact .refl s
  | leaves _ hend =>
      exfalso
      unfold LedgerSignal.relevant at hrelevant
      cases signal with
      | event arrival => cases hend
      | _ =>
          simp only [hend] at hrelevant
          cases hrelevant
  | unpersisted _ hsignal hevent hpersist =>
      obtain ⟨hconnected, hrefused⟩ := observe_error_iff.mp ⟨_, hpersist⟩
      exact absurd (htaken _ _ hsignal hevent hconnected) hrefused
  | inapplicable _ hsignal hevent _ hbook =>
      subst hsignal
      rw [LedgerSignal.relevant_of_log hevent] at hrelevant
      rw [applyLog_of_not_read hrelevant] at hbook
      cases hbook
  | settles hexit hsignal hevent hpersist hbook =>
      subst hsignal
      rw [LedgerSignal.relevant_of_log hevent] at hrelevant
      rw [applyLog_of_not_read hrelevant] at hbook
      cases hbook
      -- nothing is decided on an ignored log
      change SameButLogs (rt.settleWith _ _ _ none) s
      rw [Runtime.settleWith_none (by exact hexit)]
      exact ⟨rfl, rfl, sameDecisions_of_observe hpersist, rfl, rfl⟩

/-- **What the engine does not see.** As long as the logs for other pools are
taken, the engine has after a run the book, the risk state, the exit, the
attempts handed over, the rows of `execution_attempts` and, up to the numbers of
their logs, those of `decision_runs` that it has after the relevant signals alone:
those that end the loop, and `Sync` and `Swap` logs under the addresses that the
book had at the start. -/
theorem ledger_filter_relevant {signals : List LedgerSignal}
    (htaken : Run.Along (rt.stepRecorded serde)
      (fun t signal => signal.relevant s.book.directory = false → Taken serde t signal)
      s signals) :
    SameButLogs (Run.final (rt.stepRecorded serde) s signals)
      (Run.final (rt.stepRecorded serde) s
        (signals.filter (LedgerSignal.relevant s.book.directory))) := by
  have hdirectory : Run.Along (rt.stepRecorded serde)
      (fun t _ => t.exit = none → t.book.directory = s.book.directory) s signals := by
    exact Run.along_of_stable (fun t signal ih => directory_step ih signal) fun _ => rfl
  have hkeep : ∀ t u signal, SameButLogs t u →
      SameButLogs (rt.stepRecorded serde t signal) (rt.stepRecorded serde u signal) := by
    intro t u signal hsame
    have hstep := @Backend.Follows.step _ _ _ _ _ _ _ _ rt t u
      (ledgerBackend_sameDecisions serde rt.sha256) hsame signal
    rwa [Signal.map_id] at hstep
  refine Run.final_filter_related hkeep ?_ (SameButLogs.refl s)
    (Run.along_and.mpr ⟨htaken, hdirectory⟩)
  rintro t u signal hunseen hsame ⟨htaken, hdirectory⟩
  cases hexit : t.exit with
  | none =>
      have hquiet := @sameButLogs_step rt serde t signal ((hdirectory hexit).symm ▸ hunseen)
        (htaken hunseen)
      exact hquiet.trans hsame
  | some result =>
      have hover : rt.stepRecorded serde t signal = t := step_of_exit (by rw [hexit]; rfl) signal
      exact hover.symm ▸ hsame

end Runs

/-- A `Sync` under an address that the sample book does not have. -/
def strangerArrival : LedgerArrival :=
  { sampleLedgerArrival with event := .log (PoolBook.syncLogOf asset 1 2 7 false) }

/-- Of the stranger and the pool of the book only the second is seen. -/
theorem stranger_filtered :
    LedgerSignal.relevant sampleBook.directory (.event strangerArrival) = false
      ∧ LedgerSignal.relevant sampleBook.directory (.event sampleLedgerArrival) = true
      ∧ SameButLogs
          (Run.final (sampleRuntime.stepRecorded sampleSerde)
            (Engine.start sampleBook (some emptyDatabase))
            [.event strangerArrival, .event sampleLedgerArrival])
          (Run.final (sampleRuntime.stepRecorded sampleSerde)
            (Engine.start sampleBook (some emptyDatabase))
            (List.filter (LedgerSignal.relevant sampleBook.directory)
              [.event strangerArrival, .event sampleLedgerArrival])) := by
  have hstranger : LedgerSignal.relevant sampleBook.directory (.event strangerArrival) = false := by
    decide +kernel
  have hsample :
      LedgerSignal.relevant sampleBook.directory (.event sampleLedgerArrival) = true := by
    decide +kernel
  refine ⟨hstranger, hsample, ledger_filter_relevant ⟨fun _ => ?_, fun hunseen => ?_, trivial⟩⟩
  · rintro arrival log hsignal hevent -
    cases hsignal
    cases hevent
    exact ⟨⟨_, rfl⟩, by decide, rfl⟩
  · exact absurd (hunseen.symm.trans hsample) Bool.false_ne_true

end BaseEngine
