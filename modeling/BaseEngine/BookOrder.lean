import BaseEngine.EngineFailures
import BaseEngine.Lib.Cells
import BaseEngine.SystemRuns

/-!
# The order of the logs of a pool

The streams put the logs of different pools into the channel in an order that
nobody chose. `PoolBook::apply_log` works on the pool that the log addresses and
on the snapshot under the log's transaction hash and log index (`BookCell`), so
that a log is local to its pool (`applyLog_local`) as long as no two pools have
logs of one hash and index (`Owned`).

The order within each pool is then all that counts. `engine_of_interleaving`: an
engine that got through a sequence of logs gets through every other one that has
each pool's logs in the same order, and it ends with the same book.
-/

namespace BaseEngine

/-- A cell of the book: a pool, or the snapshot of an applied `Sync`. -/
inductive BookCell where
  | pool (key : String)
  | sync (id : AppliedLogKey)

def PoolBook.cell (book : PoolBook) : BookCell → Option (PoolState ⊕ V2SyncSnapshot)
  | .pool key => (book.pools.lookup key).map .inl
  | .sync id => (book.appliedSyncHistory.lookup id).map .inr

/-- The pool of a cell, for an assignment of the applied logs to pools. -/
def BookCell.key (owner : AppliedLogKey → String) : BookCell → String
  | .pool key => key
  | .sync id => owner id

def Log.poolKey (log : Log) : Option String := log.address.map normalizeAddressKey

/-- The log's transaction hash and log index are assigned to the log's pool. -/
def Owned (owner : AppliedLogKey → String) (log : Log) : Prop :=
  ∀ key id, log.poolKey = some key → appliedLogKey log = .ok id → owner id = key

theorem owned_of {owner : AppliedLogKey → String} {log : Log} {key : String} {id : AppliedLogKey}
    (hkey : log.poolKey = some key) (hid : appliedLogKey log = .ok id) (howner : owner id = key) :
    Owned owner log := by
  intro key' id' hkey' hid'
  obtain rfl := Option.some.inj (hkey.symm.trans hkey')
  obtain rfl := Except.ok.inj (hid.symm.trans hid')
  exact howner

namespace PoolBook

theorem cell_pool_eq_iff {book book' : PoolBook} {key : String} :
    book.cell (.pool key) = book'.cell (.pool key)
      ↔ book.pools.lookup key = book'.pools.lookup key :=
  (Option.map_injective Sum.inl_injective).eq_iff

theorem cell_sync_eq_iff {book book' : PoolBook} {id : AppliedLogKey} :
    book.cell (.sync id) = book'.cell (.sync id)
      ↔ book.appliedSyncHistory.lookup id = book'.appliedSyncHistory.lookup id :=
  (Option.map_injective Sum.inr_injective).eq_iff

theorem ext_cell {book book' : PoolBook} (h : ∀ c, book.cell c = book'.cell c) :
    book = book' := by
  have hpools : book.pools = book'.pools :=
    Finmap.ext_lookup fun key => cell_pool_eq_iff.mp (h (.pool key))
  have hhistory : book.appliedSyncHistory = book'.appliedSyncHistory :=
    Finmap.ext_lookup fun id => cell_sync_eq_iff.mp (h (.sync id))
  cases book
  cases book'
  rw [PoolBook.mk.injEq]
  exact ⟨hpools, hhistory⟩

section Locality

variable {u256FromDecimal : String → Option Nat} {book book' : PoolBook} {log : Log}

/-- A log leaves the other pools alone. -/
theorem lookup_applyLog_of_ne {key : String} (h : log.poolKey ≠ some key) :
    (book.applyLog u256FromDecimal log).1.pools.lookup key = book.pools.lookup key := by
  have hne : ∀ {address}, log.address = some address → key ≠ normalizeAddressKey address := by
    rintro address haddr rfl
    exact h (by rw [Log.poolKey, haddr]; rfl)
  have hstep := bookStep_applyLog u256FromDecimal book log
  generalize book.applyLog u256FromDecimal log = r at hstep
  cases hstep with
  | ignored _ _ => rfl
  | applied haddr _ _ _ _ _ _ _ _ _ => exact lookup_insertPool_of_ne _ _ (hne haddr)
  | reverted haddr _ _ _ _ _ _ => exact lookup_insertPool_of_ne _ _ (hne haddr)
  | swapped haddr _ _ _ _ _ => exact lookup_insertPool_of_ne _ _ (hne haddr)
  | failed haddr _ _ => exact lookup_removePool_of_ne _ (hne haddr)

/-- A log leaves the snapshots of the other logs alone, and all of them when it
addresses no pool. -/
theorem history_applyLog_of_ne {id : AppliedLogKey}
    (h : ∀ key, log.poolKey = some key → appliedLogKey log ≠ .ok id) :
    (book.applyLog u256FromDecimal log).1.appliedSyncHistory.lookup id
      = book.appliedSyncHistory.lookup id := by
  have hne : ∀ {address id'}, log.address = some address → appliedLogKey log = .ok id' →
      id ≠ id' := by
    rintro address id' haddr hid rfl
    exact h (normalizeAddressKey address) (by rw [Log.poolKey, haddr]; rfl) hid
  have hstep := bookStep_applyLog u256FromDecimal book log
  generalize book.applyLog u256FromDecimal log = r at hstep
  cases hstep with
  | ignored _ _ => rfl
  | applied haddr _ _ _ _ hid _ _ _ _ => exact lookup_rememberSync_of_ne _ _ (hne haddr hid)
  | reverted haddr _ _ _ hid _ _ => exact lookup_forgetSync_of_ne _ (hne haddr hid)
  | swapped _ _ _ _ _ _ => rfl
  | failed _ _ _ => rfl

/-- Two books that a log cannot tell apart. -/
structure AlikeFor (log : Log) (book book' : PoolBook) : Prop where
  slot : ∀ key, log.poolKey = some key → book.pools.lookup key = book'.pools.lookup key
  snapshot : ∀ id, appliedLogKey log = .ok id →
    book.appliedSyncHistory.lookup id = book'.appliedSyncHistory.lookup id

theorem AlikeFor.insertPool {address : String} (haddr : log.address = some address)
    (hsnapshot : ∀ id, appliedLogKey log = .ok id →
      book.appliedSyncHistory.lookup id = book'.appliedSyncHistory.lookup id)
    (entry : PoolState) :
    AlikeFor log (book.insertPool (normalizeAddressKey address) entry)
      (book'.insertPool (normalizeAddressKey address) entry) := by
  refine ⟨fun key hkey => ?_, hsnapshot⟩
  rw [Log.poolKey, haddr] at hkey
  obtain rfl := Option.some.inj hkey
  rw [lookup_insertPool_self, lookup_insertPool_self]

theorem AlikeFor.removePool {address : String} (haddr : log.address = some address)
    (hsnapshot : ∀ id, appliedLogKey log = .ok id →
      book.appliedSyncHistory.lookup id = book'.appliedSyncHistory.lookup id) :
    AlikeFor log (book.removePool (normalizeAddressKey address))
      (book'.removePool (normalizeAddressKey address)) := by
  refine ⟨fun key hkey => ?_, hsnapshot⟩
  rw [Log.poolKey, haddr] at hkey
  obtain rfl := Option.some.inj hkey
  rw [lookup_removePool_self, lookup_removePool_self]

/-- The two updates of a pool end alike. -/
structure AlikeUpdates (log : Log)
    (r r' : (PoolBook × V2PoolState) × Except MarketError MarketEventOutcome) : Prop where
  result : r.2 = r'.2
  pool : r.1.2 = r'.1.2
  book : AlikeFor log r.1.1 r'.1.1

/-- A `Sync` with an identity does the same to a pool in books alike for it. -/
theorem AlikeFor.applyV2Log_sync (h : AlikeFor log book book') {pool : V2PoolState}
    {decoded : DecodedLogEvent} {id : AppliedLogKey} (hdec : log.decodedEvent = some decoded)
    (hkind : decoded.kind = .v2Sync) (hid : appliedLogKey log = .ok id) :
    AlikeUpdates log (book.applyV2Log pool log) (book'.applyV2Log pool log) := by
  have hsame := h.snapshot id hid
  have hid' : ∀ {id'}, appliedLogKey log = .ok id' → id' = id := fun h' =>
    Except.ok.inj (h'.symm.trans hid)
  unfold PoolBook.applyV2Log
  simp only [hdec, hkind, hid]
  by_cases hremoved : log.removed.getD false = true
  · simp only [hremoved, if_true, hsame]
    cases book'.appliedSyncHistory.lookup id with
    | none => exact ⟨rfl, rfl, h⟩
    | some previous =>
        refine ⟨rfl, rfl, h.slot, fun id' h' => ?_⟩
        obtain rfl := hid' h'
        exact (lookup_forgetSync_self book _).trans (lookup_forgetSync_self book' _).symm
  · simp only [hremoved]
    cases pool.applyLog log with
    | error e => exact ⟨rfl, rfl, h⟩
    | ok reply =>
        cases reply with
        | mk outcome updated =>
            cases outcome with
            | applied =>
                refine ⟨rfl, rfl, h.slot, fun id' h' => ?_⟩
                obtain rfl := hid' h'
                exact (lookup_rememberSync_self book _ _).trans
                  (lookup_rememberSync_self book' _ _).symm
            | _ => exact ⟨rfl, rfl, h⟩

theorem AlikeFor.applyV2Log (h : AlikeFor log book book') (pool : V2PoolState) :
    AlikeUpdates log (book.applyV2Log pool log) (book'.applyV2Log pool log) := by
  cases hdec : log.decodedEvent with
  | none =>
      unfold PoolBook.applyV2Log
      simp only [hdec]
      exact ⟨rfl, rfl, h⟩
  | some decoded =>
      cases hkind : decoded.kind with
      | v2Sync =>
          cases hid : appliedLogKey log with
          | error e =>
              unfold PoolBook.applyV2Log
              simp only [hdec, hkind, hid]
              exact ⟨rfl, rfl, h⟩
          | ok id => exact h.applyV2Log_sync hdec hkind hid
      | _ =>
          unfold PoolBook.applyV2Log
          simp only [hdec, hkind]
          exact ⟨rfl, rfl, h⟩

/-- **A log sees its pool and its snapshot.** What it does to them and what it
returns is the same in books alike for it. -/
theorem AlikeFor.applyLog (u256FromDecimal : String → Option Nat)
    (h : AlikeFor log book book') :
    (book.applyLog u256FromDecimal log).2 = (book'.applyLog u256FromDecimal log).2
      ∧ AlikeFor log (book.applyLog u256FromDecimal log).1
        (book'.applyLog u256FromDecimal log).1 := by
  cases haddr : log.address with
  | none =>
      unfold PoolBook.applyLog
      simp only [haddr]
      exact ⟨trivial, h⟩
  | some address =>
      have hslot := h.slot (normalizeAddressKey address) (by rw [Log.poolKey, haddr]; rfl)
      cases hpool : book'.pools.lookup (normalizeAddressKey address) with
      | none =>
          unfold PoolBook.applyLog
          simp only [haddr, hslot, hpool]
          exact ⟨trivial, h⟩
      | some entry =>
          rw [hpool] at hslot
          cases entry with
          | v2 pool =>
              obtain ⟨hresult, hupdated, hbook⟩ :=
                (AlikeFor.removePool haddr h.snapshot).applyV2Log pool
              rw [applyLog_of_v2 haddr hslot, applyLog_of_v2 haddr hpool]
              generalize (book.removePool _).applyV2Log pool log = r at *
              generalize (book'.removePool _).applyV2Log pool log = r' at *
              obtain ⟨⟨after, updated⟩, result⟩ := r
              obtain ⟨⟨after', updated'⟩, result'⟩ := r'
              obtain rfl : result = result' := hresult
              obtain rfl : updated = updated' := hupdated
              cases result with
              | error e => exact ⟨rfl, hbook⟩
              | ok outcome => exact ⟨rfl, .insertPool haddr hbook.snapshot _⟩
          | v3 pool =>
              rw [applyLog_of_v3 haddr hslot, applyLog_of_v3 haddr hpool]
              cases pool.applyLog u256FromDecimal log with
              | error e => exact ⟨rfl, .removePool haddr h.snapshot⟩
              | ok reply => exact ⟨rfl, .insertPool haddr h.snapshot _⟩

variable {owner : AppliedLogKey → String}

theorem AlikeFor.of_agreeOn {key : String} (howned : Owned owner log)
    (hkey : log.poolKey = some key)
    (h : Cells.AgreeOn PoolBook.cell (BookCell.key owner) key book book') :
    AlikeFor log book book' := by
  constructor
  · intro key' hkey'
    obtain rfl := Option.some.inj (hkey.symm.trans hkey')
    exact cell_pool_eq_iff.mp (h (.pool key) rfl)
  · intro id hid
    exact cell_sync_eq_iff.mp (h (.sync id) (howned key id hkey hid))

/-- **A log is local to its pool.** -/
theorem applyLog_local (u256FromDecimal : String → Option Nat) (howned : Owned owner log) :
    Cells.Local PoolBook.cell (BookCell.key owner)
      (fun book log => (book.applyLog u256FromDecimal log).1)
      (fun book log => (book.applyLog u256FromDecimal log).2) Log.poolKey log where
  frame := by
    intro book c hc
    cases c with
    | pool key => exact cell_pool_eq_iff.mpr (lookup_applyLog_of_ne hc)
    | sync id =>
        refine cell_sync_eq_iff.mpr (history_applyLog_of_ne fun key hkey hid => hc ?_)
        rw [hkey, BookCell.key, howned key id hkey hid]
  writes := by
    intro book book' key hkey hagree c hc
    obtain ⟨-, halike⟩ :=
      (AlikeFor.of_agreeOn howned hkey hagree).applyLog u256FromDecimal
    cases c with
    | pool key' =>
        obtain rfl : key' = key := hc
        exact cell_pool_eq_iff.mpr (halike.slot key' hkey)
    | sync id =>
        refine cell_sync_eq_iff.mpr ?_
        by_cases hid : appliedLogKey log = .ok id
        · exact halike.snapshot id hid
        · rw [history_applyLog_of_ne fun _ _ => hid, history_applyLog_of_ne fun _ _ => hid]
          exact cell_sync_eq_iff.mp (hagree (.sync id) hc)
  result := fun book book' key hkey hagree =>
    ((AlikeFor.of_agreeOn howned hkey hagree).applyLog u256FromDecimal).1

end Locality

/-- The logs with what `apply_log` returned for each. -/
def outcomes (u256FromDecimal : String → Option Nat) (book : PoolBook) (logs : List Log) :
    List (Log × Except MarketError MarketEventOutcome) :=
  Cells.returns (fun book log => (book.applyLog u256FromDecimal log).1)
    (fun book log => (book.applyLog u256FromDecimal log).2) book logs

theorem outcomes_cons (u256FromDecimal : String → Option Nat) (book : PoolBook) (log : Log)
    (logs : List Log) :
    book.outcomes u256FromDecimal (log :: logs)
      = (log, (book.applyLog u256FromDecimal log).2)
        :: (book.applyLog u256FromDecimal log).1.outcomes u256FromDecimal logs := rfl

/-- The logs of each pool are in the same order in both lists. -/
def SamePerPool (logs logs' : List Log) : Prop :=
  ∀ key, logs.filter (fun log => log.poolKey = some key)
    = logs'.filter fun log => log.poolKey = some key

section Order

variable {u256FromDecimal : String → Option Nat} {book : PoolBook} {logs logs' : List Log}
  {owner : AppliedLogKey → String}

theorem applyLogs_eq_of_samePerPool (howned : ∀ log ∈ logs, Owned owner log)
    (howned' : ∀ log ∈ logs', Owned owner log) (hsame : SamePerPool logs logs') :
    book.applyLogs u256FromDecimal logs = book.applyLogs u256FromDecimal logs' :=
  Cells.final_eq_of_parts (fun _ _ => ext_cell)
    (fun log hlog => applyLog_local u256FromDecimal (howned log hlog))
    (fun log hlog => applyLog_local u256FromDecimal (howned' log hlog)) hsame

/-- A log that addresses no pool is ignored. -/
theorem applyLog_of_poolKey_none {log : Log} (h : log.poolKey = none) :
    book.applyLog u256FromDecimal log = (book, .ok .ignored) := by
  unfold applyLog
  rw [Option.map_eq_none_iff.mp h]

theorem outcomes_ok_of_samePerPool (howned : ∀ log ∈ logs, Owned owner log)
    (howned' : ∀ log ∈ logs', Owned owner log) (hsame : SamePerPool logs logs')
    (hok : ∀ entry ∈ book.outcomes u256FromDecimal logs, ∃ outcome, entry.2 = .ok outcome) :
    ∀ entry ∈ book.outcomes u256FromDecimal logs', ∃ outcome, entry.2 = .ok outcome := by
  intro entry hentry
  cases hkey : entry.1.poolKey with
  | none =>
      obtain ⟨book', hresult⟩ := Cells.exists_of_mem_returns hentry
      rw [applyLog_of_poolKey_none hkey] at hresult
      exact ⟨.ignored, hresult⟩
  | some key =>
      exact hok entry (Cells.mem_returns_of_parts
        (fun log hlog => applyLog_local u256FromDecimal (howned log hlog))
        (fun log hlog => applyLog_local u256FromDecimal (howned' log hlog)) hsame hkey hentry)

end Order

end PoolBook

/-! ## The engine -/

/-- The logs that the signals bring. -/
def logsOf (signals : List (Signal Arrival)) : List Log :=
  signals.filterMap fun signal => signal.event?.bind logOf

theorem logsOf_cons_of_log {signal : Signal Arrival} {arrival : Arrival} {log : Log}
    (hlog : signal.log? = some (arrival, log)) (signals : List (Signal Arrival)) :
    logsOf (signal :: signals) = log :: logsOf signals := by
  unfold logsOf
  rw [List.filterMap_cons, bind_logOf_event?, hlog]
  rfl

theorem logsOf_cons_of_not_log {signal : Signal Arrival} (hlog : signal.log? = none)
    (signals : List (Signal Arrival)) : logsOf (signal :: signals) = logsOf signals := by
  unfold logsOf
  rw [List.filterMap_cons, bind_logOf_event?, hlog]
  rfl

section Engine

variable {rt : Runtime} {s s' : Engine Storage} {signals : List (Signal Arrival)}

/-- Every log was applied in a run that goes on. -/
theorem outcomes_ok_of_running (hrunning : (Run.final rt.step s signals).exit = none) :
    ∀ entry ∈ s.book.outcomes rt.u256FromDecimal (logsOf signals),
      ∃ outcome, entry.2 = .ok outcome := by
  induction signals generalizing s with
  | nil => exact fun entry hentry => absurd hentry List.not_mem_nil
  | cons signal signals ih =>
      have hnext : (rt.step s signal).exit = none := running_of_final hrunning
      rcases (turn_step rt s signal).applied hnext with
        ⟨hlog, hbook⟩ | ⟨arrival, log, outcome, hlog, hbook⟩
      · rw [logsOf_cons_of_not_log hlog, ← hbook]
        exact ih hrunning
      · rw [logsOf_cons_of_log hlog, PoolBook.outcomes_cons, hbook]
        exact List.forall_mem_cons.mpr ⟨⟨outcome, rfl⟩, ih hrunning⟩

/-- What is decided after a log ends the loop with an error or not at all. -/
theorem settle_running_or_failed (s : Engine Storage) (answers : Answers)
    (output : Option DecisionPipelineOutput) :
    (rt.settle s answers output).exit = none ∨ (rt.settle s answers output).Failed := by
  unfold Engine.Failed Runtime.settle Runtime.settleWith Engine.record
  dsimp only
  generalize (maybeLogDecisionOutput _ _ _ _ _ _ _ _ _).result = result
  cases result with
  | ok _ => exact .inl rfl
  | error e => exact .inr ⟨_, rfl⟩

/-- A served turn on an applicable log goes on. -/
theorem Served.running_of_applicable {signal : Signal Arrival} (h : Served rt s signal)
    (hready : rt.Ready) (haddressed : s.book.Addressed) (hexit : s.exit = none)
    (hlisted : Listed rt rowsBackend s signal) (hend : signal.exit? = none)
    (happ : ∀ arrival log, signal.log? = some (arrival, log) →
      PoolBook.LogApplicable rt.u256FromDecimal s.book log) : (rt.step s signal).exit = none := by
  have hnot : ¬ (rt.step s signal).Failed := by
    rw [h.failed_iff hready haddressed hexit hlisted]
    rintro ⟨arrival, log, hlog, hnot⟩
    exact hnot (happ arrival log hlog)
  have hturn := turn_step rt s signal
  generalize rt.step s signal = s' at hturn hnot
  cases hturn with
  | stopped _ => exact hexit
  | passes _ _ _ => exact hexit
  | leaves _ hleave =>
      rw [hend] at hleave
      cases hleave
  | unpersisted _ _ _ => exact absurd ⟨_, rfl⟩ hnot
  | inapplicable _ _ _ _ => exact absurd ⟨_, rfl⟩ hnot
  | settles _ _ _ _ => exact (settle_running_or_failed _ _ _).resolve_right hnot

/-- A served run whose logs can all be applied goes on. -/
theorem running_of_outcomes_ok (hready : rt.Ready) (hexit : s.exit = none)
    (haddressed : s.book.Addressed)
    (hruns : Run.Along rt.step
      (fun s signal => Listed rt rowsBackend s signal ∧ Served rt s signal) s signals)
    (hends : ∀ signal ∈ signals, signal.exit? = none)
    (hok : ∀ entry ∈ s.book.outcomes rt.u256FromDecimal (logsOf signals),
      ∃ outcome, entry.2 = .ok outcome) :
    (Run.final rt.step s signals).exit = none := by
  induction signals generalizing s with
  | nil => exact hexit
  | cons signal signals ih =>
      obtain ⟨⟨hlisted, hserved⟩, hrest⟩ := hruns
      have hturn := turn_step rt s signal
      have hnext : (rt.step s signal).exit = none := by
        refine hserved.running_of_applicable hready haddressed hexit hlisted
          (hends signal List.mem_cons_self) fun arrival log hlog => ?_
        rw [logsOf_cons_of_log hlog, PoolBook.outcomes_cons] at hok
        rw [← (PoolBook.bookStep_applyLog rt.u256FromDecimal s.book log).ok_iff]
        exact hok _ List.mem_cons_self
      refine ih hnext ?_ hrest (fun signal' h => hends signal' (List.mem_cons_of_mem signal h)) ?_
      · unfold PoolBook.Addressed
        rw [(loopTurn_step rt rowsBackend s signal).directory hnext]
        exact haddressed
      · rcases hturn.applied hnext with ⟨hlog, hbook⟩ | ⟨arrival, log, outcome, hlog, hbook⟩
        · rw [logsOf_cons_of_not_log hlog] at hok
          rw [hbook]
          exact hok
        · rw [logsOf_cons_of_log hlog, PoolBook.outcomes_cons, hbook] at hok
          exact (List.forall_mem_cons.mp hok).2

/-- **The order within each pool is all that counts.** Where the engine got
through a sequence of signals, it gets through every other one that brings each
pool's logs in the same order, and the book is the same in the end. The second
run has to be served (`Served`): the serialiser and the database take its logs
and what is written after them, the exposure and the clocks stay within their
bounds, and the node answers. No signal may end it. -/
theorem engine_of_interleaving (hready : rt.Ready) {book : PoolBook} {storage storage' : Storage}
    {signals' : List (Signal Arrival)} {owner : AppliedLogKey → String}
    (haddressed : book.Addressed)
    (howned : ∀ log ∈ logsOf signals, Owned owner log)
    (howned' : ∀ log ∈ logsOf signals', Owned owner log)
    (hsame : PoolBook.SamePerPool (logsOf signals) (logsOf signals'))
    (hrunning : (Run.final rt.step (Engine.start book storage) signals).exit = none)
    (hruns : Run.Along rt.step
      (fun s signal => Listed rt rowsBackend s signal ∧ Served rt s signal)
      (Engine.start book storage') signals')
    (hends : ∀ signal ∈ signals', signal.exit? = none) :
    (Run.final rt.step (Engine.start book storage') signals').exit = none
      ∧ (Run.final rt.step (Engine.start book storage') signals').book
        = (Run.final rt.step (Engine.start book storage) signals).book := by
  have hok := PoolBook.outcomes_ok_of_samePerPool howned howned' hsame
    (outcomes_ok_of_running hrunning)
  have hrunning' := running_of_outcomes_ok hready rfl haddressed hruns hends hok
  refine ⟨hrunning', ?_⟩
  rw [book_final hrunning', book_final hrunning]
  exact (PoolBook.applyLogs_eq_of_samePerPool howned howned' hsame).symm

end Engine

/-! The two pools of the sample book in both orders. Addresses are normalised
once, so that the books after the logs are seen without evaluating a turn. -/

/-- An engine without a database does not get one. -/
theorem Turn.storage_none {rt : Runtime} {s s' : Engine Storage} {signal : Signal Arrival}
    (h : Turn rt s signal s') (hstorage : s.storage = none) : s'.storage = none := by
  cases h with
  | @settles arrival log book outcome _ _ _ _ =>
      have hstep := (@handling_maybeLogDecisionOutput _ arrival.answers.statements rt.sha256
        rt.config rt.policy arrival.answers.toOutside rt.codec (rt.decision arrival log outcome)
        s.risk s.storage).outputStep
      show (maybeLogDecisionOutput _ _ _ _ _ _ _ s.risk s.storage).storage = none
      generalize maybeLogDecisionOutput _ _ _ _ _ _ _ s.risk s.storage = handled at hstep
      cases hstep with
      | idle _ => exact hstorage
      | withheld _ _ _ hrows =>
          rcases hrows with hrows | ⟨row, hrows⟩
          · exact hrows.trans hstorage
          · rw [hrows, hstorage]
            rfl
      | handed _ _ _ _ _ _ _ _ _ hrows =>
          rw [hrows, hstorage]
          rfl
  | _ => exact hstorage

/-- A log that is kept changes the book as `apply_log` does. -/
theorem Turn.book_of_log {rt : Runtime} {s s' : Engine Storage} {signal : Signal Arrival}
    {arrival : Arrival} {log : Log} (h : Turn rt s signal s') (hexit : s.exit = none)
    (hlog : signal.log? = some (arrival, log))
    (hkept : query s.storage arrival.persistLog = .ok ()) :
    s'.book = (s.book.applyLog rt.u256FromDecimal log).1 := by
  cases h with
  | stopped hover =>
      rw [hexit] at hover
      cases hover
  | passes _ hnone _ =>
      rw [hlog] at hnone
      cases hnone
  | leaves _ hend =>
      obtain ⟨rfl, -⟩ := event_of_log? hlog
      cases hend
  | unpersisted _ hlog' hpersist =>
      obtain ⟨rfl, -⟩ := Prod.mk.inj (Option.some.inj (hlog.symm.trans hlog'))
      rw [hkept] at hpersist
      cases hpersist
  | inapplicable _ hlog' _ hbook =>
      obtain ⟨-, rfl⟩ := Prod.mk.inj (Option.some.inj (hlog.symm.trans hlog'))
      rw [hbook]
      rfl
  | settles _ hlog' _ hbook =>
      obtain ⟨-, rfl⟩ := Prod.mk.inj (Option.some.inj (hlog.symm.trans hlog'))
      rw [hbook]
      rfl

theorem pool1_normalized : normalizeAddressKey pool1 = pool1 := by decide +kernel

theorem pool2_normalized : normalizeAddressKey pool2 = pool2 := by decide +kernel

/-- A `Sync` of a pool that stands under its own address. -/
theorem PoolBook.applyLog_syncLogOf (u256FromDecimal : String → Option Nat) {book : PoolBook}
    {pool : V2PoolState} {reserve0 reserve1 : Nat} (logIndex : Nat)
    (hkey : normalizeAddressKey pool.address = pool.address)
    (hmatch : Text.eqIgnoreAsciiCase pool.address pool.address = true)
    (hpool : book.pools.lookup pool.address = some (.v2 pool))
    (hpos : 0 < reserve0 ∧ 0 < reserve1) :
    book.applyLog u256FromDecimal (syncLogOf pool.address reserve0 reserve1 logIndex false)
      = ((book.rememberSync { txHash := "0xtx", logIndex } pool.snapshot).insertPool pool.address
          (.v2 (pool.synced reserve0 reserve1
            (syncLogOf pool.address reserve0 reserve1 logIndex false))), .ok .applied) := by
  have hpool' : book.pools.lookup (normalizeAddressKey pool.address) = some (.v2 pool) := by
    rw [hkey]
    exact hpool
  rw [applyLog_applied rfl hpool' hmatch rfl rfl rfl rfl rfl rfl hpos, hkey]

def firstSync : Log := PoolBook.syncLogOf pool1 2000000000 5000000000 1 false

def secondSync : Log := PoolBook.syncLogOf pool2 4000000000 2400000000 2 false

def poolArrival (log : Log) (pools : List V2PoolState) : Arrival :=
  { sampleArrival with event := .log log, pools }

/-- Two logs that reach an engine on the sample book, with the pools as each of
them leaves the book. -/
theorem poolArrivals_served {first second : Log} {pools pools' : List V2PoolState}
    (hpools : (sampleBook.applyLog (fun _ => none) first).1.Lists pools)
    (hpools' : ((sampleBook.applyLog (fun _ => none) first).1.applyLog (fun _ => none)
      second).1.Lists pools') :
    Run.Along sampleRuntime.step
      (fun s signal => Listed sampleRuntime rowsBackend s signal ∧ Served sampleRuntime s signal)
      (Engine.start sampleBook none)
      [.event (poolArrival first pools), .event (poolArrival second pools')] := by
  have hserved : ∀ {s : Engine Storage} {log pools}, s.storage = none →
      Served sampleRuntime s (.event (poolArrival log pools)) := by
    intro s log pools hstorage
    refine ⟨fun arrival entry hlog => ?_, fun arrival entry hlog => ?_,
      fun arrival entry hlog => ?_, fun arrival entry hlog write hmem => ?_, nofun⟩
    · rw [hstorage]
      rfl
    · rw [hstorage]
      exact ⟨0, by norm_num, rfl⟩
    · obtain ⟨hsignal, -⟩ := event_of_log? hlog
      cases hsignal
      exact obligingAnswers_serving
    · rw [hstorage]
      exact fun hconnected => nomatch hconnected
  have hlisted : ∀ {s : Engine Storage} {log pools},
      (s.book.applyLog sampleRuntime.u256FromDecimal log).1.Lists pools →
      Listed sampleRuntime rowsBackend s (.event (poolArrival log pools)) := by
    intro s log pools hlists arrival entry hsignal hevent
    cases hsignal
    cases hevent
    exact hlists
  have hturn := turn_step sampleRuntime (Engine.start sampleBook none)
    (.event (poolArrival first pools))
  refine ⟨⟨hlisted hpools, hserved rfl⟩, ⟨hlisted ?_, hserved (hturn.storage_none rfl)⟩, trivial⟩
  rw [hturn.book_of_log rfl rfl rfl]
  exact hpools'

section Samples

variable {book : PoolBook}

def firstSynced : V2PoolState := profitableLoop.firstPool.synced 2000000000 5000000000 firstSync

def secondSynced : V2PoolState :=
  profitableLoop.secondPool.synced 4000000000 2400000000 secondSync

theorem applyLog_firstSync
    (hpool : book.pools.lookup pool1 = some (.v2 profitableLoop.firstPool)) :
    book.applyLog (fun _ => none) firstSync
      = ((book.rememberSync { txHash := "0xtx", logIndex := 1 }
          profitableLoop.firstPool.snapshot).insertPool pool1 (.v2 firstSynced), .ok .applied) :=
  @PoolBook.applyLog_syncLogOf (fun _ => none) book profitableLoop.firstPool 2000000000
    5000000000 1 pool1_normalized (by decide +kernel) hpool ⟨by norm_num, by norm_num⟩

theorem applyLog_secondSync
    (hpool : book.pools.lookup pool2 = some (.v2 profitableLoop.secondPool)) :
    book.applyLog (fun _ => none) secondSync
      = ((book.rememberSync { txHash := "0xtx", logIndex := 2 }
          profitableLoop.secondPool.snapshot).insertPool pool2 (.v2 secondSynced),
          .ok .applied) :=
  @PoolBook.applyLog_syncLogOf (fun _ => none) book profitableLoop.secondPool 4000000000
    2400000000 2 pool2_normalized (by decide +kernel) hpool ⟨by norm_num, by norm_num⟩

theorem sampleBook_eq : sampleBook
    = (PoolBook.new.insertPool pool1 (.v2 profitableLoop.firstPool)).insertPool pool2
        (.v2 profitableLoop.secondPool) := by
  show (PoolBook.new.insertPool (normalizeAddressKey pool1) _).insertPool
    (normalizeAddressKey pool2) _ = _
  rw [pool1_normalized, pool2_normalized]

theorem pool1_ne_pool2 : pool1 ≠ pool2 := by decide

theorem sampleBook_first :
    sampleBook.pools.lookup pool1 = some (.v2 profitableLoop.firstPool) := by
  rw [sampleBook_eq, PoolBook.lookup_insertPool_of_ne _ _ pool1_ne_pool2,
    PoolBook.lookup_insertPool_self]

theorem sampleBook_second :
    sampleBook.pools.lookup pool2 = some (.v2 profitableLoop.secondPool) := by
  rw [sampleBook_eq, PoolBook.lookup_insertPool_self]

theorem lookup_second_of_first (id : AppliedLogKey) (snapshot : V2SyncSnapshot)
    (entry : PoolState) :
    ((sampleBook.rememberSync id snapshot).insertPool pool1 entry).pools.lookup pool2
      = some (.v2 profitableLoop.secondPool) := by
  rw [PoolBook.lookup_insertPool_of_ne _ _ pool1_ne_pool2.symm]
  exact sampleBook_second

theorem lookup_first_of_second (id : AppliedLogKey) (snapshot : V2SyncSnapshot)
    (entry : PoolState) :
    ((sampleBook.rememberSync id snapshot).insertPool pool2 entry).pools.lookup pool1
      = some (.v2 profitableLoop.firstPool) := by
  rw [PoolBook.lookup_insertPool_of_ne _ _ pool1_ne_pool2]
  exact sampleBook_first

/-- The first pool, then the second. -/
def oneOrder : List (Signal Arrival) :=
  [.event (poolArrival firstSync [firstSynced, profitableLoop.secondPool]),
    .event (poolArrival secondSync [firstSynced, secondSynced])]

/-- The second pool, then the first. -/
def otherOrder : List (Signal Arrival) :=
  [.event (poolArrival secondSync [profitableLoop.firstPool, secondSynced]),
    .event (poolArrival firstSync [firstSynced, secondSynced])]

theorem logsOf_oneOrder : logsOf oneOrder = [firstSync, secondSync] := rfl

theorem both_applied :
    ∀ entry ∈ sampleBook.outcomes (fun _ => none) [firstSync, secondSync],
      ∃ outcome, entry.2 = .ok outcome := by
  intro entry hentry
  rw [PoolBook.outcomes_cons, applyLog_firstSync sampleBook_first, PoolBook.outcomes_cons,
    applyLog_secondSync (lookup_second_of_first _ _ _)] at hentry
  rcases List.mem_cons.mp hentry with rfl | hentry
  · exact ⟨.applied, rfl⟩
  · obtain rfl := List.mem_singleton.mp hentry
    exact ⟨.applied, rfl⟩

theorem oneOrder_served :
    Run.Along sampleRuntime.step
      (fun s signal => Listed sampleRuntime rowsBackend s signal ∧ Served sampleRuntime s signal)
      (Engine.start sampleBook none) oneOrder := by
  refine poolArrivals_served ?_ ?_
  · rw [applyLog_firstSync sampleBook_first, sampleBook_eq]
    decide +kernel
  · rw [applyLog_firstSync sampleBook_first,
      applyLog_secondSync (lookup_second_of_first _ _ _), sampleBook_eq]
    decide +kernel

theorem otherOrder_served :
    Run.Along sampleRuntime.step
      (fun s signal => Listed sampleRuntime rowsBackend s signal ∧ Served sampleRuntime s signal)
      (Engine.start sampleBook none) otherOrder := by
  refine poolArrivals_served ?_ ?_
  · rw [applyLog_secondSync sampleBook_second, sampleBook_eq]
    decide +kernel
  · rw [applyLog_secondSync sampleBook_second,
      applyLog_firstSync (lookup_first_of_second _ _ _), sampleBook_eq]
    decide +kernel

theorem oneOrder_running :
    (Run.final sampleRuntime.step (Engine.start sampleBook none) oneOrder).exit = none := by
  refine running_of_outcomes_ok sampleRuntime_ready rfl sampleBook_addressed oneOrder_served
    (List.forall_mem_cons.mpr ⟨rfl, List.forall_mem_singleton.mpr rfl⟩) ?_
  rw [logsOf_oneOrder]
  exact both_applied

theorem firstSync_poolKey : firstSync.poolKey = some pool1 := congrArg some pool1_normalized

theorem secondSync_poolKey : secondSync.poolKey = some pool2 := congrArg some pool2_normalized

def sampleOwner (id : AppliedLogKey) : String := if id.logIndex = 1 then pool1 else pool2

theorem firstSync_owned : Owned sampleOwner firstSync := owned_of firstSync_poolKey rfl rfl

theorem secondSync_owned : Owned sampleOwner secondSync := owned_of secondSync_poolKey rfl rfl

theorem orders_samePerPool : PoolBook.SamePerPool (logsOf oneOrder) (logsOf otherOrder) := by
  intro key
  show [firstSync, secondSync].filter _ = [secondSync, firstSync].filter _
  have hne := pool1_ne_pool2
  by_cases hfirst : pool1 = key
  · subst hfirst
    simp [firstSync_poolKey, secondSync_poolKey, hne.symm]
  · by_cases hsecond : pool2 = key
    · subst hsecond
      simp [firstSync_poolKey, secondSync_poolKey, hne]
    · simp [firstSync_poolKey, secondSync_poolKey, hfirst, hsecond]

/-- The pools of the sample book may be updated in either order. -/
theorem orders_agree :
    (Run.final sampleRuntime.step (Engine.start sampleBook none) otherOrder).exit = none
      ∧ (Run.final sampleRuntime.step (Engine.start sampleBook none) otherOrder).book
        = (Run.final sampleRuntime.step (Engine.start sampleBook none) oneOrder).book :=
  engine_of_interleaving sampleRuntime_ready sampleBook_addressed
    (List.forall_mem_cons.mpr
      ⟨firstSync_owned, List.forall_mem_singleton.mpr secondSync_owned⟩)
    (List.forall_mem_cons.mpr
      ⟨secondSync_owned, List.forall_mem_singleton.mpr firstSync_owned⟩)
    orders_samePerPool oneOrder_running otherOrder_served
    (List.forall_mem_cons.mpr ⟨rfl, List.forall_mem_singleton.mpr rfl⟩)

end Samples

end BaseEngine
