import BaseEngine.Lib.Journal
import BaseEngine.Lib.Run
import BaseEngine.PoolBook

/-!
# Reorganisations

A chain reorganisation reaches the book as `Sync` logs that are delivered
again with `removed = true`. This file relates a run of deliveries to the
reserves the book ends with.

The book refines the journalled store of `BaseEngine.Lib.Journal`
(`store`): the cells are the V2 pools' reserves with the block of their
last update, and the journal is `applied_sync_history`. An applied `Sync`
is a write, a reverted one an undo, and every other log leaves the store
alone. What the pools should hold, the last applied `Sync` that was not
removed, is `Journal.current`.

`survivingReserves_of_newestFirst` is the result: the pools hold just that
as long as every removal concerns the newest live `Sync` of its pool. The
two removals of one reorganised block delivered in ascending order
(`ascendingRemovals_wrong`) show that the condition is needed.
-/

namespace BaseEngine

open Text

namespace PoolBook

/-! ## The book as a journalled store -/

abbrev SyncEntry := Journal.Entry String AppliedLogKey V2SyncSnapshot

/-- The reserves of the V2 pool under a key. -/
def v2Cell (book : PoolBook) (key : String) : Option V2SyncSnapshot :=
  match book.pools.lookup key with
  | some (.v2 pool) => some pool.snapshot
  | _ => none

def store (book : PoolBook) : Journal.Store String AppliedLogKey V2SyncSnapshot :=
  { cells := book.v2Cell, journal := book.appliedSyncHistory.lookup }

variable {book : PoolBook} {key : String}

theorem v2Cell_of_v2 {pool : V2PoolState} (h : book.pools.lookup key = some (.v2 pool)) :
    book.v2Cell key = some pool.snapshot := by
  unfold v2Cell
  rw [h]

theorem v2Cell_eq_some {snap : V2SyncSnapshot} (h : book.v2Cell key = some snap) :
    ∃ pool, book.pools.lookup key = some (.v2 pool) ∧ pool.snapshot = snap := by
  unfold v2Cell at h
  split at h
  · next pool hpool => exact ⟨pool, hpool, Option.some.inj h⟩
  · cases h

theorem v2Cell_insertPool_v2 (book : PoolBook) (key : String) (pool : V2PoolState) :
    (book.insertPool key (.v2 pool)).v2Cell
      = Function.update book.v2Cell key (some pool.snapshot) := by
  funext k
  unfold v2Cell
  by_cases hk : k = key
  · subst hk
    rw [Function.update_self, lookup_insertPool_self]
  · rw [Function.update_of_ne hk, lookup_insertPool_of_ne _ _ hk]

/-- A V3 pool is no cell: replacing it, or losing it, is invisible. -/
theorem v2Cell_insertPool_v3 {pool : V3PoolState}
    (h : book.pools.lookup key = some (.v3 pool)) (updated : V3PoolState) :
    (book.insertPool key (.v3 updated)).v2Cell = book.v2Cell := by
  funext k
  unfold v2Cell
  by_cases hk : k = key
  · subst hk
    rw [lookup_insertPool_self, h]
  · rw [lookup_insertPool_of_ne _ _ hk]

theorem v2Cell_removePool_v3 {pool : V3PoolState}
    (h : book.pools.lookup key = some (.v3 pool)) :
    (book.removePool key).v2Cell = book.v2Cell := by
  funext k
  unfold v2Cell
  by_cases hk : k = key
  · subst hk
    rw [lookup_removePool_self, h]
  · rw [lookup_removePool_of_ne _ hk]

theorem journal_rememberSync (book : PoolBook) (id : AppliedLogKey) (snap : V2SyncSnapshot) :
    (book.rememberSync id snap).store.journal
      = Function.update book.store.journal id (some snap) := by
  funext i
  by_cases hi : i = id
  · subst hi
    rw [Function.update_self]
    exact lookup_rememberSync_self book i snap
  · rw [Function.update_of_ne hi]
    exact lookup_rememberSync_of_ne book snap hi

theorem journal_forgetSync (book : PoolBook) (id : AppliedLogKey) :
    (book.forgetSync id).store.journal = Function.update book.store.journal id none := by
  funext i
  by_cases hi : i = id
  · subst hi
    rw [Function.update_self]
    exact lookup_forgetSync_self book i
  · rw [Function.update_of_ne hi]
    exact lookup_forgetSync_of_ne book hi

/-- An applied `Sync` is a write. -/
theorem store_applied {pool : V2PoolState} (entry : SyncEntry)
    (log : Log) {reserve0 reserve1 : Nat}
    (hvalue : entry.value = ⟨reserve0, reserve1, blockNumber log.metadata.blockContext⟩) :
    ((book.rememberSync entry.id pool.snapshot).insertPool entry.cell
        (.v2 (pool.synced reserve0 reserve1 log))).store
      = book.store.write entry pool.snapshot := by
  refine Journal.Store.ext ?_ (journal_rememberSync book entry.id pool.snapshot)
  show (PoolBook.insertPool _ _ _).v2Cell = _
  rw [v2Cell_insertPool_v2]
  show Function.update book.v2Cell entry.cell (some _)
    = Function.update book.v2Cell entry.cell (some entry.value)
  rw [hvalue]
  rfl

/-- A reverted one is an undo. -/
theorem store_reverted (id : AppliedLogKey) (key : String) (pool : V2PoolState)
    (previous : V2SyncSnapshot) :
    ((book.forgetSync id).insertPool key (.v2 (pool.restore previous))).store
      = book.store.undo id key previous := by
  refine Journal.Store.ext ?_ (journal_forgetSync book id)
  show (PoolBook.insertPool _ _ _).v2Cell = _
  rw [v2Cell_insertPool_v2]
  rfl

end PoolBook

/-! ## Runs of deliveries -/

open PoolBook

/-- The write a `Sync` log stands for. -/
def syncEntry (log : Log) : Option SyncEntry := do
  let address ← log.address
  let decoded ← log.decodedEvent
  let txHash ← log.metadata.txHash
  let logIndex ← log.logIndex
  let reserve0 ← decoded.reserve0
  let reserve1 ← decoded.reserve1
  return { id := { txHash, logIndex }, cell := normalizeAddressKey address,
           value := { reserve0, reserve1,
                      lastUpdatedBlock := blockNumber log.metadata.blockContext } }

/-- The log names the same chain event as the entry. -/
def sameEvent (log : Log) (entry : SyncEntry) : Bool :=
  decide (appliedLogKey log = .ok entry.id)
    && decide (log.address.map normalizeAddressKey = some entry.cell)

/-- A book with the `Sync` logs applied to it and not removed since,
newest first. -/
structure Replay where
  book : PoolBook
  live : List SyncEntry

namespace Replay

variable (u256FromDecimal : String → Option Nat)

def start (book : PoolBook) : Replay := { book, live := [] }

/-- A `Sync` that was applied joins the live ones, a removed one leaves
them, whatever the book made of it. -/
def record (s : Replay) (log : Log)
    (result : PoolBook × Except MarketError MarketEventOutcome) : Replay :=
  { book := result.1,
    live :=
      if isSync log = true then
        if log.removed.getD false = true then
          s.live.filter fun entry => !sameEvent log entry
        else
          match syncEntry log, result.2 with
          | some entry, .ok .applied => entry :: s.live
          | _, _ => s.live
      else s.live }

/-- One call of `applyLog`. -/
def deliver (s : Replay) (log : Log) : Replay :=
  s.record log (applyLog u256FromDecimal s.book log)

/-- What the stream of logs guarantees about a `Sync` of a tracked V2 pool:
it is carried out and its identity is new among the live ones, or it is a
live one delivered again as removed. Other logs are arbitrary. -/
def Delivered (s : Replay) (log : Log) : Prop :=
  s.book.tracksSync log = true →
    if log.removed.getD false = true then ∃ entry ∈ s.live, sameEvent log entry = true
    else (applyLog u256FromDecimal s.book log).2.isOk = true
      ∧ ∀ entry ∈ s.live, appliedLogKey log ≠ .ok entry.id

/-- A removal concerns the newest live `Sync` of its pool. -/
def NewestFirst (s : Replay) (log : Log) : Prop :=
  s.book.tracksSync log = true → log.removed.getD false = true →
    ∀ entry ∈ s.live.find? (fun e => decide (log.address.map normalizeAddressKey = some e.cell)),
      sameEvent log entry = true

instance (s : Replay) (log : Log) : Decidable (Delivered u256FromDecimal s log) :=
  inferInstanceAs (Decidable (_ → ite _ _ _))

instance (s : Replay) (log : Log) : Decidable (NewestFirst s log) :=
  inferInstanceAs (Decidable (_ → _ → _))

/-- The book holds what the live logs make of the initial one. -/
def Agrees (book : PoolBook) (s : Replay) : Prop :=
  Journal.Consistent book.store.cells s.book.store s.live

end Replay

theorem sameEvent_eq_true_iff {log : Log} {entry : SyncEntry} :
    sameEvent log entry = true ↔ appliedLogKey log = .ok entry.id
      ∧ log.address.map normalizeAddressKey = some entry.cell := by
  simp [sameEvent]

theorem syncEntry_eq {log : Log} {address : String} {decoded : DecodedLogEvent}
    {id : AppliedLogKey} {reserve0 reserve1 : Nat} (haddr : log.address = some address)
    (hdec : log.decodedEvent = some decoded) (hid : appliedLogKey log = .ok id)
    (h0 : decoded.reserve0 = some reserve0) (h1 : decoded.reserve1 = some reserve1) :
    syncEntry log = some ⟨id, normalizeAddressKey address,
      ⟨reserve0, reserve1, blockNumber log.metadata.blockContext⟩⟩ := by
  obtain ⟨htx, hidx⟩ := appliedLogKey_eq_ok_iff.mp hid
  simp [syncEntry, haddr, hdec, htx, hidx, h0, h1]

namespace Replay

variable {u256FromDecimal : String → Option Nat} {init : PoolBook} {s : Replay} {log : Log}

/-- Every live `Sync` is of a V2 pool the book still has. -/
theorem Agrees.tracked (h : Agrees init s) {entry : SyncEntry} (he : entry ∈ s.live) :
    ∃ pool, s.book.pools.lookup entry.cell = some (.v2 pool) := by
  have hcell : s.book.v2Cell entry.cell = Journal.current init.store.cells s.live entry.cell :=
    congrFun h.cells entry.cell
  cases hfind : s.live.find? (·.cell = entry.cell) with
  | none =>
      have := List.find?_eq_none.mp hfind entry he
      simp at this
  | some newest =>
      have hsome : s.book.v2Cell entry.cell = some newest.value := by
        rw [hcell, Journal.current, hfind]
      obtain ⟨pool, hpool, -⟩ := v2Cell_eq_some hsome
      exact ⟨pool, hpool⟩

/-- The snapshot of a live `Sync` is in the history. -/
theorem Agrees.journalled (h : Agrees init s) {entry : SyncEntry} (he : entry ∈ s.live) :
    (s.book.appliedSyncHistory.lookup entry.id).isSome = true := by
  obtain ⟨newer, older, hlive⟩ := List.append_of_mem he
  have hchain := h.chained
  rw [hlive] at hchain
  exact hchain.older.1.2

theorem record_of_not_sync (h : isSync log = false)
    (result : PoolBook × Except MarketError MarketEventOutcome) :
    s.record log result = { s with book := result.1 } := by
  simp [record, h]

/-- An ignored log is no live `Sync`, so that nothing leaves the live
ones. -/
theorem record_ignored (h : Agrees init s)
    (hkeep : s.book.NoSync log) :
    s.record log (s.book, .ok .ignored) = s := by
  by_cases hsync : isSync log = true
  · by_cases hremoved : log.removed.getD false = true
    · have hnone : ∀ entry ∈ s.live, (!sameEvent log entry) = true := by
        intro entry he
        rw [Bool.not_eq_true', ← Bool.not_eq_true]
        intro hsame
        obtain ⟨-, hcell⟩ := sameEvent_eq_true_iff.mp hsame
        obtain ⟨address, haddr, hkey⟩ := Option.map_eq_some_iff.mp hcell
        obtain ⟨pool, hpool⟩ := h.tracked he
        rw [← hkey] at hpool
        rw [(hkeep address pool haddr hpool hsync).1] at hremoved
        cases hremoved
      simp only [record, hsync, hremoved, if_true, List.filter_eq_self.mpr hnone]
    · simp only [record, hsync, hremoved, if_true]
      cases syncEntry log <;> rfl
  · rw [record_of_not_sync (by simpa using hsync)]

/-- Taking the one live `Sync` out that the log removes. -/
theorem filter_sameEvent {newer older : List SyncEntry} {entry : SyncEntry}
    (hothers : ∀ e ∈ newer ++ older, e.id ≠ entry.id) (hsame : sameEvent log entry = true) :
    ((newer ++ entry :: older).filter fun e => !sameEvent log e) = newer ++ older := by
  have hkeep : ∀ e ∈ newer ++ older, (!sameEvent log e) = true := by
    intro e he
    rw [Bool.not_eq_true', ← Bool.not_eq_true]
    intro he'
    have hid := (sameEvent_eq_true_iff.mp he').1
    rw [(sameEvent_eq_true_iff.mp hsame).1] at hid
    exact hothers e he (Except.ok.inj hid).symm
  rw [List.filter_append, List.filter_cons_of_neg (by simp [hsame]), ← List.filter_append]
  exact List.filter_eq_self.mpr hkeep

/-- The newest live `Sync` of the pool of a removal, as a position in the
live ones. -/
theorem split_newest {address : String} (haddr : log.address = some address)
    (hdel : ∃ entry ∈ s.live, sameEvent log entry = true)
    (hnew : ∀ entry ∈ s.live.find?
      (fun e => decide (log.address.map normalizeAddressKey = some e.cell)),
        sameEvent log entry = true) :
    ∃ newer entry older, s.live = newer ++ entry :: older ∧ sameEvent log entry = true
      ∧ entry.cell = normalizeAddressKey address ∧ ∀ e ∈ newer, e.cell ≠ entry.cell := by
  obtain ⟨live, hlive, hsame⟩ := hdel
  cases hfind : s.live.find?
      (fun e => decide (log.address.map normalizeAddressKey = some e.cell)) with
  | none =>
      have := List.find?_eq_none.mp hfind live hlive
      rw [decide_eq_true_eq] at this
      exact absurd (sameEvent_eq_true_iff.mp hsame).2 this
  | some entry =>
      obtain ⟨hcell, newer, older, hsplit, hnewer⟩ := List.find?_eq_some_iff_append.mp hfind
      rw [haddr, Option.map_some, decide_eq_true_eq] at hcell
      refine ⟨newer, entry, older, hsplit, hnew entry hfind, (Option.some.inj hcell).symm, ?_⟩
      intro e he hec
      have := hnewer e he
      rw [haddr, Option.map_some, hec, ← Option.some.inj hcell] at this
      simp at this

/-- A live `Sync` delivered again can be carried out: its snapshot is
there. -/
theorem logApplicable_of_live (h : Agrees init s) {address : String} {pool : V2PoolState}
    (haddr : log.address = some address)
    (hpool : s.book.pools.lookup (normalizeAddressKey address) = some (.v2 pool))
    (hremoved : log.removed.getD false = true)
    (hdel : ∃ entry ∈ s.live, sameEvent log entry = true) :
    LogApplicable u256FromDecimal s.book log := by
  obtain ⟨entry, he, hsame⟩ := hdel
  have hid := (sameEvent_eq_true_iff.mp hsame).1
  refine (logApplicable_iff haddr hpool).mpr fun decoded hdec hkind => ?_
  obtain ⟨htx, hidx⟩ := appliedLogKey_eq_ok_iff.mp hid
  refine ⟨entry.id, htx, hidx, ?_⟩
  rw [if_pos hremoved]
  exact h.journalled he

/-- A log in the domain does not fail on a V2 pool: a `Sync` by the domain,
any other log because the pool ignores it. -/
theorem logApplicable_of_delivered (h : Agrees init s) (hdel : Delivered u256FromDecimal s log)
    {address : String} {pool : V2PoolState} (haddr : log.address = some address)
    (hpool : s.book.pools.lookup (normalizeAddressKey address) = some (.v2 pool)) :
    LogApplicable u256FromDecimal s.book log := by
  by_cases hsync : isSync log = true
  · have hdel' := hdel (tracksSync_eq_true_iff.mpr ⟨hsync, address, pool, haddr, hpool⟩)
    by_cases hremoved : log.removed.getD false = true
    · rw [if_pos hremoved] at hdel'
      exact logApplicable_of_live h haddr hpool hremoved hdel'
    · rw [if_neg hremoved] at hdel'
      have hok := (bookStep_applyLog u256FromDecimal s.book log).ok_iff
      exact hok.mp (Fallible.isOk_iff.mp hdel'.1)
  · exact (logApplicable_iff haddr hpool).mpr (v2Applicable_of_not_sync hsync)

/-- What a delivery makes of the journalled store and the live logs. -/
inductive StoreStep (s : Replay) (log : Log) : Replay → Prop
  | write {s' : Replay} {entry : SyncEntry} {old : V2SyncSnapshot}
      (hid : appliedLogKey log = .ok entry.id) (hold : s.book.store.cells entry.cell = some old)
      (hfresh : ∀ e ∈ s.live, e.id ≠ entry.id)
      (hstore : s'.book.store = s.book.store.write entry old)
      (hlive : s'.live = entry :: s.live) : StoreStep s log s'
  | undo {s' : Replay} {newer older : List SyncEntry} {entry : SyncEntry} {old : V2SyncSnapshot}
      (hsplit : s.live = newer ++ entry :: older)
      (hnewest : ∀ e ∈ newer, e.cell ≠ entry.cell)
      (hold : s.book.store.journal entry.id = some old)
      (hstore : s'.book.store = s.book.store.undo entry.id entry.cell old)
      (hlive : s'.live = newer ++ older) : StoreStep s log s'
  | keep {s' : Replay} (hstore : s'.book.store = s.book.store) (hlive : s'.live = s.live) :
      StoreStep s log s'

/-- A delivery that removes newest first writes, undoes the newest write of
a pool, or does nothing to the V2 pools. -/
theorem storeStep_deliver (h : Agrees init s) (hdel : Delivered u256FromDecimal s log)
    (hnew : NewestFirst s log) : StoreStep s log (deliver u256FromDecimal s log) := by
  have hstep := bookStep_applyLog u256FromDecimal s.book log
  have happlies : ∀ address pool, log.address = some address →
      s.book.pools.lookup (normalizeAddressKey address) = some (.v2 pool) →
      LogApplicable u256FromDecimal s.book log :=
    fun _ _ => logApplicable_of_delivered h hdel
  unfold deliver
  unfold Delivered at hdel
  generalize applyLog u256FromDecimal s.book log = result at hstep hdel
  cases hstep with
  | ignored happ hkeep =>
      rw [record_ignored h hkeep]
      exact .keep rfl rfl
  | @applied address pool decoded id reserve0 reserve1 haddr hpool hmatch hdec hkind hid
      hremoved h0 h1 hpos =>
      have hsync := isSync_eq_true_iff.mpr ⟨decoded, hdec, hkind⟩
      have hdel' := hdel (tracksSync_eq_true_iff.mpr ⟨hsync, address, pool, haddr, hpool⟩)
      rw [if_neg (by simp [hremoved])] at hdel'
      have hentry := syncEntry_eq haddr hdec hid h0 h1
      refine @StoreStep.write s log _ ⟨id, normalizeAddressKey address, _⟩ _ hid
        (v2Cell_of_v2 hpool) ?_ (store_applied ⟨id, normalizeAddressKey address, _⟩ log rfl) ?_
      · intro e he heq
        exact hdel'.2 e he (by rw [hid, heq])
      · simp only [record, hsync, hremoved, if_true, Bool.false_eq_true, if_false, hentry]
  | @reverted address pool decoded id previous haddr hpool hdec hkind hid hremoved hprev =>
      have hsync := isSync_eq_true_iff.mpr ⟨decoded, hdec, hkind⟩
      have htracks := tracksSync_eq_true_iff.mpr ⟨hsync, address, pool, haddr, hpool⟩
      have hdel' := hdel htracks
      rw [if_pos hremoved] at hdel'
      obtain ⟨newer, entry, older, hlive, hsame, hcell, hnewer⟩ :=
        split_newest haddr hdel' (hnew htracks hremoved)
      obtain rfl : id = entry.id :=
        Except.ok.inj (hid.symm.trans (sameEvent_eq_true_iff.mp hsame).1)
      have hothers : ∀ e ∈ newer ++ older, e.id ≠ entry.id := by
        unfold Agrees at h
        rw [hlive] at h
        exact h.nodup_drop.1
      refine .undo hlive hnewer hprev ?_ ?_
      · rw [hcell]
        exact store_reverted entry.id (normalizeAddressKey address) pool previous
      · simp only [record, hsync, hremoved, if_true, hlive, filter_sameEvent hothers hsame]
  | @swapped address pool decoded values haddr hpool hmatch hdec hkind hvalues =>
      have hsync : isSync log = false := by simp [isSync, hdec, hkind]
      rw [record_of_not_sync hsync]
      exact .keep (Journal.Store.ext (v2Cell_insertPool_v3 hpool _) rfl) rfl
  | @failed address poolState e haddr hpool hfail =>
      cases poolState with
      | v2 pool => exact absurd (happlies address pool haddr hpool) hfail
      | v3 pool =>
          have hsync : isSync log = false := by
            rw [← Bool.not_eq_true]
            intro hsync
            exact hfail ((logApplicable_iff haddr hpool).mpr (v3Applicable_of_sync hsync))
          rw [record_of_not_sync hsync]
          exact .keep (Journal.Store.ext (v2Cell_removePool_v3 hpool) rfl) rfl

/-- **Step lemma.** A delivery that removes newest first keeps the
agreement of the book with the live logs. -/
theorem agrees_deliver (h : Agrees init s) (hdel : Delivered u256FromDecimal s log)
    (hnew : NewestFirst s log) : Agrees init (deliver u256FromDecimal s log) := by
  have hstep := storeStep_deliver h hdel hnew
  unfold Agrees at h ⊢
  cases hstep with
  | write _ hold hfresh hstore hlive =>
      rw [hstore, hlive]
      exact h.write hold hfresh
  | undo hsplit hnewest hold hstore hlive =>
      rw [hsplit] at h
      rw [hstore, hlive]
      exact h.undo hnewest hold
  | keep hstore hlive =>
      rw [hstore, hlive]
      exact h

/-- The reserves of the newest live `Sync` of a pool, or the pool's own. -/
def survivingReserves (live : List SyncEntry) (key : String) (pool : V2PoolState) : Nat × Nat :=
  match live.find? (·.cell = key) with
  | some entry => (entry.value.reserve0, entry.value.reserve1)
  | none => (pool.reserve0, pool.reserve1)

/-- **Reorganisations, newest first.** In every state of a run of
deliveries whose removals each concern the newest live `Sync` of their
pool, every V2 pool has the reserves of its last applied `Sync` that was
not removed, or its initial ones. -/
theorem survivingReserves_of_newestFirst {book : PoolBook} {logs pre : List Log}
    (hdel : Run.Along (deliver u256FromDecimal) (Delivered u256FromDecimal) (start book) logs)
    (hnew : Run.Along (deliver u256FromDecimal) NewestFirst (start book) logs)
    (hpre : pre <+: logs) {key : String} {pool : V2PoolState}
    (hpool : book.pools.lookup key = some (.v2 pool)) :
    ∃ pool', (Run.final (deliver u256FromDecimal) (start book) pre).book.pools.lookup key
        = some (.v2 pool')
      ∧ (pool'.reserve0, pool'.reserve1)
        = survivingReserves (Run.final (deliver u256FromDecimal) (start book) pre).live
            key pool := by
  have hagrees : Agrees book (Run.final (deliver u256FromDecimal) (start book) pre) :=
    Run.inv_of_prefix (fun s log hs hP => agrees_deliver hs hP.1 hP.2)
      (Journal.consistent_nil book.store) (Run.along_and.mpr ⟨hdel, hnew⟩) hpre
  generalize Run.final (deliver u256FromDecimal) (start book) pre = s at hagrees
  have hcell : s.book.v2Cell key = Journal.current book.v2Cell s.live key :=
    congrFun hagrees.cells key
  rw [Journal.current, v2Cell_of_v2 hpool] at hcell
  unfold survivingReserves
  cases hfind : s.live.find? (·.cell = key) with
  | none =>
      rw [hfind] at hcell
      obtain ⟨pool', hpool', hsnap⟩ := v2Cell_eq_some hcell
      refine ⟨pool', hpool', ?_⟩
      exact congrArg (fun snap => (snap.reserve0, snap.reserve1)) hsnap
  | some entry =>
      rw [hfind] at hcell
      obtain ⟨pool', hpool', hsnap⟩ := v2Cell_eq_some hcell
      refine ⟨pool', hpool', ?_⟩
      exact congrArg (fun snap => (snap.reserve0, snap.reserve1)) hsnap

/-- The book of the unit tests, with one pool. -/
def sampleBook : PoolBook := new.insertV2Pool V2PoolState.samplePool

/-- Two `Sync` logs of the pool and the removal of the second. -/
def secondRemoved : List Log :=
  [sampleSyncLog 123 77 88 1 false, sampleSyncLog 123 99 111 2 false,
    sampleSyncLog 123 99 111 2 true]

theorem secondRemoved_survivingReserves :
    ∃ pool', (Run.final (deliver fun _ => none) (start sampleBook) secondRemoved
        ).book.pools.lookup "0xpool" = some (.v2 pool')
      ∧ (pool'.reserve0, pool'.reserve1) = (77, 88) := by
  have hpool : sampleBook.pools.lookup "0xpool" = some (.v2 V2PoolState.samplePool) := by
    decide
  exact survivingReserves_of_newestFirst (by decide) (by decide)
    (List.prefix_refl secondRemoved) hpool

/-- One block with two `Sync` logs is reorganised away, and its removals
arrive in the order of the logs. -/
def ascendingRemovals : List Log :=
  [sampleSyncLog 123 77 88 1 false, sampleSyncLog 123 99 111 2 false,
    sampleSyncLog 123 77 88 1 true, sampleSyncLog 123 99 111 2 true]

/-- Each removal is a live log delivered again and no log survives, but
the pool is left with the reserves of the first log. -/
theorem ascendingRemovals_wrong :
    Run.Along (deliver fun _ => none) (Delivered fun _ => none) (start sampleBook)
        ascendingRemovals
      ∧ (Run.final (deliver fun _ => none) (start sampleBook) ascendingRemovals).live = []
      ∧ (Run.final (deliver fun _ => none) (start sampleBook) ascendingRemovals
        ).book.v2Cell "0xpool" = some ⟨77, 88, some 123⟩
      ∧ (V2PoolState.samplePool.reserve0, V2PoolState.samplePool.reserve1) ≠ (77, 88) := by
  refine ⟨?_, ?_, ?_, ?_⟩ <;> decide

end Replay

end BaseEngine
