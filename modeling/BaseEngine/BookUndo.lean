import BaseEngine.Reorg

/-!
# Undoing `Sync` logs exactly

Two results on what a removed `Sync` takes back.

`book_eq_of_stacked`: however the applications and removals of different
pools are interleaved, when each pool's removals come newest first and
everything applied is removed, the book is back where it began, down to the
last field. `Replay.Agrees` already accounts for the reserves; what is left
is the rest of the entries (`PoolState.bare`) and the snapshots that were
in the history before (`Journal.Untouched`).

`duplicateHarmless_iff`: a `Sync` that is delivered twice overwrites its own
snapshot. The second delivery is harmless only when the first one had
nothing to change.
-/

namespace BaseEngine

open PoolBook Text

/-! ## Entries without their reserves -/

namespace PoolState

/-- The entry with the part a `Sync` writes blanked out. -/
def bare : PoolState → PoolState
  | .v2 pool => .v2 (pool.restore ⟨0, 0, none⟩)
  | .v3 pool => .v3 pool

/-- The part a `Sync` writes. -/
def cell : PoolState → Option V2SyncSnapshot
  | .v2 pool => some pool.snapshot
  | .v3 _ => none

theorem eq_of_bare_of_cell {e e' : PoolState} (hbare : e.bare = e'.bare)
    (hcell : e.cell = e'.cell) : e = e' := by
  cases e with
  | v2 pool =>
      cases e' with
      | v2 pool' =>
          cases pool
          cases pool'
          simp_all [bare, cell, V2PoolState.restore, V2PoolState.snapshot]
      | v3 pool' => cases hcell
  | v3 pool =>
      cases e' with
      | v2 pool' => cases hcell
      | v3 pool' => exact hbare

end PoolState

namespace PoolBook

variable {u256FromDecimal : String → Option Nat} {book : PoolBook} {log : Log}

theorem v2Cell_eq_bind (book : PoolBook) (key : String) :
    book.v2Cell key = (book.pools.lookup key).bind PoolState.cell := by
  unfold v2Cell
  cases book.pools.lookup key with
  | none => rfl
  | some entry => cases entry <;> rfl

/-- Replacing an entry by one that differs in its reserves only. -/
theorem bare_insertPool {key : String} {old entry : PoolState}
    (hold : book.pools.lookup key = some old) (hbare : entry.bare = old.bare) (k : String) :
    ((book.insertPool key entry).pools.lookup k).map PoolState.bare
      = (book.pools.lookup k).map PoolState.bare := by
  by_cases hk : k = key
  · subst hk
    rw [lookup_insertPool_self, hold, Option.map_some, Option.map_some, hbare]
  · rw [lookup_insertPool_of_ne _ _ hk]

/-- A `Sync` log that does not fail changes reserves only. -/
theorem bare_applyLog (hsync : isSync log = true) {outcome : MarketEventOutcome}
    (hok : (applyLog u256FromDecimal book log).2 = .ok outcome) (key : String) :
    ((applyLog u256FromDecimal book log).1.pools.lookup key).map PoolState.bare
      = (book.pools.lookup key).map PoolState.bare := by
  have hstep := bookStep_applyLog u256FromDecimal book log
  generalize applyLog u256FromDecimal book log = result at hstep hok
  cases hstep with
  | ignored _ _ => rfl
  | @applied address pool decoded id reserve0 reserve1 _ hpool =>
      have hpool' : (book.rememberSync id pool.snapshot).pools.lookup
          (normalizeAddressKey address) = some (.v2 pool) := hpool
      have hbare : (PoolState.v2 (pool.synced reserve0 reserve1 log)).bare
          = (PoolState.v2 pool).bare := rfl
      exact bare_insertPool hpool' hbare key
  | @reverted address pool decoded id previous _ hpool =>
      have hpool' : (book.forgetSync id).pools.lookup (normalizeAddressKey address)
          = some (.v2 pool) := hpool
      have hbare : (PoolState.v2 (pool.restore previous)).bare = (PoolState.v2 pool).bare := rfl
      exact bare_insertPool hpool' hbare key
  | swapped _ _ _ hdec hkind _ =>
      obtain ⟨decoded, hdec', hkind'⟩ := isSync_eq_true_iff.mp hsync
      obtain rfl := Option.some.inj (hdec.symm.trans hdec')
      rw [hkind] at hkind'
      cases hkind'
  | failed _ _ _ => cases hok

/-- The history has a snapshot for the log. -/
def knows (book : PoolBook) (log : Log) : Bool :=
  match appliedLogKey log with
  | .ok id => (book.appliedSyncHistory.lookup id).isSome
  | .error _ => false

theorem lookup_of_not_knows (h : book.knows log = false) {id : AppliedLogKey}
    (hid : appliedLogKey log = .ok id) : book.appliedSyncHistory.lookup id = none := by
  unfold knows at h
  rw [hid] at h
  simpa using h

end PoolBook

/-! ## Stacked runs -/

namespace Replay

/-- A `Sync` that is applied under a new identity, or the newest live `Sync`
of its pool delivered again as removed. -/
def Stacked (u256FromDecimal : String → Option Nat) (init : PoolBook) (s : Replay) (log : Log) :
    Prop :=
  isSync log = true ∧
    if log.removed.getD false = true then
      (s.live.find? fun e => decide (log.address.map normalizeAddressKey = some e.cell)).any
        (sameEvent log) = true
    else (applyLog u256FromDecimal s.book log).2 = .ok .applied ∧ init.knows log = false
      ∧ ∀ entry ∈ s.live, appliedLogKey log ≠ .ok entry.id

instance (u256FromDecimal : String → Option Nat) (init : PoolBook) (s : Replay) (log : Log) :
    Decidable (Stacked u256FromDecimal init s log) :=
  inferInstanceAs (Decidable (_ ∧ ite _ _ _))

/-- Everything that is not live is as in the initial book. -/
structure Undoable (init : PoolBook) (s : Replay) : Prop where
  agrees : Agrees init s
  untouched : Journal.Untouched init.store s.book.store s.live
  bare : ∀ key, (s.book.pools.lookup key).map PoolState.bare
    = (init.pools.lookup key).map PoolState.bare

variable {u256FromDecimal : String → Option Nat} {init : PoolBook} {s : Replay} {log : Log}

theorem undoable_start (init : PoolBook) : Undoable init (start init) where
  agrees := Journal.consistent_nil init.store
  untouched := Journal.untouched_nil init.store
  bare _ := rfl

/-- The newest live `Sync` of its pool, in a removal. -/
theorem Stacked.newest (h : Stacked u256FromDecimal init s log)
    (hremoved : log.removed.getD false = true) :
    ∃ entry, s.live.find? (fun e => decide (log.address.map normalizeAddressKey = some e.cell))
        = some entry ∧ sameEvent log entry = true := by
  have hany := h.2
  rw [if_pos hremoved] at hany
  cases hfind : s.live.find?
      (fun e => decide (log.address.map normalizeAddressKey = some e.cell)) with
  | none =>
      rw [hfind] at hany
      cases hany
  | some entry =>
      rw [hfind] at hany
      exact ⟨entry, rfl, hany⟩

theorem Stacked.delivered (h : Stacked u256FromDecimal init s log) :
    Delivered u256FromDecimal s log := by
  intro _
  by_cases hremoved : log.removed.getD false = true
  · rw [if_pos hremoved]
    obtain ⟨entry, hfind, hsame⟩ := h.newest hremoved
    exact ⟨entry, List.mem_of_find?_eq_some hfind, hsame⟩
  · have happlied := h.2
    rw [if_neg hremoved] at happlied
    rw [if_neg hremoved]
    exact ⟨Fallible.isOk_iff.mpr ⟨_, happlied.1⟩, happlied.2.2⟩

theorem Stacked.newestFirst (h : Stacked u256FromDecimal init s log) : NewestFirst s log := by
  intro _ hremoved entry hentry
  obtain ⟨newest, hfind, hsame⟩ := h.newest hremoved
  obtain rfl : newest = entry := Option.some.inj (hfind.symm.trans hentry)
  exact hsame

/-- A log of a stacked run never fails. -/
theorem Stacked.ok (h : Stacked u256FromDecimal init s log) (hagrees : Agrees init s) :
    ∃ outcome, (applyLog u256FromDecimal s.book log).2 = .ok outcome := by
  by_cases hremoved : log.removed.getD false = true
  · obtain ⟨entry, hfind, hsame⟩ := h.newest hremoved
    have hmem := List.mem_of_find?_eq_some hfind
    obtain ⟨pool, hpool⟩ := hagrees.tracked hmem
    obtain ⟨-, hcell⟩ := sameEvent_eq_true_iff.mp hsame
    obtain ⟨address, haddr, hkey⟩ := Option.map_eq_some_iff.mp hcell
    rw [← hkey] at hpool
    refine (bookStep_applyLog u256FromDecimal s.book log).ok_iff.mpr ?_
    exact logApplicable_of_live hagrees haddr hpool hremoved ⟨entry, hmem, hsame⟩
  · have happlied := h.2
    rw [if_neg hremoved] at happlied
    exact ⟨_, happlied.1⟩

/-- **Step lemma.** -/
theorem undoable_deliver (h : Undoable init s) (hstacked : Stacked u256FromDecimal init s log) :
    Undoable init (deliver u256FromDecimal s log) where
  agrees := agrees_deliver h.agrees hstacked.delivered hstacked.newestFirst
  untouched := by
    have huntouched := h.untouched
    have hstep := storeStep_deliver h.agrees hstacked.delivered hstacked.newestFirst
    cases hstep with
    | @write entry old hid _ hfresh hstore hlive =>
        rw [hstore, hlive]
        refine huntouched.write ?_ old
        -- a live identity cannot be that of a removal, so the log was applied
        by_cases hremoved : log.removed.getD false = true
        · obtain ⟨newest, hfind, hsame⟩ := hstacked.newest hremoved
          have hsame' := (sameEvent_eq_true_iff.mp hsame).1
          rw [hid] at hsame'
          exact absurd (Except.ok.inj hsame').symm
            (hfresh newest (List.mem_of_find?_eq_some hfind))
        · have happlied := hstacked.2
          rw [if_neg hremoved] at happlied
          exact lookup_of_not_knows happlied.2.1 hid
    | undo hsplit _ _ hstore hlive =>
        rw [hsplit] at huntouched
        rw [hstore, hlive]
        exact huntouched.undo _ _
    | keep hstore hlive =>
        rw [hstore, hlive]
        exact huntouched
  bare key := by
    obtain ⟨outcome, hok⟩ := hstacked.ok h.agrees
    exact (bare_applyLog hstacked.1 hok key).trans (h.bare key)

/-- With nothing live an undoable book is the initial one. -/
theorem Undoable.book_eq (h : Undoable init s) (hlive : s.live = []) : s.book = init := by
  have hagrees := h.agrees
  have huntouched := h.untouched
  unfold Agrees at hagrees
  rw [hlive] at hagrees huntouched
  have hstore : s.book.store = init.store := Journal.eq_of_nothing_live hagrees huntouched
  have hpools : s.book.pools = init.pools := by
    refine Finmap.ext_lookup fun key => ?_
    have hcell : s.book.v2Cell key = init.v2Cell key :=
      congrFun (congrArg Journal.Store.cells hstore) key
    rw [v2Cell_eq_bind, v2Cell_eq_bind] at hcell
    have hbare := h.bare key
    cases hentry : s.book.pools.lookup key with
    | none =>
        rw [hentry, Option.map_none] at hbare
        exact (Option.map_eq_none_iff.mp hbare.symm).symm
    | some entry =>
        rw [hentry, Option.map_some] at hbare
        obtain ⟨entry', hentry', hbare'⟩ := Option.map_eq_some_iff.mp hbare.symm
        rw [hentry, hentry'] at hcell
        rw [hentry', PoolState.eq_of_bare_of_cell hbare' hcell.symm]
  have hhistory : s.book.appliedSyncHistory = init.appliedSyncHistory := by
    refine Finmap.ext_lookup fun id => ?_
    exact congrFun (congrArg Journal.Store.journal hstore) id
  cases hs : s.book with
  | mk pools history =>
      rw [hs] at hpools hhistory
      obtain rfl : pools = init.pools := hpools
      obtain rfl : history = init.appliedSyncHistory := hhistory
      rfl

/-- **Exact undo.** In a run that interleaves `Sync` applications and their
removals, newest first for each pool, a book with nothing left to remove is
the initial book. -/
theorem book_eq_of_stacked {book : PoolBook} {logs : List Log}
    (hstacked : Run.Along (deliver u256FromDecimal) (Stacked u256FromDecimal book) (start book)
      logs)
    (hlive : (Run.final (deliver u256FromDecimal) (start book) logs).live = []) :
    (Run.final (deliver u256FromDecimal) (start book) logs).book = book := by
  have hundoable : Undoable book (Run.final (deliver u256FromDecimal) (start book) logs) :=
    Run.inv_final (fun _ _ h hP => undoable_deliver h hP) (undoable_start book) hstacked
  exact hundoable.book_eq hlive

/-- Two pools are synced in turns and taken back in another order, each
newest first. -/
def interleaved : List Log :=
  [syncLogOf "0xpool" 77 88 1 false, syncLogOf "0xother" 7 8 2 false,
    syncLogOf "0xpool" 99 111 3 false, syncLogOf "0xpool" 99 111 3 true,
    syncLogOf "0xpool" 77 88 1 true, syncLogOf "0xother" 7 8 2 true]

theorem interleaved_book_eq :
    (Run.final (deliver fun _ => none) (start (sampleBook.insertV2Pool otherPool))
      interleaved).book = sampleBook.insertV2Pool otherPool :=
  book_eq_of_stacked (by decide) (by decide)

end Replay

/-! ## A `Sync` delivered twice -/

namespace PoolBook

variable {u256FromDecimal : String → Option Nat} {book : PoolBook} {log : Log}

/-- The log delivered again as removed. -/
def removedCopy (log : Log) : Log := { log with removed := some true }

/-- The second delivery of a log leaves the book as it is, and a removal
after it still takes the log's pool back to where it was before both. -/
def DuplicateHarmless (u256FromDecimal : String → Option Nat) (book : PoolBook) (log : Log) :
    Prop :=
  let once := (applyLog u256FromDecimal book log).1
  let twice := (applyLog u256FromDecimal once log).1
  twice = once ∧ ∀ address, log.address = some address →
    (applyLog u256FromDecimal twice (removedCopy log)).1.v2Cell (normalizeAddressKey address)
      = book.v2Cell (normalizeAddressKey address)

/-- The pool of the log already has its reserves and its block. -/
def AlreadySynced (book : PoolBook) (log : Log) : Prop :=
  ∃ entry, syncEntry log = some entry ∧ book.v2Cell entry.cell = some entry.value

/-- A second snapshot under an identity replaces the first. -/
theorem rememberSync_twice (book : PoolBook) (id : AppliedLogKey) (key : String)
    (entry entry' : PoolState) (first second : V2SyncSnapshot) :
    (((book.rememberSync id first).insertPool key entry).rememberSync id second).insertPool key
        entry' = (book.rememberSync id second).insertPool key entry' := by
  simp only [rememberSync, insertPool, Finmap.insert_insert]

theorem rememberSync_inj {book book' : PoolBook} {id : AppliedLogKey} {key key' : String}
    {entry entry' : PoolState} {first second : V2SyncSnapshot}
    (h : (book.rememberSync id first).insertPool key entry
      = (book'.rememberSync id second).insertPool key' entry') : first = second := by
  have hhistory := congrArg (fun b => b.appliedSyncHistory.lookup id) h
  simpa [rememberSync, insertPool] using hhistory

/-- **Duplicate delivery.** A `Sync` can be delivered twice without harm
exactly when its first delivery had nothing to change. -/
theorem duplicateHarmless_iff (hsync : isSync log = true)
    (happlied : (applyLog u256FromDecimal book log).2 = .ok .applied) :
    DuplicateHarmless u256FromDecimal book log ↔ AlreadySynced book log := by
  have hstep := bookStep_applyLog u256FromDecimal book log
  unfold DuplicateHarmless AlreadySynced
  generalize applyLog u256FromDecimal book log = result at hstep happlied
  cases hstep with
  | ignored _ _ => cases happlied
  | reverted _ _ _ _ _ _ _ => cases happlied
  | failed _ _ _ => cases happlied
  | swapped _ _ _ hdec hkind _ =>
      obtain ⟨decoded, hdec', hkind'⟩ := isSync_eq_true_iff.mp hsync
      obtain rfl := Option.some.inj (hdec.symm.trans hdec')
      rw [hkind] at hkind'
      cases hkind'
  | @applied address pool decoded id reserve0 reserve1 haddr hpool hmatch hdec hkind hid hremoved
      h0 h1 hpos =>
      have hcell := v2Cell_of_v2 hpool
      have hentry := syncEntry_eq haddr hdec hid h0 h1
      -- the second delivery finds the values of the first and keeps them as its snapshot
      have htwice : applyLog u256FromDecimal
            ((book.rememberSync id pool.snapshot).insertPool (normalizeAddressKey address)
              (.v2 (pool.synced reserve0 reserve1 log))) log = _ :=
        applyLog_applied haddr (lookup_insertPool_self ..) hmatch hdec hkind hid hremoved h0 h1
          hpos
      rw [rememberSync_twice, V2PoolState.synced_synced] at htwice
      dsimp only
      rw [htwice]
      constructor
      · rintro ⟨hsame, -⟩
        refine ⟨_, hentry, hcell.trans (congrArg some ?_)⟩
        exact (rememberSync_inj hsame).symm
      · rintro ⟨entry, hentry', hvalue⟩
        obtain rfl := Option.some.inj (hentry.symm.trans hentry')
        have hsame : pool.snapshot = (pool.synced reserve0 reserve1 log).snapshot :=
          Option.some.inj (hcell.symm.trans hvalue)
        refine ⟨by rw [hsame], fun address' haddr' => ?_⟩
        obtain rfl := Option.some.inj (haddr.symm.trans haddr')
        have hprev : ((book.rememberSync id (pool.synced reserve0 reserve1 log).snapshot).insertPool
            (normalizeAddressKey address)
            (.v2 (pool.synced reserve0 reserve1 log))).appliedSyncHistory.lookup id = some _ :=
          lookup_rememberSync_self book id _
        have hrevert : applyLog u256FromDecimal _ (removedCopy log) = _ :=
          applyLog_reverted haddr (lookup_insertPool_self ..) hdec hkind hid rfl hprev
        rw [hcell, hrevert, v2Cell_insertPool_v2, Function.update_self, hsame]
        rfl

/-- The pool of the unit tests already has the reserves and the block of the
log. -/
theorem repeatedState_duplicateHarmless :
    DuplicateHarmless (fun _ => none)
      (new.insertV2Pool (V2PoolState.samplePool.restore ⟨77, 88, some 123⟩))
      (sampleSyncLog 123 77 88 1 false) :=
  (duplicateHarmless_iff (by decide) (by decide)).mpr ⟨_, rfl, by decide⟩

/-- The log of the unit tests, twice and then removed: the pool keeps the
reserves of the removed log. -/
theorem redelivered_not_duplicateHarmless :
    (applyLog (fun _ => none) (new.insertV2Pool V2PoolState.samplePool)
        (sampleSyncLog 123 77 88 1 false)).2 = .ok .applied
      ∧ (new.insertV2Pool V2PoolState.samplePool).knows (sampleSyncLog 123 77 88 1 false) = false
      ∧ ¬ DuplicateHarmless (fun _ => none) (new.insertV2Pool V2PoolState.samplePool)
          (sampleSyncLog 123 77 88 1 false) := by
  refine ⟨by decide, by decide, fun h => ?_⟩
  exact absurd (h.2 "0xpool" rfl) (by decide)

end PoolBook

end BaseEngine
