import BaseEngine.Lib.Run
import BaseEngine.QuoteFaults

/-!
# What every reachable book looks like

A book is built by inserting pools and fed with logs, in any order and
whatever the calls return (`BookOp`). `WellFormed` is what holds of every
book reached in this way: each entry sits under the key of its own
address, is a pool its constructor would not have rejected for anything but
its liquidity, and no snapshot of the history has an empty reserve.

The snapshots belong to the invariant because a removed log writes one back
into a pool, and it need not be the pool the snapshot was taken from.

`wellFormed_of_reachable` adds what a quote gets out of it: its unchecked
divisions and subtractions never fault on an entry of the book.
-/

namespace BaseEngine

open Faulting Text

/-- A call on a book. -/
inductive BookOp where
  | insertV2Pool (pool : V2PoolState)
  | insertV3Pool (pool : V3PoolState)
  | applyLog (log : Log)
deriving Repr, DecidableEq

/-- The pool is what its constructor returns. -/
def V2PoolState.Built (pool : V2PoolState) : Prop :=
  V2PoolState.new pool.address pool.protocol pool.exchange pool.token0 pool.token1
    pool.reserve0 pool.reserve1 pool.feeBps = .ok pool

def V3PoolState.Built (pool : V3PoolState) : Prop :=
  V3PoolState.new pool.address pool.protocol pool.exchange pool.token0 pool.token1
    pool.feePips pool.tickSpacing pool.sqrtPriceX96 pool.liquidity pool.tick = .ok pool

/-- An inserted pool comes from its constructor; a log is any log. -/
def BookOp.Built : BookOp → Prop
  | .insertV2Pool pool => pool.Built
  | .insertV3Pool pool => pool.Built
  | .applyLog _ => True

/-- What stays true of an inserted pool. A swap may leave a V3 pool without
liquidity. -/
def PoolState.Sound : PoolState → Prop
  | .v2 pool => pool.validate = .ok ()
  | .v3 pool => pool.token0 ≠ pool.token1 ∧ pool.feePips < 1000000 ∧ 0 < pool.tickSpacing
      ∧ minSqrtPrice ≤ pool.sqrtPriceX96 ∧ pool.sqrtPriceX96 ≤ maxSqrtPrice

theorem V2PoolState.Built.sound {pool : V2PoolState} (h : pool.Built) :
    (PoolState.v2 pool).Sound := by
  obtain ⟨hvalid, hpool⟩ := Fallible.check_bind_eq_ok h
  rw [hpool] at hvalid
  exact hvalid

theorem V3PoolState.validate_ok {pool : V3PoolState} (h : pool.validate = .ok ()) :
    (PoolState.v3 pool).Sound := by
  unfold V3PoolState.validate feePipsDenominator at h
  split_ifs at h with htokens hfee hspacing hprice hliquidity
  refine ⟨htokens, by omega, by omega, ?_, ?_⟩
  · omega
  · omega

theorem V3PoolState.Built.sound {pool : V3PoolState} (h : pool.Built) :
    (PoolState.v3 pool).Sound := by
  obtain ⟨hvalid, hpool⟩ := Fallible.check_bind_eq_ok h
  rw [hpool] at hvalid
  exact V3PoolState.validate_ok hvalid

theorem PoolState.Sound.inRange {entry : PoolState} (h : entry.Sound) : entry.InRange := by
  cases entry with
  | v2 pool =>
      obtain ⟨-, h0, h1, -⟩ := V2PoolState.validate_ok_iff.mp h
      exact ⟨h0, h1⟩
  | v3 pool =>
      obtain ⟨-, hfee, -, hprice, -⟩ := h
      exact ⟨hfee, hprice⟩

namespace PoolBook

/-- The book after a call, whatever the call returns. -/
def step (u256FromDecimal : String → Option Nat) (book : PoolBook) : BookOp → PoolBook
  | .insertV2Pool pool => book.insertV2Pool pool
  | .insertV3Pool pool => book.insertV3Pool pool
  | .applyLog log => (applyLog u256FromDecimal book log).1

/-- Each entry sits under the key of its own address. -/
def Keyed (book : PoolBook) : Prop :=
  ∀ key entry, book.pools.lookup key = some entry → key = normalizeAddressKey entry.address

structure WellFormed (book : PoolBook) : Prop where
  keyed : book.Keyed
  sound : ∀ key entry, book.pools.lookup key = some entry → entry.Sound
  snapshots : ∀ id snapshot, book.appliedSyncHistory.lookup id = some snapshot →
    0 < snapshot.reserve0 ∧ 0 < snapshot.reserve1

/-! ## One call -/

variable {u256FromDecimal : String → Option Nat} {book : PoolBook}

theorem keyed_new : Keyed new := by
  intro _ _ h
  cases h

theorem Keyed.insertPool (h : Keyed book) {key : String} {entry : PoolState}
    (hkey : key = normalizeAddressKey entry.address) : Keyed (book.insertPool key entry) := by
  intro k e hlookup
  by_cases hk : k = key
  · subst hk
    rw [lookup_insertPool_self] at hlookup
    obtain rfl := Option.some.inj hlookup
    exact hkey
  · rw [lookup_insertPool_of_ne _ _ hk] at hlookup
    exact h k e hlookup

/-- An entry of the same address takes the place of another. -/
theorem Keyed.replacePool (h : Keyed book) {key : String} {old entry : PoolState}
    (hold : book.pools.lookup key = some old) (haddress : entry.address = old.address) :
    Keyed (book.insertPool key entry) := by
  have hkey := h key old hold
  rw [← haddress] at hkey
  exact h.insertPool hkey

theorem lookup_of_lookup_removePool {key k : String} {entry : PoolState}
    (h : (book.removePool key).pools.lookup k = some entry) :
    book.pools.lookup k = some entry := by
  by_cases hk : k = key
  · subst hk
    rw [lookup_removePool_self] at h
    cases h
  · rwa [lookup_removePool_of_ne _ hk] at h

theorem Keyed.removePool (h : Keyed book) (key : String) : Keyed (book.removePool key) :=
  fun k e hlookup => h k e (lookup_of_lookup_removePool hlookup)

/-- A log writes an entry back under the key it was found at, or drops it. -/
theorem Keyed.applyLog (h : Keyed book) (log : Log) :
    Keyed (applyLog u256FromDecimal book log).1 := by
  have hstep := bookStep_applyLog u256FromDecimal book log
  generalize PoolBook.applyLog u256FromDecimal book log = result at hstep
  cases hstep with
  | ignored _ _ => exact h
  | @applied address pool decoded id reserve0 reserve1 haddr hpool =>
      have hkept : Keyed (book.rememberSync id pool.snapshot) := h
      exact hkept.replacePool hpool rfl
  | @reverted address pool decoded id previous haddr hpool =>
      have hkept : Keyed (book.forgetSync id) := h
      exact hkept.replacePool hpool rfl
  | @swapped address pool decoded values haddr hpool =>
      exact h.replacePool hpool rfl
  | failed _ _ _ => exact h.removePool _

theorem Keyed.step (h : Keyed book) (op : BookOp) : Keyed (step u256FromDecimal book op) := by
  cases op with
  | insertV2Pool pool => exact h.insertPool rfl
  | insertV3Pool pool => exact h.insertPool rfl
  | applyLog log => exact h.applyLog log

/-- The empty book after some calls. -/
def Reachable (u256FromDecimal : String → Option Nat) (book : PoolBook) : Prop :=
  ∃ ops, book = Run.final (PoolBook.step u256FromDecimal) new ops

/-- Every book is keyed, whatever has been inserted. -/
theorem Reachable.keyed (h : Reachable u256FromDecimal book) : Keyed book := by
  obtain ⟨ops, rfl⟩ := h
  exact Run.inv_final (P := fun _ _ => True) (fun _ op h _ => h.step op) keyed_new
    (Run.along_of_forall fun _ _ => trivial)

theorem wellFormed_new : WellFormed new where
  keyed := keyed_new
  sound _ _ h := by cases h
  snapshots _ _ h := by cases h

theorem WellFormed.insertPool (h : WellFormed book) {key : String} {entry : PoolState}
    (hkey : key = normalizeAddressKey entry.address) (hsound : entry.Sound) :
    WellFormed (book.insertPool key entry) where
  keyed := Keyed.insertPool h.keyed hkey
  sound k e hlookup := by
    by_cases hk : k = key
    · subst hk
      rw [lookup_insertPool_self] at hlookup
      obtain rfl := Option.some.inj hlookup
      exact hsound
    · rw [lookup_insertPool_of_ne _ _ hk] at hlookup
      exact h.sound k e hlookup
  snapshots := h.snapshots

/-- An entry of the same address takes the place of another. -/
theorem WellFormed.replacePool (h : WellFormed book) {key : String} {old entry : PoolState}
    (hold : book.pools.lookup key = some old) (haddress : entry.address = old.address)
    (hsound : entry.Sound) : WellFormed (book.insertPool key entry) := by
  have hkey := h.keyed key old hold
  rw [← haddress] at hkey
  exact h.insertPool hkey hsound

theorem WellFormed.removePool (h : WellFormed book) (key : String) :
    WellFormed (book.removePool key) where
  keyed := Keyed.removePool h.keyed key
  sound k e hlookup := h.sound k e (lookup_of_lookup_removePool hlookup)
  snapshots := h.snapshots

theorem WellFormed.rememberSync (h : WellFormed book) (id : AppliedLogKey)
    {snapshot : V2SyncSnapshot} (hpos : 0 < snapshot.reserve0 ∧ 0 < snapshot.reserve1) :
    WellFormed (book.rememberSync id snapshot) where
  keyed := h.keyed
  sound := h.sound
  snapshots i snap hlookup := by
    by_cases hi : i = id
    · subst hi
      rw [lookup_rememberSync_self] at hlookup
      obtain rfl := Option.some.inj hlookup
      exact hpos
    · rw [lookup_rememberSync_of_ne _ _ hi] at hlookup
      exact h.snapshots i snap hlookup

theorem WellFormed.forgetSync (h : WellFormed book) (id : AppliedLogKey) :
    WellFormed (book.forgetSync id) where
  keyed := h.keyed
  sound := h.sound
  snapshots i snap hlookup := by
    by_cases hi : i = id
    · subst hi
      rw [lookup_forgetSync_self] at hlookup
      cases hlookup
    · rw [lookup_forgetSync_of_ne _ hi] at hlookup
      exact h.snapshots i snap hlookup

/-- Writing non-zero reserves into a sound pool. -/
theorem sound_restore {pool : V2PoolState} (h : (PoolState.v2 pool).Sound)
    {snapshot : V2SyncSnapshot} (hpos : 0 < snapshot.reserve0 ∧ 0 < snapshot.reserve1) :
    (PoolState.v2 (pool.restore snapshot)).Sound := by
  obtain ⟨htokens, -, -, hfee⟩ := V2PoolState.validate_ok_iff.mp h
  exact V2PoolState.validate_ok_iff.mpr ⟨htokens, hpos.1, hpos.2, hfee⟩

/-- **Step lemma.** A log keeps the book well formed, also when it fails. -/
theorem WellFormed.applyLog (h : WellFormed book) (log : Log) :
    WellFormed (applyLog u256FromDecimal book log).1 := by
  have hstep := bookStep_applyLog u256FromDecimal book log
  generalize PoolBook.applyLog u256FromDecimal book log = result at hstep
  cases hstep with
  | ignored _ _ => exact h
  | @applied address pool decoded id reserve0 reserve1 haddr hpool _ _ _ _ _ _ _ hpos =>
      have hsound := h.sound _ _ hpool
      have hsnapshot : 0 < pool.snapshot.reserve0 ∧ 0 < pool.snapshot.reserve1 := by
        obtain ⟨-, h0, h1, -⟩ := V2PoolState.validate_ok_iff.mp hsound
        exact ⟨h0, h1⟩
      refine (h.rememberSync id hsnapshot).replacePool hpool rfl ?_
      exact sound_restore hsound hpos
  | @reverted address pool decoded id previous haddr hpool _ _ _ _ hprev =>
      refine (h.forgetSync id).replacePool hpool rfl ?_
      exact sound_restore (h.sound _ _ hpool) (h.snapshots id previous hprev)
  | @swapped address pool decoded values haddr hpool _ _ _ hvalues =>
      refine h.replacePool hpool rfl ?_
      obtain ⟨htokens, hfee, hspacing, -, -⟩ := h.sound _ _ hpool
      obtain ⟨hmin, hmax⟩ := V3PoolState.carriedValues_range hvalues
      exact ⟨htokens, hfee, hspacing, hmin, hmax⟩
  | failed _ _ _ => exact h.removePool _

theorem WellFormed.step (h : WellFormed book) (op : BookOp) (hbuilt : op.Built) :
    WellFormed (step u256FromDecimal book op) := by
  cases op with
  | insertV2Pool pool => exact h.insertPool rfl hbuilt.sound
  | insertV3Pool pool => exact h.insertPool rfl hbuilt.sound
  | applyLog log => exact h.applyLog log

/-! ## Whole runs -/

/-- **The representation invariant.** Every book reached from the empty one
by inserts of constructed pools and by logs is well formed, and a quote of
any of its entries, for any token and amount, returns without a division by
zero or a subtraction below zero. -/
theorem wellFormed_of_reachable {ops : List BookOp} (hbuilt : ∀ op ∈ ops, op.Built) :
    WellFormed (Run.final (step u256FromDecimal) new ops)
      ∧ ∀ key entry, (Run.final (step u256FromDecimal) new ops).pools.lookup key = some entry →
          ∀ tokenIn amountIn, entry.quoteExactInFaulting tokenIn amountIn
            = returns (entry.quoteExactIn tokenIn amountIn) := by
  have halong : Run.Along (step u256FromDecimal) (fun _ op => op.Built) new ops :=
    Run.along_of_forall hbuilt
  have hwell : WellFormed (Run.final (step u256FromDecimal) new ops) :=
    Run.inv_final (fun _ op h hop => h.step op hop) wellFormed_new halong
  refine ⟨hwell, fun key entry hlookup tokenIn amountIn => ?_⟩
  exact PoolState.quoteExactInFaulting_of_inRange (hwell.sound key entry hlookup).inRange
    tokenIn amountIn

/-- The pool of the unit tests after a `Sync` and its removal. -/
theorem revertedSync_wellFormed :
    (Run.final (step fun _ => none) new
        [.insertV2Pool V2PoolState.samplePool, .applyLog (sampleSyncLog 123 77 88 1 false),
          .applyLog (sampleSyncLog 123 77 88 1 true)]).pools.lookup "0xpool"
        = some (.v2 V2PoolState.samplePool)
      ∧ V2PoolState.samplePool.quoteExactInFaulting "0xweth" 1000000000000000000
        = returns (V2PoolState.samplePool.quoteExactIn "0xweth" 1000000000000000000) := by
  have hlookup : (Run.final (step fun _ => none) new
      [.insertV2Pool V2PoolState.samplePool, .applyLog (sampleSyncLog 123 77 88 1 false),
        .applyLog (sampleSyncLog 123 77 88 1 true)]).pools.lookup "0xpool"
      = some (.v2 V2PoolState.samplePool) := by decide
  have hbuilt : V2PoolState.samplePool.Built := by
    unfold V2PoolState.Built
    decide
  refine ⟨hlookup, ?_⟩
  refine (wellFormed_of_reachable ?_).2 "0xpool" _ hlookup "0xweth" 1000000000000000000
  simp [BookOp.Built, hbuilt]

end PoolBook

end BaseEngine
