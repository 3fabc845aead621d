import BaseEngine.Lib.Run
import BaseEngine.PoolBook

/-!
# `Swap` logs of a V3 pool under reorganisations

A removed `Sync` takes its V2 pool back to a snapshot. The V3 path has no
snapshots and does not look at the flag: a removed `Swap` is applied like
any other and leaves the pool with the values of the swap it cancels.

`faithful_iff` says for which runs of applied and removed swaps the pool
nevertheless ends with the values of the newest swap that survives.
-/

namespace BaseEngine

open PoolBook Text
open V3PoolState (SwapValues carriedValues)

/-- The log is a decoded V3 `Swap`. -/
def isSwap (log : Log) : Bool :=
  match log.decodedEvent with
  | some decoded => decide (decoded.kind = .v3Swap)
  | none => false

theorem isSwap_eq_true_iff {log : Log} :
    isSwap log = true ↔ ∃ decoded, log.decodedEvent = some decoded ∧ decoded.kind = .v3Swap := by
  unfold isSwap
  cases log.decodedEvent <;> simp

/-- A swap: its place in the chain and what it carried. -/
structure SwapEntry where
  id : AppliedLogKey
  values : SwapValues
deriving Repr, DecidableEq

/-- A book with the swaps applied to it and not removed since, newest
first. -/
structure SwapReplay where
  book : PoolBook
  live : List SwapEntry

namespace SwapReplay

variable (u256FromDecimal : String → Option Nat)

def start (book : PoolBook) : SwapReplay := { book, live := [] }

/-- The swap a log reports. -/
def swapEntry (log : Log) : Option SwapEntry := do
  let decoded ← log.decodedEvent
  let values ← carriedValues u256FromDecimal decoded
  let id ← (appliedLogKey log).toOption
  return { id, values }

/-- A swap that was applied joins the live ones, a removed one leaves them,
whatever the book made of it. -/
def record (s : SwapReplay) (log : Log)
    (result : PoolBook × Except MarketError MarketEventOutcome) : SwapReplay :=
  { book := result.1,
    live :=
      if log.removed.getD false = true then
        s.live.eraseP fun entry => decide (appliedLogKey log = .ok entry.id)
      else
        match swapEntry u256FromDecimal log, result.2 with
        | some entry, .ok .applied => entry :: s.live
        | _, _ => s.live }

/-- One call of `applyLog`. -/
def deliver (s : SwapReplay) (log : Log) : SwapReplay :=
  s.record u256FromDecimal log (applyLog u256FromDecimal s.book log)

/-- The values of the newest swap, or the pool's own without one. -/
def surviving (pool : V3PoolState) : List SwapEntry → SwapValues
  | [] => pool.swapValues
  | newest :: _ => newest.values

/-- The address of the log is that of the pool and leads to its key. -/
def names (key : String) (pool : V3PoolState) (log : Log) : Bool :=
  log.address.any fun address =>
    decide (normalizeAddressKey address = key) && eqIgnoreAsciiCase address pool.address

/-- A `Swap` of the pool, or the newest live one delivered again as
removed. -/
def SwapOf (key : String) (pool : V3PoolState) (s : SwapReplay) (log : Log) : Prop :=
  names key pool log = true ∧ isSwap log = true ∧ (appliedLogKey log).isOk = true
    ∧ (log.removed.getD false = true →
      s.live ≠ [] ∧ swapEntry u256FromDecimal log = s.live.head?)

/-- The log reports all of its swap, and a removed swap is one that changed
nothing. -/
def Unchanging (pool : V3PoolState) (s : SwapReplay) (log : Log) : Prop :=
  if log.removed.getD false = true then surviving pool s.live = surviving pool s.live.tail
  else (swapEntry u256FromDecimal log).isSome = true

instance (key : String) (pool : V3PoolState) (s : SwapReplay) (log : Log) :
    Decidable (SwapOf u256FromDecimal key pool s log) :=
  inferInstanceAs (Decidable (_ ∧ _ ∧ _ ∧ (_ → _)))

instance (pool : V3PoolState) (s : SwapReplay) (log : Log) :
    Decidable (Unchanging u256FromDecimal pool s log) :=
  inferInstanceAs (Decidable (ite _ _ _))

/-- The pool is in the book with the values of the newest surviving swap. -/
def Faithful (key : String) (pool : V3PoolState) (s : SwapReplay) : Prop :=
  ∃ current, s.book.pools.lookup key = some (.v3 current) ∧ current.address = pool.address
    ∧ current.swapValues = surviving pool s.live

variable {u256FromDecimal} {key : String} {pool : V3PoolState} {s : SwapReplay} {log : Log}

/-! ## One log -/

theorem faithful_start {book : PoolBook} (hpool : book.pools.lookup key = some (.v3 pool)) :
    Faithful key pool (start book) :=
  ⟨pool, hpool, rfl, rfl⟩

theorem faithful_insertPool_iff {book : PoolBook} {updated : V3PoolState} {live : List SwapEntry}
    (haddress : updated.address = pool.address) :
    Faithful key pool ⟨book.insertPool key (.v3 updated), live⟩
      ↔ updated.swapValues = surviving pool live := by
  constructor
  · rintro ⟨current, hlookup, -, hvalues⟩
    rw [lookup_insertPool_self] at hlookup
    obtain rfl := PoolState.v3.inj (Option.some.inj hlookup)
    exact hvalues
  · intro hvalues
    exact ⟨updated, lookup_insertPool_self .., haddress, hvalues⟩

theorem not_faithful_removePool {book : PoolBook} {live : List SwapEntry} :
    ¬ Faithful key pool ⟨book.removePool key, live⟩ := by
  rintro ⟨current, hlookup, -⟩
  rw [lookup_removePool_self] at hlookup
  cases hlookup

/-- A log that reports its swap puts the values in, removed or not; any other
one loses the pool. -/
theorem applyLog_swapOf {book : PoolBook} {current : V3PoolState}
    (hlookup : book.pools.lookup key = some (.v3 current))
    (haddress : current.address = pool.address) (h : SwapOf u256FromDecimal key pool s log) :
    (∃ entry, swapEntry u256FromDecimal log = some entry ∧ appliedLogKey log = .ok entry.id
        ∧ applyLog u256FromDecimal book log
          = (book.insertPool key (.v3 (current.swapped entry.values log)), .ok .applied))
      ∨ (swapEntry u256FromDecimal log = none
        ∧ ∃ e, applyLog u256FromDecimal book log = (book.removePool key, .error e)) := by
  obtain ⟨hnames, hswap, hid, -⟩ := h
  obtain ⟨address, haddr, hnamed⟩ := (Option.any_eq_true _ _).mp hnames
  obtain ⟨hkey, hmatch⟩ := (Bool.and_eq_true _ _).mp hnamed
  obtain rfl := of_decide_eq_true hkey
  obtain ⟨decoded, hdec, hkind⟩ := isSwap_eq_true_iff.mp hswap
  obtain ⟨id, hid⟩ := Fallible.isOk_iff.mp hid
  rw [← haddress] at hmatch
  have hadopts := @V3PoolState.applyLog_swap u256FromDecimal current decoded log address haddr
    hmatch hdec hkind
  rw [applyLog_of_v3 haddr hlookup]
  rcases hadopts with ⟨values, hvalues, hlog⟩ | ⟨hnot, e, hlog⟩
  · refine Or.inl ⟨⟨id, values⟩, ?_, hid, ?_⟩
    · simp [swapEntry, hdec, hvalues, hid, Except.toOption]
    · rw [hlog]
  · have hnone : carriedValues u256FromDecimal decoded = none := by
      cases hvalues : carriedValues u256FromDecimal decoded with
      | none => rfl
      | some values => exact absurd (V3PoolState.swapComplete_iff.mpr ⟨values, hvalues⟩) hnot
    refine Or.inr ⟨?_, e, ?_⟩
    · simp [swapEntry, hdec, hnone]
    · rw [hlog]

/-- **Step lemma.** -/
theorem faithful_deliver_iff (h : Faithful key pool s)
    (hswap : SwapOf u256FromDecimal key pool s log) :
    Faithful key pool (deliver u256FromDecimal s log) ↔ Unchanging u256FromDecimal pool s log := by
  obtain ⟨current, hlookup, haddress, -⟩ := h
  have hnewest := hswap.2.2.2
  unfold deliver record Unchanging
  rcases applyLog_swapOf hlookup haddress hswap with ⟨entry, hentry, hid, hlog⟩ | ⟨hnone, e, hlog⟩
  · have hadopted : (current.swapped entry.values log).address = pool.address := haddress
    rw [hlog]
    by_cases hremoved : log.removed.getD false = true
    · obtain ⟨hne, hhead⟩ := hnewest hremoved
      cases hlive : s.live with
      | nil => exact absurd hlive hne
      | cons newest rest =>
          rw [hlive, hentry] at hhead
          obtain rfl : entry = newest := Option.some.inj hhead
          have herase : (entry :: rest).eraseP (fun e => decide (appliedLogKey log = .ok e.id))
              = rest := List.eraseP_cons_of_pos (by simpa using hid)
          rw [if_pos hremoved, if_pos hremoved, faithful_insertPool_iff hadopted, herase]
          rfl
    · rw [if_neg hremoved, if_neg hremoved, faithful_insertPool_iff hadopted, hentry]
      exact ⟨fun _ => rfl, fun _ => rfl⟩
  · rw [hlog]
    by_cases hremoved : log.removed.getD false = true
    · obtain ⟨hne, hhead⟩ := hnewest hremoved
      rw [hnone] at hhead
      exact absurd (List.head?_eq_none_iff.mp hhead.symm) hne
    · rw [if_neg hremoved, if_neg hremoved, hnone]
      exact iff_of_false not_faithful_removePool Bool.false_ne_true

/-! ## Whole runs -/

/-- **Reorganised swaps.** In a run of swaps of a pool, in which removals
concern the newest surviving swap, the pool has the values of the newest
surviving swap in every state exactly when every log reports all of its swap
and only swaps that changed nothing are removed. -/
theorem faithful_iff {book : PoolBook} {logs : List Log}
    (hpool : book.pools.lookup key = some (.v3 pool))
    (hlogs : Run.Along (deliver u256FromDecimal) (SwapOf u256FromDecimal key pool) (start book)
      logs) :
    (∀ pre, pre <+: logs → Faithful key pool (Run.final (deliver u256FromDecimal) (start book) pre))
      ↔ Run.Along (deliver u256FromDecimal) (Unchanging u256FromDecimal pool) (start book) logs :=
  Run.forall_prefix_iff_along_of (fun _ _ hI hD => faithful_deliver_iff hI hD)
    (faithful_start hpool) hlogs

/-- The pool of the unit tests, at the price one. -/
def samplePool : V3PoolState :=
  { address := "0xv3pool", protocol := .uniswapV3, exchange := some .aerodrome,
    token0 := "0xtoken0", token1 := "0xtoken1", feePips := 500, tickSpacing := 10,
    sqrtPriceX96 := 2 ^ 96, liquidity := 10 ^ 20, tick := 0, lastUpdatedBlock := none }

/-- The `Swap` log of the unit tests. -/
def sampleSwapLog (sqrtPriceX96 : String) (liquidity : Nat) (tick : Int) (logIndex : Nat)
    (removed : Bool) : Log :=
  { sampleSyncLog 123 0 0 logIndex removed with
    address := some "0xv3pool",
    decodedEvent := some
      { kind := .v3Swap, pool := some "0xv3pool", sender := none, recipient := none,
        owner := none, reserve0 := none, reserve1 := none, amount0In := none,
        amount1In := none, amount0Out := none, amount1Out := none, amount0 := none,
        amount1 := none, liquidity := some liquidity, sqrtPriceX96 := some sqrtPriceX96,
        tick := some tick, tickLower := none, tickUpper := none, protocol := some .uniswapV3,
        exchange := some .aerodrome },
    protocol := some .uniswapV3 }

/-- A swap and a second one too small to move the price, which is removed. -/
def dustRemoved : List Log :=
  [sampleSwapLog "79229371440083952222718656512" 9999 5 1 false,
    sampleSwapLog "79229371440083952222718656512" 9999 5 2 false,
    sampleSwapLog "79229371440083952222718656512" 9999 5 2 true]

theorem dustRemoved_faithful :
    Faithful "0xv3pool" samplePool
      (Run.final (deliver (parseUnsigned 10 256)) (start (new.insertV3Pool samplePool))
        dustRemoved) := by
  have hpool : (new.insertV3Pool samplePool).pools.lookup "0xv3pool" = some (.v3 samplePool) := by
    decide
  have hlogs : Run.Along (deliver (parseUnsigned 10 256))
      (SwapOf (parseUnsigned 10 256) "0xv3pool" samplePool) (start (new.insertV3Pool samplePool))
      dustRemoved := by decide
  exact (faithful_iff hpool hlogs).mpr (by decide) dustRemoved (List.prefix_refl _)

/-- The swap of the unit tests, applied and removed. -/
def removedSwap : List Log :=
  [sampleSwapLog "79229371440083952222718656512" 9999 5 1 false,
    sampleSwapLog "79229371440083952222718656512" 9999 5 1 true]

/-- No swap survives, and the pool keeps the values of the removed one. -/
theorem removedSwap_not_faithful :
    Run.Along (deliver (parseUnsigned 10 256))
        (SwapOf (parseUnsigned 10 256) "0xv3pool" samplePool) (start (new.insertV3Pool samplePool))
        removedSwap
      ∧ ¬ Faithful "0xv3pool" samplePool
        (Run.final (deliver (parseUnsigned 10 256)) (start (new.insertV3Pool samplePool))
          removedSwap) := by
  have hstays : (Run.final (deliver (parseUnsigned 10 256)) (start (new.insertV3Pool samplePool))
        removedSwap).book.pools.lookup "0xv3pool"
      = some (.v3 { samplePool with
          sqrtPriceX96 := 2 ^ 96 + 2 ^ 80, liquidity := 9999, tick := 5,
          lastUpdatedBlock := some 123 }) := by decide
  refine ⟨by decide, ?_⟩
  rintro ⟨current, hlookup, -, hvalues⟩
  rw [hstays] at hlookup
  obtain rfl := PoolState.v3.inj (Option.some.inj hlookup)
  exact absurd hvalues (by decide)

end SwapReplay

end BaseEngine
