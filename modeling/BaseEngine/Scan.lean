import Mathlib.Data.List.Destutter
import Mathlib.Data.List.Sort
import BaseEngine.EndToEnd
import BaseEngine.PoolBook

/-!
# Scanning the book

`detect_two_leg_loops_from_book` of `crates/decision/src/lib.rs`. The book is
a hash map, so that the scan sees its V2 pools in an order of the map's own;
here it is given a list of them (`PoolBook.Lists`).

What comes out has been detected on two pools of the book
(`exists_pair_of_mem`).
-/

namespace BaseEngine

open Text

namespace PoolBook

def v2Pools (book : PoolBook) : Multiset V2PoolState :=
  book.pools.entries.filterMap fun entry =>
    match entry.2 with
    | .v2 pool => some pool
    | .v3 _ => none

/-- The list has the book's V2 pools, in some order. -/
def Lists (book : PoolBook) (pools : List V2PoolState) : Prop := ↑pools = book.v2Pools

instance (book : PoolBook) (pools : List V2PoolState) : Decidable (book.Lists pools) :=
  inferInstanceAs (Decidable (_ = book.v2Pools))

end PoolBook

/-- The loop over one ordered pair of pools, if the two may form one. -/
def detectOverPair (blockContext : BlockContext) (settlementToken : Address) (amountIn : Nat)
    (triggerTxHash : Option String) (intermediateToken : Address)
    (firstPool secondPool : V2PoolState) : Option Opportunity :=
  if eqIgnoreAsciiCase firstPool.address secondPool.address then none
  else if secondPool.containsToken intermediateToken = false
      ∨ secondPool.containsToken settlementToken = false then none
  else
    detectTwoLegLoop
      { blockContext, settlementToken, amountIn, firstPool, secondPool, triggerTxHash }

/-- The loops that start in a pool. -/
def detectFromPool (pools : List V2PoolState) (blockContext : BlockContext)
    (settlementToken : Address) (amountIn : Nat) (triggerTxHash : Option String)
    (firstPool : V2PoolState) : List Opportunity :=
  if firstPool.containsToken settlementToken = false then []
  else
    match firstPool.otherToken settlementToken with
    | none => []
    | some intermediateToken =>
        pools.filterMap
          (detectOverPair blockContext settlementToken amountIn triggerTxHash intermediateToken
            firstPool)

/-- More profit first, then by identifier. -/
def RankedBefore (left right : Opportunity) : Prop :=
  right.expectedNetProfit < left.expectedNetProfit
    ∨ (right.expectedNetProfit = left.expectedNetProfit ∧ left.id ≤ right.id)

instance : DecidableRel RankedBefore :=
  fun left right => inferInstanceAs (Decidable (_ ∨ (_ ∧ left.id ≤ right.id)))

/-- The loops found, ranked by a stable sort; of neighbours with one identifier the first
stays. -/
def detectTwoLegLoopsFromBook (pools : List V2PoolState) (blockContext : BlockContext)
    (settlementToken : Address) (amountIn : Nat) (triggerTxHash : Option String) :
    List Opportunity :=
  ((pools.flatMap
      (detectFromPool pools blockContext settlementToken amountIn triggerTxHash)).insertionSort
    RankedBefore).destutter fun left right => left.id ≠ right.id

/-- A loop that the scan returns was detected on two of the pools. -/
theorem exists_pair_of_mem {pools : List V2PoolState} {blockContext : BlockContext}
    {settlementToken : Address} {amountIn : Nat} {triggerTxHash : Option String}
    {opp : Opportunity}
    (h : opp ∈ detectTwoLegLoopsFromBook pools blockContext settlementToken amountIn
      triggerTxHash) :
    ∃ firstPool ∈ pools, ∃ secondPool ∈ pools,
      detectTwoLegLoop
        { blockContext, settlementToken, amountIn, firstPool, secondPool, triggerTxHash }
          = some opp := by
  have hmem := (List.perm_insertionSort _ _).subset ((List.destutter_sublist _ _).subset h)
  obtain ⟨firstPool, hfirst, hmem⟩ := List.mem_flatMap.mp hmem
  unfold detectFromPool at hmem
  split at hmem
  · cases hmem
  · split at hmem
    · cases hmem
    · obtain ⟨secondPool, hsecond, hpair⟩ := List.mem_filterMap.mp hmem
      unfold detectOverPair at hpair
      split at hpair
      · cases hpair
      · split at hpair
        · cases hpair
        · exact ⟨firstPool, hfirst, secondPool, hsecond, hpair⟩

/-- The pools of a list of the book are in the book. -/
theorem PoolBook.Lists.mem_iff {book : PoolBook} {pools : List V2PoolState}
    (h : book.Lists pools) {pool : V2PoolState} : pool ∈ pools ↔ pool ∈ book.v2Pools := by
  rw [← h, Multiset.mem_coe]

/-! ## The sample loop in a book -/

def samplePools : List V2PoolState := [profitableLoop.firstPool, profitableLoop.secondPool]

def sampleBook : PoolBook :=
  (PoolBook.new.insertV2Pool profitableLoop.firstPool).insertV2Pool profitableLoop.secondPool

theorem sampleBook_lists : sampleBook.Lists samplePools := by
  decide +kernel

theorem sampleOpportunity_detected :
    sampleOpportunity ∈ detectTwoLegLoopsFromBook samplePools .pending weth 1000000
      (some "0xtrigger") := by
  decide +kernel

end BaseEngine
