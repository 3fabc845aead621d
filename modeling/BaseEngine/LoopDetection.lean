import BaseEngine.Lib.Ranking
import BaseEngine.BookInvariant
import BaseEngine.Scan

/-!
# What the scan of the book finds

A loop that is detected rests on a price gap between its two pools, fees
included (`detectTwoLegLoop_gap`).

The scan filters pairs of pools before it asks for quotes, and sorts and
deduplicates afterwards. Neither loses or adds anything: the filters only
drop pairs without a loop (`detectFromPool_eq`), and the identifiers of the
loops are distinct because no two pools of a book share an address. What
remains is one strictly ranked list, for every order in which the hash map
lists its pools (`detectTwoLegLoopsFromBook_ranked`).

The settlement token is matched ignoring case, except where the loop closes.
`sameLoops_iff` says what two spellings of it have in common.
-/

namespace BaseEngine

open Text

/-! ## A loop needs a price gap -/

/-- **Detected loops rest on a price gap.** The marginal prices of the two
pools multiply to more than one after fees; the output is the input and a
positive profit, and the second leg spends what the first one pays. -/
theorem detectTwoLegLoop_gap {input : TwoLegLoopInput} {opp : Opportunity}
    (hfirst : input.firstPool.validate = .ok ()) (hsecond : input.secondPool.validate = .ok ())
    (h : detectTwoLegLoop input = some opp) :
    10 ^ 8 * input.firstPool.reserveIn input.settlementToken
        * input.secondPool.reserveIn (input.firstPool.tokenOut input.settlementToken)
      < (10000 - input.firstPool.feeBps) * (10000 - input.secondPool.feeBps)
        * input.firstPool.reserveOut input.settlementToken
        * input.secondPool.reserveOut (input.firstPool.tokenOut input.settlementToken)
      ∧ opp.expectedOutputAmount = opp.inputAmount + opp.expectedNetProfit
      ∧ 0 < opp.expectedNetProfit
      ∧ ∃ leg₁ leg₂ amount, opp.route = [leg₁, leg₂] ∧ leg₁.minAmountOut = some amount
          ∧ leg₂.amountIn = some amount := by
  obtain ⟨first, second, hgains, -, rfl⟩ := detectTwoLegLoop_eq_some_iff.mp h
  have hgain := hgains.gain
  obtain ⟨impact₁, -, hfirstQuote⟩ := V2PoolState.quoteExactIn_ok hgains.there
  obtain ⟨impact₂, -, hsecondQuote⟩ := V2PoolState.quoteExactIn_ok hgains.back
  have hin : second.amountIn = first.amountOut := by rw [hsecondQuote, V2PoolState.quoteOf]
  refine ⟨?_, ?_, ?_, _, _, first.amountOut, rfl, rfl, congrArg some hin⟩
  · rw [hsecondQuote, hfirstQuote] at hgain
    simp only [V2PoolState.quoteOf_tokenOut, V2PoolState.quoteOf_amountOut] at hgain
    have hreserve₁ := V2PoolState.reserveIn_pos hfirst input.settlementToken
    have hreserve₂ := V2PoolState.reserveIn_pos hsecond
      (input.firstPool.tokenOut input.settlementToken)
    have hgap := ConstantProduct.lt_of_lt_out_out (Nat.mul_pos hreserve₁ (by decide))
      (Nat.mul_pos hreserve₂ (by decide)) hgain
    unfold bpsDenominator at hgap
    linarith
  · show second.amountOut = input.amountIn + (second.amountOut - input.amountIn)
    omega
  · show 0 < second.amountOut - input.amountIn
    omega

theorem profitableLoop_gap :
    profitableLoop.firstPool.validate = .ok () ∧ profitableLoop.secondPool.validate = .ok ()
      ∧ 10 ^ 8 * profitableLoop.firstPool.reserveIn weth
          * profitableLoop.secondPool.reserveIn (profitableLoop.firstPool.tokenOut weth)
        < (10000 - profitableLoop.firstPool.feeBps) * (10000 - profitableLoop.secondPool.feeBps)
          * profitableLoop.firstPool.reserveOut weth
          * profitableLoop.secondPool.reserveOut (profitableLoop.firstPool.tokenOut weth)
      ∧ sampleOpportunity.expectedOutputAmount
        = sampleOpportunity.inputAmount + sampleOpportunity.expectedNetProfit
      ∧ 0 < sampleOpportunity.expectedNetProfit
      ∧ ∃ leg₁ leg₂ amount, sampleOpportunity.route = [leg₁, leg₂]
          ∧ leg₁.minAmountOut = some amount ∧ leg₂.amountIn = some amount := by
  have hfirst : profitableLoop.firstPool.validate = .ok () := by decide
  have hsecond : profitableLoop.secondPool.validate = .ok () := by decide
  exact ⟨hfirst, hsecond, detectTwoLegLoop_gap hfirst hsecond sampleRequest_accepted.detected⟩

/-! ## The filters of the scan -/

section Scan

variable (blockContext : BlockContext) (settlementToken : Address) (amountIn : Nat)
  (triggerTxHash : Option String)

/-- The loop over two pools of different addresses, without the filters. -/
def pairLoop (firstPool secondPool : V2PoolState) : Option Opportunity :=
  if eqIgnoreAsciiCase firstPool.address secondPool.address then none
  else
    detectTwoLegLoop
      { blockContext, settlementToken, amountIn, firstPool, secondPool, triggerTxHash }

variable {blockContext settlementToken amountIn triggerTxHash}

theorem V2PoolState.otherToken_of_containsToken {pool : V2PoolState} {token : String}
    (h : pool.containsToken token = true) : pool.otherToken token = some (pool.tokenOut token) := by
  unfold containsToken at h
  unfold otherToken tokenOut
  rw [eqIgnoreAsciiCase_comm token]
  by_cases h0 : eqIgnoreAsciiCase pool.token0 token = true
  · rw [if_pos h0, if_pos h0]
  · have h1 : eqIgnoreAsciiCase pool.token1 token = true := by simpa [h0] using h
    rw [if_neg h0, if_neg h0, if_pos h1]

/-- A pool contains the tokens it pays. -/
theorem V2PoolState.containsToken_tokenOut (pool : V2PoolState) (token : String) :
    pool.containsToken (pool.tokenOut token) = true := by
  unfold containsToken tokenOut
  split
  · simp [eqIgnoreAsciiCase]
  · simp [eqIgnoreAsciiCase]

/-- What the filters let through, where there is a loop. -/
theorem contains_of_detected {input : TwoLegLoopInput} {opp : Opportunity}
    (h : detectTwoLegLoop input = some opp) :
    input.firstPool.containsToken input.settlementToken = true
      ∧ input.secondPool.containsToken (input.firstPool.tokenOut input.settlementToken) = true
      ∧ input.secondPool.containsToken input.settlementToken = true := by
  obtain ⟨first, second, hgains, hclose, -⟩ := detectTwoLegLoop_eq_some_iff.mp h
  obtain ⟨impact₁, hfirst, rfl⟩ := V2PoolState.quoteExactIn_ok hgains.there
  obtain ⟨impact₂, hsecond, rfl⟩ := V2PoolState.quoteExactIn_ok hgains.back
  rw [V2PoolState.quoteOf_tokenOut] at hsecond hclose
  refine ⟨hfirst.token, hsecond.token, ?_⟩
  rw [← hclose]
  exact V2PoolState.containsToken_tokenOut ..

theorem detectOverPair_eq (firstPool secondPool : V2PoolState) :
    detectOverPair blockContext settlementToken amountIn triggerTxHash
        (firstPool.tokenOut settlementToken) firstPool secondPool
      = pairLoop blockContext settlementToken amountIn triggerTxHash firstPool secondPool := by
  unfold detectOverPair pairLoop
  by_cases hsame : eqIgnoreAsciiCase firstPool.address secondPool.address = true
  · rw [if_pos hsame, if_pos hsame]
  · rw [if_neg hsame, if_neg hsame]
    by_cases hskip : secondPool.containsToken (firstPool.tokenOut settlementToken) = false
        ∨ secondPool.containsToken settlementToken = false
    · rw [if_pos hskip]
      symm
      rw [Option.eq_none_iff_forall_ne_some]
      intro opp hopp
      obtain ⟨-, hmid, hsettle⟩ := contains_of_detected hopp
      rcases hskip with h | h
      · exact absurd (h.symm.trans hmid) Bool.false_ne_true
      · exact absurd (h.symm.trans hsettle) Bool.false_ne_true
    · rw [if_neg hskip]

/-- The filters drop no pair with a loop. -/
theorem detectFromPool_eq (pools : List V2PoolState) (firstPool : V2PoolState) :
    detectFromPool pools blockContext settlementToken amountIn triggerTxHash firstPool
      = pools.filterMap
          (pairLoop blockContext settlementToken amountIn triggerTxHash firstPool) := by
  unfold detectFromPool
  by_cases hcontains : firstPool.containsToken settlementToken = false
  · rw [if_pos hcontains]
    symm
    rw [List.filterMap_eq_nil_iff]
    intro secondPool _
    rw [Option.eq_none_iff_forall_ne_some]
    intro opp hopp
    unfold pairLoop at hopp
    split at hopp
    · cases hopp
    · obtain ⟨hfirst, -⟩ := contains_of_detected hopp
      exact absurd (hcontains.symm.trans hfirst) Bool.false_ne_true
  · rw [if_neg hcontains,
      V2PoolState.otherToken_of_containsToken (Bool.eq_true_of_not_eq_false hcontains)]
    exact List.filterMap_congr fun secondPool _ => detectOverPair_eq firstPool secondPool

/-! ## Identifiers -/

theorem id_of_pairLoop {firstPool secondPool : V2PoolState} {opp : Opportunity}
    (h : pairLoop blockContext settlementToken amountIn triggerTxHash firstPool secondPool
      = some opp) :
    opp.id = loopId settlementToken amountIn firstPool.address secondPool.address := by
  unfold pairLoop at h
  split at h
  · cases h
  · obtain ⟨first, second, -, -, rfl⟩ := detectTwoLegLoop_eq_some_iff.mp h
    rfl

/-- Addresses without a colon can be read off the identifier. -/
theorem loopId_inj {a b a' b' : Address} (ha : ':' ∉ a.toList) (hb : ':' ∉ b.toList)
    (h : loopId settlementToken amountIn a b = loopId settlementToken amountIn a' b') :
    a = a' ∧ b = b' := by
  have hchars := congrArg String.toList h
  simp only [loopId, String.toList_append, List.append_assoc, List.append_cancel_left_eq] at hchars
  simp only [← List.append_assoc, List.append_cancel_right_eq] at hchars
  rw [List.append_assoc, List.append_assoc] at hchars
  obtain ⟨hfirst, -, hsecond⟩ := (List.append_cons_inj_of_notMem ha hb).mp hchars
  exact ⟨String.toList_injective hfirst, String.toList_injective hsecond⟩

/-! ## The ranked list -/

instance : Std.Total RankedBefore where
  total left right := by
    unfold RankedBefore
    rcases Nat.lt_trichotomy left.expectedNetProfit right.expectedNetProfit with hlt | heq | hgt
    · exact .inr (.inl hlt)
    · rcases le_total left.id right.id with h | h
      · exact .inl (.inr ⟨heq.symm, h⟩)
      · exact .inr (.inr ⟨heq, h⟩)
    · exact .inl (.inl hgt)

instance : IsTrans Opportunity RankedBefore where
  trans a b c := by
    rintro (hab | ⟨hab, hid⟩) (hbc | ⟨hbc, hid'⟩)
    · exact .inl (by omega)
    · exact .inl (by omega)
    · exact .inl (by omega)
    · exact .inr ⟨by omega, hid.trans hid'⟩

theorem id_eq_of_rankedBefore {a b : Opportunity} (hab : RankedBefore a b)
    (hba : RankedBefore b a) : a.id = b.id := by
  rcases hab with hab | ⟨hab, hid⟩
  · rcases hba with hba | ⟨hba, -⟩
    · omega
    · omega
  · rcases hba with hba | ⟨-, hid'⟩
    · omega
    · exact le_antisymm hid hid'

variable (blockContext settlementToken amountIn triggerTxHash) in
/-- The loops over all ordered pairs, in the order of the pools. -/
def pairLoops (pools : List V2PoolState) : List Opportunity :=
  pools.flatMap fun firstPool =>
    pools.filterMap (pairLoop blockContext settlementToken amountIn triggerTxHash firstPool)

theorem detectTwoLegLoopsFromBook_eq (pools : List V2PoolState) :
    detectTwoLegLoopsFromBook pools blockContext settlementToken amountIn triggerTxHash
      = Ranking.ranked RankedBefore Opportunity.id
          (pairLoops blockContext settlementToken amountIn triggerTxHash pools) := by
  unfold detectTwoLegLoopsFromBook pairLoops Ranking.ranked
  rw [List.flatMap_congr fun firstPool _ => detectFromPool_eq pools firstPool]

theorem pairwise_id_pairLoops {pools : List V2PoolState}
    (hdistinct : pools.Pairwise fun p q => p.address ≠ q.address)
    (hcolon : ∀ pool ∈ pools, ':' ∉ pool.address.toList) :
    (pairLoops blockContext settlementToken amountIn triggerTxHash pools).Pairwise
      fun a b => a.id ≠ b.id := by
  rw [pairLoops, List.pairwise_flatMap]
  constructor
  · -- one first pool: the second addresses differ
    intro firstPool hfirst
    rw [List.pairwise_filterMap]
    refine hdistinct.imp_of_mem ?_
    intro p q hp hq hne opp hopp opp' hopp' heq
    rw [id_of_pairLoop hopp, id_of_pairLoop hopp'] at heq
    exact hne (loopId_inj (hcolon _ hfirst) (hcolon _ hp) heq).2
  · refine hdistinct.imp_of_mem ?_
    intro p q hp hq hne opp hopp opp' hopp' heq
    obtain ⟨second, hsecond, hopp⟩ := List.mem_filterMap.mp hopp
    obtain ⟨second', hsecond', hopp'⟩ := List.mem_filterMap.mp hopp'
    rw [id_of_pairLoop hopp, id_of_pairLoop hopp'] at heq
    exact hne (loopId_inj (hcolon _ hp) (hcolon _ hsecond) heq).1

theorem coe_pairLoops (pools : List V2PoolState) :
    (pairLoops blockContext settlementToken amountIn triggerTxHash pools : Multiset Opportunity)
      = ((pools : Multiset V2PoolState) ×ˢ (pools : Multiset V2PoolState)).filterMap fun pair =>
          pairLoop blockContext settlementToken amountIn triggerTxHash pair.1 pair.2 := by
  rw [Multiset.coe_product, Multiset.filterMap_coe]
  congr 1
  show pairLoops .. = (pools.flatMap fun first => pools.map (Prod.mk first)).filterMap _
  rw [List.filterMap_flatMap]
  simp only [List.filterMap_map]
  rfl

end Scan

namespace PoolBook

/-- Pools of a book have different addresses. -/
theorem Lists.pairwise_address {book : PoolBook} {pools : List V2PoolState}
    (hkeyed : book.Keyed) (hlists : book.Lists pools) :
    pools.Pairwise fun p q => p.address ≠ q.address := by
  obtain ⟨entries, hentries⟩ := Quotient.exists_rep book.pools.entries
  have hkeys : entries.NodupKeys := by
    have := book.pools.nodupKeys
    rwa [← hentries] at this
  have hperm : (pools : Multiset V2PoolState) = book.v2Pools := hlists
  rw [v2Pools, ← hentries, Multiset.quot_mk_to_coe, Multiset.filterMap_coe,
    Multiset.coe_eq_coe] at hperm
  rw [hperm.pairwise_iff fun h => h.symm, List.pairwise_filterMap]
  refine (List.nodupKeys_iff_pairwise.mp hkeys).imp_of_mem ?_
  rintro ⟨key, entry⟩ ⟨key', entry'⟩ hmem hmem' hne pool hpool pool' hpool' haddress
  -- the key of an entry is a function of its address
  have hkey : ∀ {key : String} {entry : PoolState}, ⟨key, entry⟩ ∈ entries →
      key = normalizeAddressKey entry.address := by
    intro key entry hin
    refine hkeyed key entry (Finmap.lookup_eq_some_iff.mpr ?_)
    rw [← hentries]
    exact hin
  cases entry with
  | v3 _ => cases hpool
  | v2 p =>
      cases entry' with
      | v3 _ => cases hpool'
      | v2 p' =>
          obtain rfl := Option.some.inj hpool
          obtain rfl := Option.some.inj hpool'
          exact hne ((hkey hmem).trans ((congrArg normalizeAddressKey haddress).trans
            (hkey hmem').symm))

end PoolBook

/-- **The scan is complete, ranked and independent of the order of the
map.** On a book whose pool addresses have no colon, every order of its
pools gives the same list: one loop for each ordered pair of pools of
different addresses that has one, by falling profit and then by rising
identifier. -/
theorem detectTwoLegLoopsFromBook_ranked {u256FromDecimal : String → Option Nat}
    {book : PoolBook} (hbook : book.Reachable u256FromDecimal)
    (hcolon : ∀ pool ∈ book.v2Pools, ':' ∉ pool.address.toList)
    (blockContext : BlockContext) (settlementToken : Address) (amountIn : Nat)
    (triggerTxHash : Option String) :
    ∃ loops : List Opportunity,
      (∀ pools, book.Lists pools →
        detectTwoLegLoopsFromBook pools blockContext settlementToken amountIn triggerTxHash
          = loops)
      ∧ (book.v2Pools.map V2PoolState.address).Nodup
      ∧ (loops : Multiset Opportunity) = (book.v2Pools ×ˢ book.v2Pools).filterMap (fun pair =>
          pairLoop blockContext settlementToken amountIn triggerTxHash pair.1 pair.2)
      ∧ loops.Pairwise fun left right =>
          right.expectedNetProfit < left.expectedNetProfit
            ∨ (right.expectedNetProfit = left.expectedNetProfit ∧ left.id < right.id) := by
  have hkeyed := hbook.keyed
  obtain ⟨pools, hlists⟩ : ∃ pools, book.Lists pools := Quot.exists_rep book.v2Pools
  have hdistinct := hlists.pairwise_address hkeyed
  have hcolon' : ∀ pool ∈ pools, ':' ∉ pool.address.toList :=
    fun pool hpool => hcolon pool (hlists.mem_iff.mp hpool)
  have hids : (pairLoops blockContext settlementToken amountIn triggerTxHash pools).Pairwise
      fun a b => a.id ≠ b.id := pairwise_id_pairLoops hdistinct hcolon'
  refine ⟨detectTwoLegLoopsFromBook pools blockContext settlementToken amountIn triggerTxHash,
    ?_, ?_, ?_, ?_⟩
  · -- another listing permutes the pairs
    intro pools' hlists'
    have hcoe : (pools : Multiset V2PoolState) = pools' := hlists.trans hlists'.symm
    have hperm : (pairLoops blockContext settlementToken amountIn triggerTxHash pools).Perm
        (pairLoops blockContext settlementToken amountIn triggerTxHash pools') := by
      rw [← Multiset.coe_eq_coe, coe_pairLoops, coe_pairLoops, hcoe]
    rw [detectTwoLegLoopsFromBook_eq, detectTwoLegLoopsFromBook_eq]
    have htie : ∀ a b : Opportunity, RankedBefore a b → RankedBefore b a → a.id = b.id :=
      fun _ _ => id_eq_of_rankedBefore
    exact (Ranking.ranked_eq_of_perm htie hids hperm).symm
  · rw [← hlists, Multiset.map_coe, Multiset.coe_nodup, List.Nodup, List.pairwise_map]
    exact hdistinct
  · rw [← hlists, ← coe_pairLoops, detectTwoLegLoopsFromBook_eq, Multiset.coe_eq_coe]
    exact Ranking.ranked_perm hids
  · rw [detectTwoLegLoopsFromBook_eq]
    refine (Ranking.ranked_strict hids).imp ?_
    rintro left right ⟨hlt | ⟨heq, hid⟩, hne⟩
    · exact .inl hlt
    · exact .inr ⟨heq, lt_of_le_of_ne hid hne⟩

theorem sampleBook_reachable : sampleBook.Reachable fun _ => none :=
  ⟨[.insertV2Pool profitableLoop.firstPool, .insertV2Pool profitableLoop.secondPool], rfl⟩

theorem sampleBook_ranked :
    (∀ pool ∈ sampleBook.v2Pools, ':' ∉ pool.address.toList)
      ∧ sampleBook.Lists samplePools
      ∧ detectTwoLegLoopsFromBook samplePools .pending weth 1000000 (some "0xtrigger")
        = detectTwoLegLoopsFromBook samplePools.reverse .pending weth 1000000
          (some "0xtrigger") := by
  have hcolon : ∀ pool ∈ sampleBook.v2Pools, ':' ∉ pool.address.toList := by
    decide +kernel
  obtain ⟨loops, hloops, -⟩ := detectTwoLegLoopsFromBook_ranked sampleBook_reachable hcolon
    .pending weth 1000000 (some "0xtrigger")
  have hreverse : sampleBook.Lists samplePools.reverse := by
    rw [PoolBook.Lists, Multiset.coe_reverse]
    exact sampleBook_lists
  exact ⟨hcolon, sampleBook_lists,
    (hloops _ sampleBook_lists).trans (hloops _ hreverse).symm⟩

/-! ## Spellings of the settlement token -/

namespace V2PoolState

variable {pool : V2PoolState} {s s' : String}

theorem QuoteStep.of_spelling (hcase : toAsciiLowercase s = toAsciiLowercase s')
    {amountIn impact : Nat} (h : pool.QuoteStep s amountIn impact) :
    pool.QuoteStep s' amountIn impact
      ∧ pool.quoteOf s' amountIn impact
        = { pool.quoteOf s amountIn impact with tokenIn := s' } := by
  have hmatch : ∀ token, eqIgnoreAsciiCase s' token = eqIgnoreAsciiCase s token := by
    intro token
    rw [eqIgnoreAsciiCase, eqIgnoreAsciiCase, hcase]
  have hcontains : pool.containsToken s' = pool.containsToken s := by
    simp only [containsToken, eqIgnoreAsciiCase_comm _ s', eqIgnoreAsciiCase_comm _ s, hmatch]
  have hin : pool.reserveIn s' = pool.reserveIn s := by
    rw [reserveIn, reserveIn, hmatch]
  have hout : pool.reserveOut s' = pool.reserveOut s := by
    rw [reserveOut, reserveOut, hmatch]
  have hexact : pool.exactOut s' amountIn = pool.exactOut s amountIn := by
    rw [exactOut, exactOut, hin, hout]
  have htoken : pool.tokenOut s' = pool.tokenOut s := by
    rw [tokenOut, tokenOut, hmatch]
  constructor
  · obtain ⟨htoken, hinput, hfee, hwithFee, hnumerator, hscaled, hdenominator, hpaid, himpact⟩ := h
    rw [← hcontains] at htoken
    rw [← hout] at hnumerator
    rw [← hin] at hscaled hdenominator
    rw [← hexact] at hpaid
    rw [← hin, ← hout, ← hexact] at himpact
    exact ⟨htoken, hinput, hfee, hwithFee, hnumerator, hscaled, hdenominator, hpaid, himpact⟩
  · simp only [quoteOf, htoken, hexact]

/-- A quote echoes the spelling it was asked with and depends on it in no
other way. -/
theorem quoteExactIn_of_spelling (hcase : toAsciiLowercase s = toAsciiLowercase s')
    {amountIn : Nat} {quote : PoolQuote} (h : pool.quoteExactIn s amountIn = .ok quote) :
    pool.quoteExactIn s' amountIn = .ok { quote with tokenIn := s' } := by
  obtain ⟨impact, hstep, rfl⟩ := quoteExactIn_ok h
  obtain ⟨hstep', hquote⟩ := hstep.of_spelling hcase
  rw [hstep'.quoteExactIn_eq, hquote]

end V2PoolState

/-- The two loops trade the same amounts over the same pools. -/
def SameLoop (left right : Opportunity) : Prop :=
  left.inputAmount = right.inputAmount
    ∧ left.expectedOutputAmount = right.expectedOutputAmount
    ∧ left.expectedNetProfit = right.expectedNetProfit
    ∧ left.route.map (fun leg => (leg.poolAddress, leg.amountIn, leg.minAmountOut))
      = right.route.map fun leg => (leg.poolAddress, leg.amountIn, leg.minAmountOut)

/-- Two quotes on the same pools are the same. -/
theorem Gains.back_eq {input : TwoLegLoopInput} {there back there' back' : PoolQuote}
    (h : Gains input there back) (h' : Gains input there' back') : back = back' := by
  obtain rfl := Except.ok.inj (h.there.symm.trans h'.there)
  exact Except.ok.inj (h.back.symm.trans h'.back)

section Spelling

variable {blockContext : BlockContext} {amountIn : Nat} {triggerTxHash : Option String}
  {pools : List V2PoolState} {s s' : Address}

theorem Gains.of_spelling {firstPool secondPool : V2PoolState} {there back : PoolQuote}
    (h : Gains ⟨blockContext, s, amountIn, firstPool, secondPool, triggerTxHash⟩ there back)
    (hcase : toAsciiLowercase s = toAsciiLowercase s') :
    Gains ⟨blockContext, s', amountIn, firstPool, secondPool, triggerTxHash⟩
      { there with tokenIn := s' } back :=
  ⟨V2PoolState.quoteExactIn_of_spelling hcase h.there, h.back, h.gain⟩

theorem pairLoop_eq_some_iff {firstPool secondPool : V2PoolState} {opp : Opportunity} :
    pairLoop blockContext s amountIn triggerTxHash firstPool secondPool = some opp
      ↔ eqIgnoreAsciiCase firstPool.address secondPool.address = false
        ∧ ∃ there back,
          Gains ⟨blockContext, s, amountIn, firstPool, secondPool, triggerTxHash⟩ there back
            ∧ back.tokenOut = s
            ∧ opp = loopOf ⟨blockContext, s, amountIn, firstPool, secondPool, triggerTxHash⟩
                there back := by
  unfold pairLoop
  by_cases hsame : eqIgnoreAsciiCase firstPool.address secondPool.address = true
  · simp [hsame]
  · rw [if_neg hsame, detectTwoLegLoop_eq_some_iff]
    simp [hsame]

theorem mem_pairLoops {opp : Opportunity} :
    opp ∈ pairLoops blockContext s amountIn triggerTxHash pools
      ↔ ∃ firstPool ∈ pools, ∃ secondPool ∈ pools,
          pairLoop blockContext s amountIn triggerTxHash firstPool secondPool = some opp := by
  simp only [pairLoops, List.mem_flatMap, List.mem_filterMap]

/-- Same loops from two spellings: the second pool spells its token in one
way. -/
theorem eq_of_sameLoop (hcase : toAsciiLowercase s = toAsciiLowercase s')
    (hdistinct : pools.Pairwise fun p q => p.address ≠ q.address) {opp opp' : Opportunity}
    (h : opp ∈ pairLoops blockContext s amountIn triggerTxHash pools)
    (h' : opp' ∈ pairLoops blockContext s' amountIn triggerTxHash pools)
    (hsame : SameLoop opp opp') : s = s' := by
  obtain ⟨first, hfirst, second, hsecond, hopp⟩ := mem_pairLoops.mp h
  obtain ⟨first', hfirst', second', hsecond', hopp'⟩ := mem_pairLoops.mp h'
  obtain ⟨-, there, back, hgains, hclose, rfl⟩ := pairLoop_eq_some_iff.mp hopp
  obtain ⟨-, there', back', hgains', hclose', rfl⟩ := pairLoop_eq_some_iff.mp hopp'
  obtain ⟨-, -, -, hroute⟩ := hsame
  have haddress : first.address = first'.address ∧ second.address = second'.address := by
    simp only [loopOf, quoteLeg, List.map_cons, List.map_nil, List.cons.injEq, Prod.mk.injEq,
      Option.some.injEq] at hroute
    exact ⟨hroute.1.1, hroute.2.1.1⟩
  -- pools of one address are one pool
  have hnodup : (pools.map V2PoolState.address).Nodup := List.pairwise_map.mpr hdistinct
  obtain rfl := List.inj_on_of_nodup_map hnodup hfirst hfirst' haddress.1
  obtain rfl := List.inj_on_of_nodup_map hnodup hsecond hsecond' haddress.2
  have hback := (hgains.of_spelling hcase).back_eq hgains'
  rw [← hclose, ← hclose', hback]

/-- A loop in either list has a counterpart in the other, and then the two
spellings are one. -/
theorem pairLoops_eq_nil_of_same (hcase : toAsciiLowercase s = toAsciiLowercase s')
    (hdistinct : pools.Pairwise fun p q => p.address ≠ q.address) (hne : s ≠ s')
    (hsame : List.Forall₂ SameLoop
      (Ranking.ranked RankedBefore Opportunity.id
        (pairLoops blockContext s amountIn triggerTxHash pools))
      (Ranking.ranked RankedBefore Opportunity.id
        (pairLoops blockContext s' amountIn triggerTxHash pools))) :
    pairLoops blockContext s amountIn triggerTxHash pools = []
      ∧ pairLoops blockContext s' amountIn triggerTxHash pools = [] := by
  generalize hl : Ranking.ranked RankedBefore Opportunity.id
    (pairLoops blockContext s amountIn triggerTxHash pools) = l at hsame
  generalize hl' : Ranking.ranked RankedBefore Opportunity.id
    (pairLoops blockContext s' amountIn triggerTxHash pools) = l' at hsame
  cases hsame with
  | nil => exact ⟨Ranking.ranked_eq_nil_iff.mp hl, Ranking.ranked_eq_nil_iff.mp hl'⟩
  | @cons opp opp' _ _ hhead _ =>
      have hmem : opp ∈ pairLoops blockContext s amountIn triggerTxHash pools :=
        Ranking.mem_of_mem_ranked (hl ▸ List.mem_cons_self)
      have hmem' : opp' ∈ pairLoops blockContext s' amountIn triggerTxHash pools :=
        Ranking.mem_of_mem_ranked (hl' ▸ List.mem_cons_self)
      exact absurd (eq_of_sameLoop hcase hdistinct hmem hmem' hhead) hne

/-- No loop closes in `s` exactly when no gain is paid in `s`, asked for in
whatever spelling. -/
theorem pairLoops_eq_nil_iff (hcase : toAsciiLowercase s = toAsciiLowercase s') :
    pairLoops blockContext s' amountIn triggerTxHash pools = []
      ↔ ∀ first ∈ pools, ∀ second ∈ pools,
          eqIgnoreAsciiCase first.address second.address = false →
          ∀ there back,
            Gains ⟨blockContext, s, amountIn, first, second, triggerTxHash⟩ there back →
            back.tokenOut ≠ s' := by
  rw [List.eq_nil_iff_forall_not_mem]
  constructor
  · intro hnone first hfirst second hsecond haddress there back hgains hclose
    have hloop := pairLoop_eq_some_iff.mpr
      ⟨haddress, _, _, hgains.of_spelling hcase, hclose, rfl⟩
    exact hnone _ (mem_pairLoops.mpr ⟨first, hfirst, second, hsecond, hloop⟩)
  · intro hnone opp hopp
    obtain ⟨first, hfirst, second, hsecond, hopp⟩ := mem_pairLoops.mp hopp
    obtain ⟨haddress, there, back, hgains, hclose, -⟩ := pairLoop_eq_some_iff.mp hopp
    exact hnone first hfirst second hsecond haddress _ back (hgains.of_spelling hcase.symm) hclose

/-- Nothing is found in a spelling that no pool uses. -/
theorem detectTwoLegLoopsFromBook_eq_nil (h : ∀ pool ∈ pools, pool.token0 ≠ s ∧ pool.token1 ≠ s) :
    detectTwoLegLoopsFromBook pools blockContext s amountIn triggerTxHash = [] := by
  rw [detectTwoLegLoopsFromBook_eq, Ranking.ranked_eq_nil_iff, pairLoops_eq_nil_iff rfl]
  intro first _ second hsecond _ there back hgains
  obtain ⟨h0, h1⟩ := h second hsecond
  obtain ⟨impact, -, rfl⟩ := V2PoolState.quoteExactIn_ok hgains.back
  rw [V2PoolState.quoteOf_tokenOut, V2PoolState.tokenOut]
  split
  · exact h1
  · exact h0

/-- **When two spellings find the same.** For two spellings of a settlement
token the scan of a book finds the same loops exactly when they are one
string, or no two pools of different addresses gain and pay out in a token
spelled in one of the two ways. -/
theorem sameLoops_iff {u256FromDecimal : String → Option Nat} {book : PoolBook}
    (hbook : book.Reachable u256FromDecimal) (hlists : book.Lists pools)
    (hcase : eqIgnoreAsciiCase s s' = true) :
    List.Forall₂ SameLoop
        (detectTwoLegLoopsFromBook pools blockContext s amountIn triggerTxHash)
        (detectTwoLegLoopsFromBook pools blockContext s' amountIn triggerTxHash)
      ↔ s = s' ∨ ∀ first ∈ pools, ∀ second ∈ pools,
          eqIgnoreAsciiCase first.address second.address = false →
          ∀ there back,
            Gains ⟨blockContext, s, amountIn, first, second, triggerTxHash⟩ there back →
            back.tokenOut ≠ s ∧ back.tokenOut ≠ s' := by
  rw [eqIgnoreAsciiCase_iff] at hcase
  rw [detectTwoLegLoopsFromBook_eq, detectTwoLegLoopsFromBook_eq]
  constructor
  · intro hsame
    by_cases hne : s = s'
    · exact .inl hne
    · obtain ⟨hnil, hnil'⟩ :=
        pairLoops_eq_nil_of_same hcase (hlists.pairwise_address hbook.keyed) hne hsame
      refine .inr fun first hfirst second hsecond haddress there back hgains => ⟨?_, ?_⟩
      · exact (pairLoops_eq_nil_iff rfl).mp hnil first hfirst second hsecond haddress _ _ hgains
      · exact (pairLoops_eq_nil_iff hcase).mp hnil' first hfirst second hsecond haddress _ _ hgains
  · rintro (rfl | hnone)
    · exact List.forall₂_same.mpr fun opp _ => ⟨rfl, rfl, rfl, rfl⟩
    · have hnil : pairLoops blockContext s amountIn triggerTxHash pools = [] :=
        (pairLoops_eq_nil_iff rfl).mpr fun first hfirst second hsecond haddress _ _ hgains =>
          (hnone first hfirst second hsecond haddress _ _ hgains).1
      have hnil' : pairLoops blockContext s' amountIn triggerTxHash pools = [] :=
        (pairLoops_eq_nil_iff hcase).mpr fun first hfirst second hsecond haddress _ _ hgains =>
          (hnone first hfirst second hsecond haddress _ _ hgains).2
      rw [hnil, hnil', Ranking.ranked_eq_nil_iff.mpr rfl]
      exact .nil

end Spelling

/-- USDC as the discovery writes addresses, and with its checksum. -/
def usdc : Address := "0x833589fcd6edb6e08f4c7c32d4f71b54bda02913"

def usdcChecksummed : Address := "0x833589fCD6eDb6E08f4c7C32D4f71b54bdA02913"

theorem usdc_eqIgnoreAsciiCase : eqIgnoreAsciiCase usdc usdcChecksummed = true :=
  eqIgnoreAsciiCase_of_toList (by decide +kernel)

/-- The two pools of the unit tests, against USDC. -/
def usdcPools : List V2PoolState :=
  [{ profitableLoop.firstPool with address := "0xpool1", token0 := "0xweth", token1 := usdc },
    { profitableLoop.secondPool with address := "0xpool2", token0 := usdc, token1 := "0xweth" }]

def usdcBook : PoolBook := usdcPools.foldl PoolBook.insertV2Pool PoolBook.new

theorem usdcBook_reachable : usdcBook.Reachable fun _ => none :=
  ⟨usdcPools.map BookOp.insertV2Pool, rfl⟩

theorem usdcBook_lists : usdcBook.Lists usdcPools := by
  decide +kernel

/-- The loop in USDC is found in the spelling of the pools and lost with the
checksum. -/
theorem usdcBook_checksummed :
    usdcBook.Reachable (fun _ => none) ∧ usdcBook.Lists usdcPools
      ∧ eqIgnoreAsciiCase usdc usdcChecksummed = true
      ∧ detectTwoLegLoopsFromBook usdcPools .pending usdc 1000000 none ≠ []
      ∧ detectTwoLegLoopsFromBook usdcPools .pending usdcChecksummed 1000000 none = [] := by
  refine ⟨usdcBook_reachable, usdcBook_lists, usdc_eqIgnoreAsciiCase, ?_, ?_⟩
  · rw [detectTwoLegLoopsFromBook_eq, ne_eq, Ranking.ranked_eq_nil_iff]
    -- the second pool sells the other token cheaper than the first one buys it
    obtain ⟨opp, hopp⟩ := Option.isSome_iff_exists.mp
      (by decide : (pairLoop .pending usdc 1000000 none
        { profitableLoop.secondPool with address := "0xpool2", token0 := usdc, token1 := "0xweth" }
        { profitableLoop.firstPool with
          address := "0xpool1", token0 := "0xweth", token1 := usdc }).isSome = true)
    have hmem : opp ∈ pairLoops .pending usdc 1000000 none usdcPools :=
      mem_pairLoops.mpr ⟨_, .tail _ (.head _), _, .head _, hopp⟩
    exact List.ne_nil_of_mem hmem
  · exact detectTwoLegLoopsFromBook_eq_nil (by decide)

theorem usdcBook_sameLoops_iff :
    eqIgnoreAsciiCase usdc usdcChecksummed = true
      ∧ (List.Forall₂ SameLoop
          (detectTwoLegLoopsFromBook usdcPools .pending usdc 1000000 none)
          (detectTwoLegLoopsFromBook usdcPools .pending usdcChecksummed 1000000 none)
        ↔ usdc = usdcChecksummed ∨ ∀ first ∈ usdcPools, ∀ second ∈ usdcPools,
            eqIgnoreAsciiCase first.address second.address = false →
            ∀ there back, Gains ⟨.pending, usdc, 1000000, first, second, none⟩ there back →
              back.tokenOut ≠ usdc ∧ back.tokenOut ≠ usdcChecksummed) :=
  ⟨usdc_eqIgnoreAsciiCase,
    sameLoops_iff usdcBook_reachable usdcBook_lists usdc_eqIgnoreAsciiCase⟩

end BaseEngine
