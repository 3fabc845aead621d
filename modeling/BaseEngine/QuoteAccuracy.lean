import BaseEngine.BookInvariant
import BaseEngine.SwapReorg

/-!
# How good a quote is

An accepted quote of a V3 pool is one step inside a price range, and the
library says how its roundings add up. Against the reference step, which
divides once, it under-quotes when the price falls and agrees when it rises
(`quoteExactIn_le_reference`). It grows with its input (`quoteExactIn_mono`,
together with the V2 pools), and going to the other token and back never
gains (`quoteExactIn_back_le`).

What the words allow is another matter: `quoteExactIn_ok_iff_fits` says on
which of the steps the reference can do the quote returns at all.
-/

namespace BaseEngine

open Fallible Machine RangeSwap Text

namespace V3PoolState

variable {pool : V3PoolState} {tokenIn : String} {amountIn a b next : Nat} {quote : PoolQuote}
  {zeroForOne : Bool}

/-! ## The state -/

theorem liquidity_pos_of_validate (h : pool.validate = .ok ()) : 0 < pool.liquidity := by
  unfold validate at h
  split_ifs at h with htokens hfee hspacing hprice hliquidity
  exact Nat.pos_of_ne_zero hliquidity

theorem sqrtPrice_pos_of_validate (h : pool.validate = .ok ()) : 0 < pool.sqrtPriceX96 := by
  obtain ⟨-, -, -, hprice, -⟩ := validate_ok h
  exact lt_of_lt_of_le (by decide) hprice

theorem sqrtPrice_le_of_validate (h : pool.validate = .ok ()) :
    pool.sqrtPriceX96 ≤ maxSqrtPrice := by
  obtain ⟨-, -, -, -, hprice⟩ := validate_ok h
  exact hprice

theorem lessFee_mono (pool : V3PoolState) (hab : a ≤ b) : pool.lessFee a ≤ pool.lessFee b := by
  unfold lessFee
  gcongr

theorem lessFee_le (pool : V3PoolState) (amountIn : Nat) : pool.lessFee amountIn ≤ amountIn := by
  refine Nat.div_le_of_le_mul ?_
  rw [Nat.mul_comm feePipsDenominator]
  exact Nat.mul_le_mul_left _ (Nat.sub_le ..)

theorem lessFee_lt (hfee : amountIn * (feePipsDenominator - pool.feePips) < 2 ^ 128) :
    pool.lessFee amountIn < 2 ^ 128 :=
  lt_of_le_of_lt (Nat.div_le_self ..) hfee

/-! ## The move of the price -/

theorem nextPrice_true_le (hS : 0 < pool.sqrtPriceX96) (ha : 0 < a) :
    pool.nextPrice true a ≤ pool.sqrtPriceX96 := by
  rw [nextPrice_true]
  exact fall_le hS ha

theorem le_nextPrice_false (pool : V3PoolState) (a : Nat) :
    pool.sqrtPriceX96 ≤ pool.nextPrice false a := by
  rw [nextPrice_false]
  exact le_rise ..

/-- How far the price goes in the direction of the swap. -/
def priceMove (pool : V3PoolState) (zeroForOne : Bool) (next : Nat) : Nat :=
  if zeroForOne then pool.sqrtPriceX96 - next else next - pool.sqrtPriceX96

theorem priceMove_nextPrice_false (pool : V3PoolState) (a : Nat) :
    pool.priceMove false (pool.nextPrice false a) = a * q96 / pool.liquidity := by
  rw [priceMove, if_neg Bool.false_ne_true, nextPrice_false, rise, Nat.add_sub_cancel_left]

theorem priceMove_mono (pool : V3PoolState) (zeroForOne : Bool) (ha : 0 < a) (hab : a ≤ b) :
    pool.priceMove zeroForOne (pool.nextPrice zeroForOne a)
      ≤ pool.priceMove zeroForOne (pool.nextPrice zeroForOne b) := by
  cases zeroForOne with
  | true =>
      simp only [priceMove, if_true, nextPrice_true]
      exact Nat.sub_le_sub_left (fall_anti ha hab) _
  | false =>
      rw [priceMove_nextPrice_false, priceMove_nextPrice_false]
      gcongr

theorem outAt_mono (hS : 0 < pool.sqrtPriceX96) (ha : 0 < a) (hab : a ≤ b) :
    pool.outAt zeroForOne (pool.nextPrice zeroForOne a)
      ≤ pool.outAt zeroForOne (pool.nextPrice zeroForOne b) := by
  cases zeroForOne with
  | true =>
      simp only [outAt_true, nextPrice_true]
      exact outFall_anti (fall_anti ha hab)
  | false =>
      simp only [outAt_false, nextPrice_false]
      exact outRise_mono hS (le_rise ..) (rise_mono hab)

theorem priceMove_lt (hS : pool.sqrtPriceX96 ≤ maxSqrtPrice) (ha : a < 2 ^ 128) :
    pool.priceMove zeroForOne (pool.nextPrice zeroForOne a) * 20000 < 2 ^ 256 := by
  cases zeroForOne with
  | true =>
      have hle : pool.priceMove true (pool.nextPrice true a) ≤ pool.sqrtPriceX96 := by
        rw [priceMove, if_pos rfl]
        exact Nat.sub_le ..
      unfold maxSqrtPrice at hS
      omega
  | false =>
      rw [priceMove_nextPrice_false]
      have hle : a * q96 / pool.liquidity ≤ a * q96 := Nat.div_le_self ..
      unfold q96 at hle ⊢
      omega

/-- The impact is the move relative to the price, capped at a word. -/
theorem priceImpactBps_eq (hfit : pool.priceMove zeroForOne next * 20000 < 2 ^ 256) :
    priceImpactBps pool.sqrtPriceX96 next zeroForOne
      = min (pool.priceMove zeroForOne next * 20000 / pool.sqrtPriceX96) u32Max := by
  have himpact : ∀ {num : Nat}, num * 20000 < 2 ^ 256 →
      impactOf num pool.sqrtPriceX96 = min (num * 20000 / pool.sqrtPriceX96) u32Max := by
    intro num hnum
    unfold impactOf u32Max
    dsimp only
    rw [Nat.mod_eq_of_lt hnum]
    generalize num * 20000 / pool.sqrtPriceX96 = bps
    by_cases hlarge : 2 ^ 32 - 1 < bps
    · rw [if_pos hlarge, Nat.min_eq_right hlarge.le]
    · have hle : bps ≤ 2 ^ 32 - 1 := Nat.le_of_not_lt hlarge
      rw [if_neg hlarge, Nat.min_eq_left hle, Nat.mod_eq_of_lt (by omega),
        Nat.mod_eq_of_lt (by omega)]
  cases zeroForOne with
  | true =>
      rw [priceMove, if_pos rfl] at hfit ⊢
      rw [priceImpactBps, if_pos rfl]
      by_cases hle : pool.sqrtPriceX96 ≤ next
      · rw [if_pos hle, Nat.sub_eq_zero_of_le hle]
        simp
      · rw [if_neg hle, himpact hfit]
  | false =>
      rw [priceMove, if_neg Bool.false_ne_true] at hfit ⊢
      rw [priceImpactBps, if_neg Bool.false_ne_true]
      by_cases hle : next ≤ pool.sqrtPriceX96
      · rw [if_pos hle, Nat.sub_eq_zero_of_le hle]
        simp
      · rw [if_neg hle, himpact hfit]

theorem InRangeStep.impact_eq (hvalid : pool.validate = .ok ())
    (h : pool.InRangeStep tokenIn amountIn zeroForOne) :
    (pool.quoteOf tokenIn amountIn zeroForOne).priceImpactBps
      = min (pool.priceMove zeroForOne (pool.nextPrice zeroForOne (pool.lessFee amountIn)) * 20000
          / pool.sqrtPriceX96) u32Max :=
  priceImpactBps_eq (priceMove_lt (sqrtPrice_le_of_validate hvalid) (lessFee_lt h.feeFits))

/-! ## Against the reference -/

/-- The in-range swap step of the protocol in unbounded integers. -/
def referenceOut (pool : V3PoolState) (zeroForOne : Bool) (amountIn : Nat) : Nat :=
  let liquidity := pool.liquidity
  let price := pool.sqrtPriceX96
  let amount := amountIn * (1000000 - pool.feePips) / 1000000
  if zeroForOne then
    let next := liquidity * q96 * price ⌈/⌉ (liquidity * q96 + amount * price)
    liquidity * (price - next) / q96
  else
    let next := price + amount * q96 / liquidity
    liquidity * q96 * (next - price) / next / price

theorem referenceOut_true (pool : V3PoolState) (amountIn : Nat) :
    pool.referenceOut true amountIn
      = outFall q96 pool.liquidity pool.sqrtPriceX96
          (fallRef q96 pool.liquidity pool.sqrtPriceX96 (pool.lessFee amountIn)) := by
  simp only [referenceOut, if_true, outFall, fallRef, lessFee, feePipsDenominator]

theorem referenceOut_false (pool : V3PoolState) (amountIn : Nat) :
    pool.referenceOut false amountIn
      = outRise q96 pool.liquidity pool.sqrtPriceX96
          (rise q96 pool.liquidity pool.sqrtPriceX96 (pool.lessFee amountIn)) := by
  simp only [referenceOut, Bool.false_eq_true, if_false, outRise_eq_div_div, rise, lessFee,
    feePipsDenominator]

/-- **Never over-quoted.** A quote pays at most what the reference step
pays, and exactly that when the second token goes in. -/
theorem quoteExactIn_le_reference (hvalid : pool.validate = .ok ())
    (h : pool.quoteExactIn tokenIn amountIn = .ok quote) :
    ∃ zeroForOne, pool.zeroForOne tokenIn = some zeroForOne
      ∧ quote.amountOut ≤ pool.referenceOut zeroForOne amountIn
      ∧ (zeroForOne = false → quote.amountOut = pool.referenceOut zeroForOne amountIn) := by
  obtain ⟨zeroForOne, hstep, rfl⟩ := quoteExactIn_ok h
  refine ⟨zeroForOne, hstep.direction, ?_⟩
  have hS := sqrtPrice_pos_of_validate hvalid
  cases zeroForOne with
  | true =>
      simp only [quoteOf, outAt_true, nextPrice_true, referenceOut_true]
      exact ⟨outFall_anti (fallRef_le_fall hS hstep.charged), fun hfalse => by cases hfalse⟩
  | false =>
      simp only [quoteOf, outAt_false, nextPrice_false, referenceOut_false]
      exact ⟨le_rfl, fun _ => trivial⟩

theorem samplePool_le_reference :
    SwapReplay.samplePool.validate = .ok ()
      ∧ SwapReplay.samplePool.quoteExactIn "0xtoken0" 1000000000000000
        = .ok (SwapReplay.samplePool.quoteOf "0xtoken0" 1000000000000000 true)
      ∧ ∃ zeroForOne, SwapReplay.samplePool.zeroForOne "0xtoken0" = some zeroForOne
        ∧ (SwapReplay.samplePool.quoteOf "0xtoken0" 1000000000000000 true).amountOut
          ≤ SwapReplay.samplePool.referenceOut zeroForOne 1000000000000000
        ∧ (zeroForOne = false →
          (SwapReplay.samplePool.quoteOf "0xtoken0" 1000000000000000 true).amountOut
            = SwapReplay.samplePool.referenceOut zeroForOne 1000000000000000) := by
  have hvalid : SwapReplay.samplePool.validate = .ok () := by decide
  have hquote : SwapReplay.samplePool.quoteExactIn "0xtoken0" 1000000000000000
      = .ok (SwapReplay.samplePool.quoteOf "0xtoken0" 1000000000000000 true) := by
    decide
  exact ⟨hvalid, hquote, quoteExactIn_le_reference hvalid hquote⟩

/-! ## What the words allow -/

/-- Without an input the step either moves the price by all of it or pays
nothing. -/
theorem lessFee_pos_of_out (hS : 0 < pool.sqrtPriceX96)
    (himpact : 20000 * ((pool.nextPrice zeroForOne a : Int) - pool.sqrtPriceX96).natAbs
      / pool.sqrtPriceX96 ≤ 500)
    (hout : 1 ≤ pool.outAt zeroForOne (pool.nextPrice zeroForOne a)) : 0 < a := by
  rcases Nat.eq_zero_or_pos a with rfl | hpos
  · exfalso
    cases zeroForOne with
    | false =>
        rw [nextPrice_false, outAt_false, rise, outRise, Nat.zero_mul, Nat.zero_div, Nat.add_zero,
          Nat.sub_self, Nat.mul_zero, Nat.zero_mul, Nat.zero_div] at hout
        exact absurd hout (by decide)
    | true =>
        rw [nextPrice_true] at himpact hout
        rw [outAt_true] at hout
        unfold fall at himpact hout
        rw [Nat.add_zero] at himpact hout
        rcases Nat.eq_zero_or_pos (pool.liquidity * q96 / pool.sqrtPriceX96) with hzero | hdivisor
        · rw [hzero, ceilDiv_zero, Nat.cast_zero, zero_sub, Int.natAbs_neg, Int.natAbs_natCast,
            Nat.mul_div_cancel _ hS] at himpact
          exact absurd himpact (by decide)
        · -- the divisor is rounded down, so that the price does not fall
          have hle : pool.sqrtPriceX96 ≤ pool.liquidity * q96
              ⌈/⌉ (pool.liquidity * q96 / pool.sqrtPriceX96) := by
            refine Nat.le_of_mul_le_mul_left ?_ hdivisor
            exact (Nat.div_mul_le_self ..).trans (Rounding.le_mul_ceilDiv hdivisor)
          rw [outFall, Nat.sub_eq_zero_of_le hle, Nat.mul_zero, Nat.zero_div] at hout
          exact absurd hout (by decide)
  · exact hpos

theorem priceMove_eq_natAbs (hS : 0 < pool.sqrtPriceX96) (ha : 0 < a) :
    pool.priceMove zeroForOne (pool.nextPrice zeroForOne a)
      = ((pool.nextPrice zeroForOne a : Int) - pool.sqrtPriceX96).natAbs := by
  cases zeroForOne with
  | true =>
      have hle := nextPrice_true_le hS ha
      rw [priceMove, if_pos rfl]
      omega
  | false =>
      have hle := pool.le_nextPrice_false a
      rw [priceMove, if_neg Bool.false_ne_true]
      omega

theorem priceFits_of_lt (hS : pool.sqrtPriceX96 ≤ maxSqrtPrice) (hL : pool.liquidity < 2 ^ 128)
    (hpos : 0 < a) (ha : a < 2 ^ 128) : pool.PriceFits zeroForOne a := by
  have hnumerator : pool.liquidity * q96 < 2 ^ 224 := by
    unfold q96
    omega
  refine ⟨by omega, ?_⟩
  cases zeroForOne with
  | true =>
      have hle : pool.liquidity * q96 / pool.sqrtPriceX96 ≤ pool.liquidity * q96 :=
        Nat.div_le_self ..
      rw [if_pos rfl]
      exact ⟨Nat.add_pos_right _ hpos, by omega⟩
  | false =>
      have hscaled : a * q96 < 2 ^ 224 := by
        unfold q96
        omega
      have hle : a * q96 / pool.liquidity ≤ a * q96 := Nat.div_le_self ..
      rw [if_neg Bool.false_ne_true, nextPrice_false, rise]
      unfold maxSqrtPrice at hS
      exact ⟨by omega, by omega⟩

theorem outFits_of_paid (hS : 0 < pool.sqrtPriceX96) (ha : 0 < a)
    (hpaid : 1 ≤ pool.outAt zeroForOne (pool.nextPrice zeroForOne a))
    (hword : pool.outAt zeroForOne (pool.nextPrice zeroForOne a) < 2 ^ 128)
    (hfits : zeroForOne = false → pool.liquidity * (a * q96 / pool.liquidity) < 2 ^ 160) :
    pool.OutFits zeroForOne (pool.nextPrice zeroForOne a) := by
  unfold OutFits
  cases zeroForOne with
  | true =>
      rw [if_pos rfl]
      rw [outAt_true, outFall, Nat.div_lt_iff_lt_mul (by decide)] at hword
      refine ⟨nextPrice_true_le hS ha, hword.trans ?_⟩
      decide
  | false =>
      have hmove := priceMove_nextPrice_false pool a
      rw [priceMove, if_neg Bool.false_ne_true] at hmove
      have hnumerator : pool.liquidity * (pool.nextPrice false a - pool.sqrtPriceX96) * q96
          < 2 ^ 256 := by
        rw [hmove]
        have := hfits rfl
        generalize pool.liquidity * (a * q96 / pool.liquidity) = scaled at this ⊢
        unfold q96
        omega
      rw [if_neg Bool.false_ne_true]
      rw [outAt_false, outRise] at hpaid
      refine ⟨pool.le_nextPrice_false a, hnumerator, lt_of_le_of_lt ?_ hnumerator⟩
      -- a positive output means that the numerator holds the denominator
      exact (Nat.div_pos_iff.mp hpaid).2

/-- **Where quotes cover the step.** On a step in unbounded integers with an
impact under the cap and an output that is a positive word, the quote
returns exactly when the input times its fee factor is a `u128` and, for the
second token in, the liquidity times the move of the price stays below
`2 ^ 160`: the output formula scales that product by `2 ^ 96` once more. -/
theorem quoteExactIn_ok_iff_fits (hvalid : pool.validate = .ok ())
    (hL : pool.liquidity < 2 ^ 128) (hdirection : pool.zeroForOne tokenIn = some zeroForOne)
    (himpact : 20000 * ((pool.nextPrice zeroForOne (pool.lessFee amountIn) : Int)
      - pool.sqrtPriceX96).natAbs / pool.sqrtPriceX96 ≤ 500)
    (hpaid : 1 ≤ pool.outAt zeroForOne (pool.nextPrice zeroForOne (pool.lessFee amountIn)))
    (hword : pool.outAt zeroForOne (pool.nextPrice zeroForOne (pool.lessFee amountIn))
      < 2 ^ 128) :
    (∃ quote, pool.quoteExactIn tokenIn amountIn = .ok quote)
      ↔ amountIn * (feePipsDenominator - pool.feePips) < 2 ^ 128
        ∧ (zeroForOne = false →
            pool.liquidity * (pool.lessFee amountIn * q96 / pool.liquidity) < 2 ^ 160) := by
  have hS := sqrtPrice_pos_of_validate hvalid
  have hpos := lessFee_pos_of_out hS himpact hpaid
  constructor
  · rintro ⟨quote, hquote⟩
    obtain ⟨hstep, -⟩ := (quoteExactIn_eq_ok_iff hdirection).mp hquote
    refine ⟨hstep.feeFits, ?_⟩
    rintro rfl
    have hmove := priceMove_nextPrice_false pool (pool.lessFee amountIn)
    obtain ⟨-, hnumerator, -⟩ : _ ∧ _ ∧ _ := hstep.outFits
    rw [priceMove, if_neg Bool.false_ne_true] at hmove
    rw [hmove] at hnumerator
    generalize pool.liquidity * (pool.lessFee amountIn * q96 / pool.liquidity) = scaled
      at hnumerator ⊢
    unfold q96 at hnumerator
    omega
  · rintro ⟨hfee, hfits⟩
    have hprice := sqrtPrice_le_of_validate hvalid
    have hcapped : priceImpactBps pool.sqrtPriceX96
        (pool.nextPrice zeroForOne (pool.lessFee amountIn)) zeroForOne ≤ maxInRangeImpactBps := by
      rw [priceImpactBps_eq (priceMove_lt hprice (lessFee_lt hfee)), priceMove_eq_natAbs hS hpos,
        Nat.mul_comm]
      exact (Nat.min_le_left ..).trans himpact
    have hstep : pool.InRangeStep tokenIn amountIn zeroForOne :=
      { direction := hdirection
        liquid := liquidity_pos_of_validate hvalid
        feeFits := hfee
        charged := hpos
        priceFits := priceFits_of_lt hprice hL hpos (lessFee_lt hfee)
        capped := hcapped
        outFits := outFits_of_paid hS hpos hpaid hword hfits
        paid := hpaid
        word := hword }
    exact ⟨_, hstep.quoteExactIn_eq⟩

/-- A pool of two tokens with 18 decimals, at a million of the second for one
of the first. -/
def degenPool : V3PoolState :=
  { address := "0xc9034c3e7f58003e6ae0c8438e7c8f4598d5acaa", protocol := .uniswapV3,
    exchange := none, token0 := "0x4200000000000000000000000000000000000006",
    token1 := "0x4ed4e862860bed51a9570b96d89af5e1b0efefed", feePips := 3000, tickSpacing := 60,
    sqrtPriceX96 := 1000 * 2 ^ 96, liquidity := 10 ^ 24, tick := 138162, lastUpdatedBlock := none }

/-- Ten thousand of the second token would pay about a hundredth of the
first, with no measurable impact; the quote overflows. -/
theorem degenPool_overflows :
    degenPool.validate = .ok () ∧ degenPool.liquidity < 2 ^ 128
      ∧ degenPool.zeroForOne "0x4ed4e862860bed51a9570b96d89af5e1b0efefed" = some false
      ∧ 20000 * ((degenPool.nextPrice false (degenPool.lessFee (10 ^ 22)) : Int)
        - degenPool.sqrtPriceX96).natAbs / degenPool.sqrtPriceX96 ≤ 500
      ∧ degenPool.outAt false (degenPool.nextPrice false (degenPool.lessFee (10 ^ 22)))
        = 9969900600091017
      ∧ degenPool.quoteExactIn "0x4ed4e862860bed51a9570b96d89af5e1b0efefed" (10 ^ 22)
        = .error .arithmeticOverflow := by
  decide

/-- Ten of the second token still fit. -/
theorem degenPool_fits :
    degenPool.validate = .ok () ∧ degenPool.liquidity < 2 ^ 128
      ∧ degenPool.zeroForOne "0x4ed4e862860bed51a9570b96d89af5e1b0efefed" = some false
      ∧ ((∃ quote, degenPool.quoteExactIn "0x4ed4e862860bed51a9570b96d89af5e1b0efefed" (10 ^ 19)
          = .ok quote)
        ↔ 10 ^ 19 * (feePipsDenominator - degenPool.feePips) < 2 ^ 128
          ∧ (false = false → degenPool.liquidity
            * (degenPool.lessFee (10 ^ 19) * q96 / degenPool.liquidity) < 2 ^ 160)) := by
  have hvalid : degenPool.validate = .ok () := by decide
  have hL : degenPool.liquidity < 2 ^ 128 := by decide
  have hdirection : degenPool.zeroForOne "0x4ed4e862860bed51a9570b96d89af5e1b0efefed"
      = some false := by decide
  exact ⟨hvalid, hL, hdirection, quoteExactIn_ok_iff_fits hvalid hL hdirection
    (by decide) (by decide) (by decide)⟩

end V3PoolState

/-! ## Monotone quotes -/

def PoolState.Valid : PoolState → Prop
  | .v2 pool => pool.validate = .ok ()
  | .v3 pool => pool.validate = .ok ()

theorem V2PoolState.exactOut_mono {pool : V2PoolState} (hvalid : pool.validate = .ok ())
    (tokenIn : String) {a b : Nat} (hab : a ≤ b) :
    pool.exactOut tokenIn a ≤ pool.exactOut tokenIn b := by
  have hreserve := reserveIn_pos hvalid tokenIn
  exact ConstantProduct.out_mono (Nat.mul_pos hreserve (by decide)) hab

theorem V3PoolState.quoteOf_mono {pool : V3PoolState} (hvalid : pool.validate = .ok ())
    {tokenIn : String} {a b : Nat} {zeroForOne : Bool} (hab : a ≤ b)
    (ha : pool.InRangeStep tokenIn a zeroForOne) (hb : pool.InRangeStep tokenIn b zeroForOne) :
    (pool.quoteOf tokenIn a zeroForOne).amountOut ≤ (pool.quoteOf tokenIn b zeroForOne).amountOut
      ∧ (pool.quoteOf tokenIn a zeroForOne).priceImpactBps
        ≤ (pool.quoteOf tokenIn b zeroForOne).priceImpactBps := by
  have hless := pool.lessFee_mono hab
  refine ⟨outAt_mono (sqrtPrice_pos_of_validate hvalid) ha.charged hless, ?_⟩
  have hmove := pool.priceMove_mono zeroForOne ha.charged hless
  rw [ha.impact_eq hvalid, hb.impact_eq hvalid]
  gcongr

/-- **Monotone quotes.** A larger input pays no less, from either kind of
pool, and moves the price of a V3 pool no less. -/
theorem PoolState.quoteExactIn_mono {entry : PoolState} (hvalid : entry.Valid) {tokenIn : String}
    {a b : Nat} (hab : a ≤ b) {quoteA quoteB : PoolQuote}
    (ha : entry.quoteExactIn tokenIn a = .ok quoteA)
    (hb : entry.quoteExactIn tokenIn b = .ok quoteB) :
    quoteA.amountOut ≤ quoteB.amountOut
      ∧ ∀ pool, entry = .v3 pool → quoteA.priceImpactBps ≤ quoteB.priceImpactBps := by
  cases entry with
  | v2 pool =>
      obtain ⟨impactA, -, rfl⟩ := V2PoolState.quoteExactIn_ok ha
      obtain ⟨impactB, -, rfl⟩ := V2PoolState.quoteExactIn_ok hb
      exact ⟨V2PoolState.exactOut_mono hvalid tokenIn hab, fun v3 h => by cases h⟩
  | v3 pool =>
      obtain ⟨zeroForOne, hA, rfl⟩ := V3PoolState.quoteExactIn_ok ha
      obtain ⟨hB, rfl⟩ := (V3PoolState.quoteExactIn_eq_ok_iff hA.direction).mp hb
      obtain ⟨hout, himpact⟩ := V3PoolState.quoteOf_mono hvalid hab hA hB
      exact ⟨hout, fun _ _ => himpact⟩

theorem samplePool_quotes_mono :
    (PoolState.v3 SwapReplay.samplePool).Valid
      ∧ (SwapReplay.samplePool.quoteOf "0xtoken1" 1000000000000000 false).amountOut
        ≤ (SwapReplay.samplePool.quoteOf "0xtoken1" 3000000000000000 false).amountOut
      ∧ ∀ pool, PoolState.v3 SwapReplay.samplePool = .v3 pool →
          (SwapReplay.samplePool.quoteOf "0xtoken1" 1000000000000000 false).priceImpactBps
            ≤ (SwapReplay.samplePool.quoteOf "0xtoken1" 3000000000000000 false).priceImpactBps := by
  have hvalid : (PoolState.v3 SwapReplay.samplePool).Valid := by
    unfold PoolState.Valid
    decide
  have hsmall : (PoolState.v3 SwapReplay.samplePool).quoteExactIn "0xtoken1" 1000000000000000
      = .ok (SwapReplay.samplePool.quoteOf "0xtoken1" 1000000000000000 false) := by
    decide
  have hlarge : (PoolState.v3 SwapReplay.samplePool).quoteExactIn "0xtoken1" 3000000000000000
      = .ok (SwapReplay.samplePool.quoteOf "0xtoken1" 3000000000000000 false) := by
    decide
  exact ⟨hvalid, PoolState.quoteExactIn_mono hvalid (by decide) hsmall hlarge⟩

/-! ## There and back -/

namespace V3PoolState

variable {pool : V3PoolState} {x y other : String} {a : Nat} {zeroForOne : Bool}

/-- The other token is quoted the other way, provided the two tokens are not
spelled alike up to case. -/
theorem zeroForOne_other (htokens : eqIgnoreAsciiCase pool.token0 pool.token1 = false)
    (hx : pool.zeroForOne x = some zeroForOne) (hother : pool.otherToken x = some other)
    (hy : eqIgnoreAsciiCase y other = true) : pool.zeroForOne y = some (!zeroForOne) := by
  have htokens' : toAsciiLowercase pool.token0 ≠ toAsciiLowercase pool.token1 := by
    intro heq
    rw [eqIgnoreAsciiCase_iff.mpr heq] at htokens
    cases htokens
  unfold V3PoolState.zeroForOne at hx ⊢
  unfold otherToken at hother
  rw [eqIgnoreAsciiCase_comm pool.token0 x, eqIgnoreAsciiCase_comm pool.token1 x] at hother
  rw [eqIgnoreAsciiCase_iff] at hy
  simp only [eqIgnoreAsciiCase_iff] at hx hother ⊢
  by_cases h0 : toAsciiLowercase x = toAsciiLowercase pool.token0
  · rw [if_pos h0, Option.some.injEq] at hx hother
    subst hx hother
    rw [hy, if_neg htokens'.symm, if_pos rfl]
    rfl
  · rw [if_neg h0] at hx hother
    by_cases h1 : toAsciiLowercase x = toAsciiLowercase pool.token1
    · rw [if_pos h1, Option.some.injEq] at hx hother
      subst hx hother
      rw [hy, if_pos rfl]
      rfl
    · rw [if_neg h1] at hx
      cases hx

/-- **No gain inside one pool.** Quoting what a quote pays back into the
same state returns at most the input, when the two tokens differ up to
case. -/
theorem quoteExactIn_back_le (hvalid : pool.validate = .ok ())
    (htokens : eqIgnoreAsciiCase pool.token0 pool.token1 = false)
    (hother : pool.otherToken x = some other) (hy : eqIgnoreAsciiCase y other = true)
    {there back : PoolQuote} (hthere : pool.quoteExactIn x a = .ok there)
    (hback : pool.quoteExactIn y there.amountOut = .ok back) : back.amountOut ≤ a := by
  have hS := sqrtPrice_pos_of_validate hvalid
  obtain ⟨zeroForOne, hstep, rfl⟩ := quoteExactIn_ok hthere
  have hdirection := zeroForOne_other htokens hstep.direction hother hy
  obtain ⟨hstep', rfl⟩ := (quoteExactIn_eq_ok_iff hdirection).mp hback
  have hcharged := hstep'.charged
  -- the fee of the way back only lowers what goes in
  have hless := pool.lessFee_le (pool.quoteOf x a zeroForOne).amountOut
  have hlessA := pool.lessFee_le a
  cases zeroForOne with
  | true =>
      simp only [quoteOf, Bool.not_true, outAt_true, outAt_false, nextPrice_true,
        nextPrice_false] at hless ⊢
      exact (outRise_outFall_le hS hstep.charged hless).trans hlessA
  | false =>
      simp only [quoteOf, Bool.not_false, outAt_true, outAt_false, nextPrice_true,
        nextPrice_false] at hless hcharged ⊢
      exact (outFall_outRise_le (by decide) hS hcharged hless).trans hlessA

theorem samplePool_back_le :
    SwapReplay.samplePool.validate = .ok ()
      ∧ SwapReplay.samplePool.otherToken "0xTOKEN0" = some "0xtoken1"
      ∧ (SwapReplay.samplePool.quoteOf "0xtoken1"
          (SwapReplay.samplePool.quoteOf "0xTOKEN0" 1000000000000000 true).amountOut
          false).amountOut ≤ 1000000000000000 := by
  have hvalid : SwapReplay.samplePool.validate = .ok () := by decide
  have hother : SwapReplay.samplePool.otherToken "0xTOKEN0" = some "0xtoken1" := by decide
  have hthere : SwapReplay.samplePool.quoteExactIn "0xTOKEN0" 1000000000000000
      = .ok (SwapReplay.samplePool.quoteOf "0xTOKEN0" 1000000000000000 true) := by
    decide
  have hback : SwapReplay.samplePool.quoteExactIn "0xtoken1"
      (SwapReplay.samplePool.quoteOf "0xTOKEN0" 1000000000000000 true).amountOut
      = .ok (SwapReplay.samplePool.quoteOf "0xtoken1"
          (SwapReplay.samplePool.quoteOf "0xTOKEN0" 1000000000000000 true).amountOut false) := by
    decide
  exact ⟨hvalid, hother,
    quoteExactIn_back_le hvalid (by decide) hother (by decide) hthere hback⟩

/-- One token twice, in two spellings: `validate` compares the tokens as they
are written, the quotes ignore case. Both ways are quoted as the first token
in, at the price four. -/
def twiceSpelledPool : V3PoolState :=
  { SwapReplay.samplePool with token1 := "0xTOKEN0", sqrtPriceX96 := 2 ^ 97 }

theorem twiceSpelledPool_gains :
    twiceSpelledPool.validate = .ok ()
      ∧ twiceSpelledPool.otherToken twiceSpelledPool.token0 = some twiceSpelledPool.token1
      ∧ ∃ there back,
        twiceSpelledPool.quoteExactIn twiceSpelledPool.token0 1000000000000000 = .ok there
          ∧ twiceSpelledPool.quoteExactIn twiceSpelledPool.token1 there.amountOut = .ok back
          ∧ 1000000000000000 < back.amountOut := by
  refine ⟨by decide, by decide, twiceSpelledPool.quoteOf "0xtoken0" 1000000000000000 true,
    twiceSpelledPool.quoteOf "0xTOKEN0"
      (twiceSpelledPool.quoteOf "0xtoken0" 1000000000000000 true).amountOut true, ?_⟩
  decide

end V3PoolState

end BaseEngine
