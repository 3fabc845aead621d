import BaseEngine.Lib.Audit
import BaseEngine.QuoteAccuracy
import BaseEngine.QuoteFaults

/-!
# The price step of a V3 quote, operation by operation

`U256` wraps where the source does not check, and panics on a zero divisor.
`quoteExactInAudited` is the quote of `V3Quote` with every unchecked
operation put on record: the quotients and the remainder of the price step
and of the output, and the difference, product and quotient of the impact,
which is estimated twice.

On a valid pool all of them are exact, for every token and amount
(`quoteExactIn_computes`): the quote of the source is the one in unbounded
integers. An amount that is left after the fee moves the price in the
direction of the swap and never to zero (`priceStep_exact`), so that neither
difference of the output fails.
-/

namespace BaseEngine

open Audit Fallible Machine

namespace V3PoolState

/-- The quote with its plain operations on record. -/
def quoteExactInAudited (pool : V3PoolState) (tokenIn : String) (amountIn : Nat) :
    Audited MarketError PoolQuote :=
  pool.quoteExactInWords tokenIn amountIn

/-! ## The parts -/

variable {pool : V3PoolState} {zeroForOne : Bool} {amount amountIn next withFee : Nat}

theorem lt_of_mulU256 {a b product : Nat} (h : mulU256 a b = .ok product) :
    product < 2 ^ 256 := by
  obtain ⟨hlt, rfl⟩ := mulU256_eq_ok_iff.mp h
  exact hlt

theorem impactOfWords_computes {num sqrtBefore : Nat} (hprice : 0 < sqrtBefore)
    (hfit : num * 20000 < 2 ^ 256) :
    Computes (impactOfWords num sqrtBefore) (.ok (impactOf num sqrtBefore)) := by
  refine Computes.step (Computes.mul hfit) ?_
  refine Computes.step (Computes.div hprice hfit) ?_
  -- the product that wraps is the exact one
  unfold impactOf
  rw [Nat.mod_eq_of_lt hfit]
  exact Computes.pure _

theorem priceImpactBpsWords_computes (hpos : 0 < pool.sqrtPriceX96)
    (hmax : pool.sqrtPriceX96 ≤ maxSqrtPrice)
    (hfit : pool.priceMove zeroForOne next * 20000 < 2 ^ 256) :
    Computes (priceImpactBpsWords pool.sqrtPriceX96 next zeroForOne)
      (.ok (priceImpactBps pool.sqrtPriceX96 next zeroForOne)) := by
  unfold priceImpactBpsWords priceImpactBps
  unfold maxSqrtPrice at hmax
  cases zeroForOne with
  | true =>
      rw [priceMove, if_pos rfl] at hfit
      rw [if_pos rfl, if_pos rfl]
      by_cases hle : pool.sqrtPriceX96 ≤ next
      · rw [if_pos hle, if_pos hle]
        exact Computes.pure 0
      · have hword : pool.sqrtPriceX96 < 2 ^ 256 := by omega
        rw [if_neg hle, if_neg hle]
        exact Computes.step (Computes.sub (Nat.le_of_not_le hle) hword)
          (impactOfWords_computes hpos hfit)
  | false =>
      rw [priceMove, if_neg Bool.false_ne_true] at hfit
      rw [if_neg Bool.false_ne_true, if_neg Bool.false_ne_true]
      by_cases hle : next ≤ pool.sqrtPriceX96
      · rw [if_pos hle, if_pos hle]
        exact Computes.pure 0
      · have hword : next < 2 ^ 256 := by omega
        rw [if_neg hle, if_neg hle]
        exact Computes.step (Computes.sub (Nat.le_of_not_le hle) hword)
          (impactOfWords_computes hpos hfit)

theorem divRoundUpWords_computes {numerator : Nat} (hfit : numerator < 2 ^ 256)
    (denominator : Nat) :
    Computes (divRoundUpWords numerator denominator) (divRoundUp numerator denominator) := by
  unfold divRoundUpWords divRoundUp
  by_cases hzero : denominator = 0
  · rw [if_pos hzero, if_pos hzero]
    exact Computes.checked _
  · have hpos : 0 < denominator := Nat.pos_of_ne_zero hzero
    rw [if_neg hzero, if_neg hzero]
    refine Computes.step (Computes.div hpos hfit) ?_
    refine Computes.step (Computes.rem hpos hfit) ?_
    by_cases hrem : numerator % denominator = 0
    · rw [if_pos hrem, if_pos hrem]
      exact Computes.pure _
    · rw [if_neg hrem, if_neg hrem]
      exact Computes.checked _

theorem sqrtPriceNextWords_computes (hprice : 0 < pool.sqrtPriceX96)
    (hliquidity : 0 < pool.liquidity) (zeroForOne : Bool) (amount : Nat) :
    Computes (pool.sqrtPriceNextWords zeroForOne amount)
      (pool.sqrtPriceNext zeroForOne amount) := by
  unfold sqrtPriceNextWords sqrtPriceNext
  refine Computes.bind (Computes.checked _) fun numerator1 hnumerator1 => ?_
  have hfit := lt_of_mulU256 hnumerator1
  cases zeroForOne with
  | true =>
      rw [if_pos rfl, if_pos rfl]
      refine Computes.step (Computes.div hprice hfit) ?_
      refine Computes.bind (Computes.checked _) fun divisor _ => ?_
      exact divRoundUpWords_computes hfit divisor
  | false =>
      rw [if_neg Bool.false_ne_true, if_neg Bool.false_ne_true]
      refine Computes.bind (Computes.checked _) fun scaled hscaled => ?_
      refine Computes.step (Computes.div hliquidity (lt_of_mulU256 hscaled)) ?_
      exact Computes.checked _

theorem amountOutOfWords_computes (hprice : 0 < pool.sqrtPriceX96) (zeroForOne : Bool)
    (next : Nat) :
    Computes (pool.amountOutOfWords zeroForOne next) (pool.amountOutOf zeroForOne next) := by
  unfold amountOutOfWords amountOutOf
  cases zeroForOne with
  | true =>
      rw [if_pos rfl, if_pos rfl]
      refine Computes.bind (Computes.checked _) fun diff _ => ?_
      refine Computes.bind (Computes.checked _) fun scaled hscaled => ?_
      exact Computes.div (by decide) (lt_of_mulU256 hscaled)
  | false =>
      rw [if_neg Bool.false_ne_true, if_neg Bool.false_ne_true]
      refine Computes.bind (Computes.checked _) fun diff hdiff => ?_
      obtain ⟨hle, -⟩ := checkedSub_eq_some_iff.mp (okOr_eq_ok hdiff)
      refine Computes.bind (Computes.checked _) fun scaled _ => ?_
      refine Computes.bind (Computes.checked _) fun numerator hnumerator => ?_
      refine Computes.bind (Computes.checked _) fun denominator hdenominator => ?_
      obtain ⟨-, rfl⟩ := mulU256_eq_ok_iff.mp hdenominator
      exact Computes.div (Nat.mul_pos hprice (hprice.trans_le hle)) (lt_of_mulU256 hnumerator)

/-! ## The quote -/

/-- On a valid pool every plain operation of the quote is exact. -/
theorem quoteExactIn_computes (hvalid : pool.validate = .ok ()) (tokenIn : String)
    (amountIn : Nat) :
    Computes (pool.quoteExactInAudited tokenIn amountIn) (pool.quoteExactIn tokenIn amountIn) := by
  obtain ⟨-, hfee, -, -, hmax⟩ := validate_ok hvalid
  have hprice := sqrtPrice_pos_of_validate hvalid
  have hliquidity := liquidity_pos_of_validate hvalid
  unfold quoteExactInAudited quoteExactInWords quoteExactIn
  by_cases hamount : amountIn = 0
  · rw [if_pos hamount, if_pos hamount]
    exact Computes.checked _
  rw [if_neg hamount, if_neg hamount, if_neg hliquidity.ne', if_neg hliquidity.ne']
  refine Computes.bind (Computes.checked _) fun zeroForOne _ => ?_
  refine Computes.step (Computes.sub hfee.le (by decide)) ?_
  refine Computes.bind (Computes.checked _) fun withFee hwithFee => ?_
  obtain ⟨hword, hproduct⟩ := checkedMul_eq_some_iff.mp (okOr_eq_ok hwithFee)
  rw [hproduct] at hword
  refine Computes.step (Computes.div (by decide) hword) ?_
  have hless : withFee / feePipsDenominator < 2 ^ 128 := lt_of_le_of_lt (Nat.div_le_self ..) hword
  dsimp only
  generalize withFee / feePipsDenominator = amount at hless
  by_cases hzero : amount = 0
  · rw [if_pos hzero, if_pos hzero]
    exact Computes.checked _
  rw [if_neg hzero, if_neg hzero]
  refine Computes.bind (sqrtPriceNextWords_computes hprice hliquidity zeroForOne amount)
    fun next hnext => ?_
  obtain ⟨-, rfl⟩ := sqrtPriceNext_eq_ok_iff.mp hnext
  have hfit : pool.priceMove zeroForOne (pool.nextPrice zeroForOne amount) * 20000 < 2 ^ 256 :=
    priceMove_lt hmax hless
  have himpact := priceImpactBpsWords_computes hprice hmax hfit
  refine Computes.step himpact ?_
  by_cases hcap : maxInRangeImpactBps < priceImpactBps pool.sqrtPriceX96
      (pool.nextPrice zeroForOne amount) zeroForOne
  · rw [if_pos hcap, if_pos hcap]
    exact Computes.checked _
  rw [if_neg hcap, if_neg hcap]
  refine Computes.bind (amountOutOfWords_computes hprice zeroForOne _) fun out _ => ?_
  refine Computes.bind (Computes.checked _) fun amountOut _ => ?_
  by_cases hout : amountOut = 0
  · rw [if_pos hout, if_pos hout]
    exact Computes.checked _
  · rw [if_neg hout, if_neg hout]
    exact Computes.step himpact (Computes.pure _)

theorem nextPrice_pos (hprice : 0 < pool.sqrtPriceX96) (hliquidity : 0 < pool.liquidity)
    (hamount : 0 < amount) : 0 < pool.nextPrice zeroForOne amount := by
  cases zeroForOne with
  | true =>
      rw [nextPrice_true]
      exact RangeSwap.fall_pos (by decide) hliquidity hamount
  | false => exact hprice.trans_le (pool.le_nextPrice_false amount)

/-- **The price step.** On a valid pool, an amount that is left after the fee
has a next price. It is positive and on the side of the current price that
the direction asks for, so that the checked difference of the output does not
fail; and whatever the token, no plain operation of the quote divides by zero
or leaves its word. -/
theorem priceStep_exact (hvalid : pool.validate = .ok ()) (hliquidity : pool.liquidity < 2 ^ 128)
    (hfee : checkedMul 128 amountIn (feePipsDenominator - pool.feePips) = some withFee)
    (hleft : withFee / feePipsDenominator ≠ 0) :
    (∀ zeroForOne, ∃ next,
      pool.sqrtPriceNext zeroForOne (withFee / feePipsDenominator) = .ok next
        ∧ 0 < next
        ∧ (zeroForOne = true → next ≤ pool.sqrtPriceX96
            ∧ checkedSub pool.sqrtPriceX96 next ≠ none)
        ∧ (zeroForOne = false → pool.sqrtPriceX96 ≤ next
            ∧ checkedSub next pool.sqrtPriceX96 ≠ none))
      ∧ ∀ tokenIn, Computes (pool.quoteExactInAudited tokenIn amountIn)
          (pool.quoteExactIn tokenIn amountIn) := by
  refine ⟨fun zeroForOne => ?_, fun tokenIn => quoteExactIn_computes hvalid tokenIn amountIn⟩
  have hprice := sqrtPrice_pos_of_validate hvalid
  obtain ⟨hword, hproduct⟩ := checkedMul_eq_some_iff.mp hfee
  have hless : withFee / feePipsDenominator < 2 ^ 128 :=
    lt_of_le_of_lt (Nat.div_le_self ..) (hproduct ▸ hword)
  have hpos := Nat.pos_of_ne_zero hleft
  generalize withFee / feePipsDenominator = amount at hless hpos ⊢
  have hfits : pool.PriceFits zeroForOne amount :=
    priceFits_of_lt (sqrtPrice_le_of_validate hvalid) hliquidity hpos hless
  refine ⟨pool.nextPrice zeroForOne amount, sqrtPriceNext_eq_ok_iff.mpr ⟨hfits, rfl⟩,
    nextPrice_pos hprice (liquidity_pos_of_validate hvalid) hpos, ?_, ?_⟩
  · rintro rfl
    have hle := nextPrice_true_le hprice hpos
    exact ⟨hle, fun hnone => absurd (checkedSub_eq_none_iff.mp hnone) (Nat.not_lt.mpr hle)⟩
  · rintro rfl
    have hle := pool.le_nextPrice_false amount
    exact ⟨hle, fun hnone => absurd (checkedSub_eq_none_iff.mp hnone) (Nat.not_lt.mpr hle)⟩

/-- The least liquidity at the highest price: the scaled liquidity is below
the price, and its quotient by the price is zero. -/
def thinPool : V3PoolState :=
  { SwapReplay.samplePool with sqrtPriceX96 := maxSqrtPrice, liquidity := 1 }

/-- The quote of the first token gets to the cap on the impact. -/
theorem thinPool_priceStep :
    thinPool.validate = .ok () ∧ thinPool.liquidity < 2 ^ 128
      ∧ checkedMul 128 (10 ^ 32) (feePipsDenominator - thinPool.feePips) = some (999500 * 10 ^ 32)
      ∧ 999500 * 10 ^ 32 / feePipsDenominator ≠ 0
      ∧ (∀ zeroForOne, ∃ next,
          thinPool.sqrtPriceNext zeroForOne (999500 * 10 ^ 32 / feePipsDenominator) = .ok next
            ∧ 0 < next
            ∧ (zeroForOne = true → next ≤ thinPool.sqrtPriceX96
                ∧ checkedSub thinPool.sqrtPriceX96 next ≠ none)
            ∧ (zeroForOne = false → thinPool.sqrtPriceX96 ≤ next
                ∧ checkedSub next thinPool.sqrtPriceX96 ≠ none))
      ∧ (∀ tokenIn, Computes (thinPool.quoteExactInAudited tokenIn (10 ^ 32))
          (thinPool.quoteExactIn tokenIn (10 ^ 32)))
      ∧ (thinPool.quoteExactInAudited "0xtoken0" (10 ^ 32)).ops.map Op.operator
        = [.sub, .div, .div, .div, .rem, .sub, .mul, .div] := by
  have hvalid : thinPool.validate = .ok () := by decide
  have hliquidity : thinPool.liquidity < 2 ^ 128 := by decide
  have hfee : checkedMul 128 (10 ^ 32) (feePipsDenominator - thinPool.feePips)
      = some (999500 * 10 ^ 32) := by
    decide
  have hleft : 999500 * 10 ^ 32 / feePipsDenominator ≠ 0 := by decide
  obtain ⟨hnext, hcomputes⟩ := priceStep_exact hvalid hliquidity hfee hleft
  exact ⟨hvalid, hliquidity, hfee, hleft, hnext, hcomputes, by decide⟩

end V3PoolState

end BaseEngine
