import Mathlib.Algebra.Order.Field.Rat
import Mathlib.Data.Nat.Cast.Order.Field
import Mathlib.Tactic.FieldSimp
import BaseEngine.Markets

/-!
# How close the price impact of a V2 quote is

The estimate compares the price before the trade with the price of the
trade, both as integers with four extra digits. The second is never above
the first, and the estimate is the relative difference of the two floors
(`impact_eq`). Its distance to the exact impact is less than one, plus what
the floor of the first price may be off (`priceImpact_near`); a price below a
ten-thousandth leaves nothing to compare, and the estimate is zero.
-/

namespace BaseEngine

open Fallible Machine

namespace V2PoolState

variable {pool : V2PoolState} {tokenIn : String} {amountIn impact : Nat} {quote : PoolQuote}

/-- The price before the trade, in ten-thousandths. -/
def quotedPrice (pool : V2PoolState) (tokenIn : String) : Nat :=
  pool.reserveOut tokenIn * 10000 / pool.reserveIn tokenIn

/-- The exact impact of a trade, in bps. -/
def exactImpact (pool : V2PoolState) (tokenIn : String) (amountIn amountOut : Nat) : ℚ :=
  10000 * (1 - amountOut * pool.reserveIn tokenIn / (amountIn * pool.reserveOut tokenIn))

theorem estimatePriceImpactBps_ok {reserveIn reserveOut amountOut : Nat} (ha : 0 < amountIn)
    (h : estimatePriceImpactBps reserveIn reserveOut amountIn amountOut = .ok impact) :
    impact =
      if reserveOut * 10000 / reserveIn = 0
          ∨ reserveOut * 10000 / reserveIn ≤ amountOut * 10000 / amountIn then 0
      else min ((reserveOut * 10000 / reserveIn - amountOut * 10000 / amountIn) * 10000
        / (reserveOut * 10000 / reserveIn)) u32Max := by
  obtain ⟨quoted, hquoted, h⟩ := okOr_bind_eq_ok_iff.mp h
  obtain ⟨realized, hrealized, h⟩ := okOr_bind_eq_ok_iff.mp h
  obtain ⟨-, rfl⟩ := checkedMul_eq_some_iff.mp hquoted
  obtain ⟨-, rfl⟩ := checkedMul_eq_some_iff.mp hrealized
  have hmax : max amountIn 1 = amountIn := by omega
  rw [hmax] at h
  unfold bpsDenominator at h
  by_cases hflat : reserveOut * 10000 / reserveIn = 0
      ∨ reserveOut * 10000 / reserveIn ≤ amountOut * 10000 / amountIn
  · rw [if_pos hflat] at h
    rw [if_pos hflat]
    exact (Except.ok.inj h).symm
  · rw [if_neg hflat] at h
    rw [if_neg hflat]
    obtain ⟨scaled, hscaled, h⟩ := okOr_bind_eq_ok_iff.mp h
    obtain ⟨-, rfl⟩ := checkedMul_eq_some_iff.mp hscaled
    exact (Except.ok.inj h).symm

/-- The price of the trade is not above the price before it. -/
theorem realized_le_quoted (hvalid : pool.validate = .ok ())
    (hstep : pool.QuoteStep tokenIn amountIn impact) :
    pool.exactOut tokenIn amountIn * 10000 / amountIn ≤ pool.quotedPrice tokenIn := by
  have hle : pool.exactOut tokenIn amountIn * pool.reserveIn tokenIn
      ≤ amountIn * pool.reserveOut tokenIn :=
    ConstantProduct.out_mul_le (by decide) (Nat.sub_le ..)
  refine Rounding.div_le_div_of_mul_le hstep.input (reserveIn_pos hvalid tokenIn) ?_
  calc pool.exactOut tokenIn amountIn * 10000 * pool.reserveIn tokenIn
      = pool.exactOut tokenIn amountIn * pool.reserveIn tokenIn * 10000 := Nat.mul_right_comm ..
    _ ≤ amountIn * pool.reserveOut tokenIn * 10000 := by gcongr
    _ = pool.reserveOut tokenIn * 10000 * amountIn := by
        rw [Nat.mul_comm amountIn, Nat.mul_right_comm]

/-- The cap at a word is never reached. -/
theorem flooredImpact_eq {quoted realized : Nat} (hle : realized ≤ quoted) :
    (if quoted = 0 ∨ quoted ≤ realized then 0
      else min ((quoted - realized) * 10000 / quoted) u32Max)
      = (quoted - realized) * 10000 / quoted := by
  by_cases hflat : quoted = 0 ∨ quoted ≤ realized
  · have hzero : quoted - realized = 0 := by omega
    rw [if_pos hflat, hzero, Nat.zero_mul, Nat.zero_div]
  · rw [if_neg hflat]
    have hcap : (quoted - realized) * 10000 / quoted ≤ 10000 := by
      refine Nat.div_le_of_le_mul ?_
      exact Nat.mul_le_mul_right _ (Nat.sub_le ..)
    exact Nat.min_eq_left (hcap.trans (by decide))

/-- The estimate is the relative difference of the two prices. -/
theorem impact_eq (hvalid : pool.validate = .ok ())
    (hstep : pool.QuoteStep tokenIn amountIn impact) :
    impact = (pool.quotedPrice tokenIn - pool.exactOut tokenIn amountIn * 10000 / amountIn) * 10000
      / pool.quotedPrice tokenIn := by
  have himpact := estimatePriceImpactBps_ok hstep.input hstep.impact
  rw [← quotedPrice, flooredImpact_eq (realized_le_quoted hvalid hstep)] at himpact
  exact himpact

/-! ## In rationals -/

theorem abs_flooredImpact_sub_lt {quoted realized : Nat} (hpos : 0 < quoted)
    (hle : realized ≤ quoted) :
    |(((quoted - realized) * 10000 / quoted : Nat) : ℚ) - 10000 * (1 - realized / quoted)| < 1 := by
  have hquoted : (0 : ℚ) < quoted := Nat.cast_pos.mpr hpos
  have hfloored : (10000 : ℚ) * (1 - realized / quoted)
      = ((quoted - realized) * 10000 : Nat) / (quoted : ℚ) := by
    push_cast [Nat.cast_sub hle]
    field_simp
  have habove : (((quoted - realized) * 10000 / quoted : Nat) : ℚ)
      ≤ ((quoted - realized) * 10000 : Nat) / (quoted : ℚ) := Nat.cast_div_le
  have hbelow : ((quoted - realized) * 10000 : Nat) / (quoted : ℚ)
      < ((quoted - realized) * 10000 / quoted : Nat) + 1 := Rounding.lt_cast_div_add_one hpos
  rw [hfloored, abs_lt]
  constructor
  · linarith
  · linarith

/-- The estimate is the floor of the impact between the floored prices. -/
theorem abs_impact_sub_floored_lt (hvalid : pool.validate = .ok ())
    (hstep : pool.QuoteStep tokenIn amountIn impact) (hpos : 0 < pool.quotedPrice tokenIn) :
    |(impact : ℚ) - 10000 * (1 - (pool.exactOut tokenIn amountIn * 10000 / amountIn : Nat)
      / pool.quotedPrice tokenIn)| < 1 := by
  rw [impact_eq hvalid hstep]
  exact abs_flooredImpact_sub_lt hpos (realized_le_quoted hvalid hstep)

/-- The floored prices are off by less than one part of the first. -/
theorem abs_floored_sub_exactImpact_lt (hvalid : pool.validate = .ok ())
    (hstep : pool.QuoteStep tokenIn amountIn impact) (hpos : 0 < pool.quotedPrice tokenIn) :
    |10000 * (1 - (pool.exactOut tokenIn amountIn * 10000 / amountIn : Nat)
        / (pool.quotedPrice tokenIn : ℚ))
      - pool.exactImpact tokenIn amountIn (pool.exactOut tokenIn amountIn)|
      < 10000 / pool.quotedPrice tokenIn := by
  have hin := reserveIn_pos hvalid tokenIn
  have hout : (0 : ℚ) < pool.reserveOut tokenIn := Nat.cast_pos.mpr (reserveOut_pos hvalid tokenIn)
  have hamount : (0 : ℚ) < amountIn := Nat.cast_pos.mpr hstep.input
  have hratio := Rounding.abs_floor_ratio_lt (K := ℚ) hpos Nat.cast_div_le
    (Rounding.lt_cast_div_add_one hin) Nat.cast_div_le
    (Rounding.lt_cast_div_add_one hstep.input) (realized_le_quoted hvalid hstep)
  have hexact : pool.exactImpact tokenIn amountIn (pool.exactOut tokenIn amountIn)
      = 10000 * (1 - ((pool.exactOut tokenIn amountIn * 10000 : Nat) / (amountIn : ℚ))
          / ((pool.reserveOut tokenIn * 10000 : Nat) / (pool.reserveIn tokenIn : ℚ))) := by
    unfold exactImpact
    push_cast
    field_simp
  have hscale : (0 : ℚ) < 10000 := by norm_num
  rw [hexact, ← mul_sub, abs_mul, abs_of_pos hscale, sub_sub_sub_cancel_left, abs_sub_comm,
    div_eq_mul_one_div (10000 : ℚ)]
  gcongr

/-- **How close the impact is.** Zero if the floored price is zero, and
otherwise off by less than one bps and ten thousand parts of the floored
price. -/
theorem priceImpact_near (hvalid : pool.validate = .ok ())
    (h : pool.quoteExactIn tokenIn amountIn = .ok quote) :
    (pool.quotedPrice tokenIn = 0 → quote.priceImpactBps = 0)
      ∧ (0 < pool.quotedPrice tokenIn →
          |(quote.priceImpactBps : ℚ) - pool.exactImpact tokenIn amountIn quote.amountOut|
            < 1 + 10000 / pool.quotedPrice tokenIn) := by
  obtain ⟨impact, hstep, rfl⟩ := quoteExactIn_ok h
  constructor
  · intro hzero
    show impact = 0
    rw [impact_eq hvalid hstep, hzero, Nat.div_zero]
  · intro hpos
    calc |(impact : ℚ) - pool.exactImpact tokenIn amountIn (pool.exactOut tokenIn amountIn)|
        ≤ |(impact : ℚ) - 10000 * (1 - (pool.exactOut tokenIn amountIn * 10000 / amountIn : Nat)
              / pool.quotedPrice tokenIn)|
          + |10000 * (1 - (pool.exactOut tokenIn amountIn * 10000 / amountIn : Nat)
              / (pool.quotedPrice tokenIn : ℚ))
            - pool.exactImpact tokenIn amountIn (pool.exactOut tokenIn amountIn)| :=
          abs_sub_le ..
      _ < 1 + 10000 / pool.quotedPrice tokenIn :=
          add_lt_add (abs_impact_sub_floored_lt hvalid hstep hpos)
            (abs_floored_sub_exactImpact_lt hvalid hstep hpos)

/-- One WETH into the sample pool moves its price by more than nine percent;
USDC has twelve decimals fewer, and the estimate is zero. -/
theorem samplePool_impact_zero :
    samplePool.validate = .ok ()
      ∧ samplePool.quoteExactIn "0xweth" 1000000000000000000
        = .ok (samplePool.quoteOf "0xweth" 1000000000000000000 0)
      ∧ 1 < |((samplePool.quoteOf "0xweth" 1000000000000000000 0).priceImpactBps : ℚ)
          - samplePool.exactImpact "0xweth" 1000000000000000000
            (samplePool.quoteOf "0xweth" 1000000000000000000 0).amountOut| := by
  decide +kernel

theorem samplePool_impact_near :
    samplePool.validate = .ok () ∧ 0 < samplePool.quotedPrice "0xusdc"
      ∧ ((samplePool.quotedPrice "0xusdc" = 0 →
          (samplePool.quoteOf "0xusdc" 1000000000 412).priceImpactBps = 0)
        ∧ (0 < samplePool.quotedPrice "0xusdc" →
          |((samplePool.quoteOf "0xusdc" 1000000000 412).priceImpactBps : ℚ)
              - samplePool.exactImpact "0xusdc" 1000000000
                (samplePool.quoteOf "0xusdc" 1000000000 412).amountOut|
            < 1 + 10000 / samplePool.quotedPrice "0xusdc")) := by
  have hvalid : samplePool.validate = .ok () := by decide
  have hquote : samplePool.quoteExactIn "0xusdc" 1000000000
      = .ok (samplePool.quoteOf "0xusdc" 1000000000 412) := by
    decide +kernel
  exact ⟨hvalid, by decide, priceImpact_near hvalid hquote⟩

end V2PoolState

end BaseEngine
