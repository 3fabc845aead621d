import Mathlib.Tactic.Linarith
import Mathlib.Tactic.Positivity
import Mathlib.Tactic.Ring
import BaseEngine.Lib.Rounding

/-!
# A swap inside one price range

The exact-input step of a pool with concentrated liquidity, in unbounded
integers. `L` is the liquidity, `S` the square root of the price in units of
`1 / U`, and `a` the input without the fee. Token 0 in lowers the price and
pays token 1 (`fall`, `outFall`); token 1 in raises it and pays token 0
(`rise`, `outRise`). `fallRef` is the lowered price with one division, `fall`
the one with the divisor rounded down first.

Every rounding is against the trader. `fallRef_le_fall` says so of the
divisor, and `outFall_value` and `outRise_value` of the whole step: an output
is worth at most its input at the price before the swap. Going there and back
therefore never gains (`outRise_outFall_le`, `outFall_outRise_le`).
-/

namespace RangeSwap

open Rounding

variable {U L S a b next next' q : Nat}

/-- `⌈L·U·S / (L·U + a·S)⌉`. -/
def fallRef (U L S a : Nat) : Nat := L * U * S ⌈/⌉ (L * U + a * S)

/-- `⌈L·U / (⌊L·U / S⌋ + a)⌉`. -/
def fall (U L S a : Nat) : Nat := L * U ⌈/⌉ (L * U / S + a)

/-- `S + ⌊a·U / L⌋`. -/
def rise (U L S a : Nat) : Nat := S + a * U / L

def outFall (U L S next : Nat) : Nat := L * (S - next) / U

def outRise (U L S next : Nat) : Nat := L * (next - S) * U / (S * next)

/-! ## Prices -/

/-- The inequality that the rounded price meets, without quotients. -/
theorem mul_le_mul_fall (ha : 0 < a) : L * U * S ≤ (L * U + a * S) * fall U L S a := by
  have hdivisor : (L * U / S + a) * S ≤ L * U + a * S := by
    rw [Nat.add_mul]
    exact Nat.add_le_add_right (Nat.div_mul_le_self ..) _
  calc L * U * S ≤ (L * U / S + a) * fall U L S a * S :=
        Nat.mul_le_mul_right S (le_mul_ceilDiv (Nat.add_pos_right _ ha))
    _ = (L * U / S + a) * S * fall U L S a := Nat.mul_right_comm ..
    _ ≤ (L * U + a * S) * fall U L S a := by gcongr

/-- Rounding the divisor down keeps the price up. -/
theorem fallRef_le_fall (hS : 0 < S) (ha : 0 < a) : fallRef U L S a ≤ fall U L S a := by
  have hpos : 0 < L * U + a * S := Nat.add_pos_right _ (Nat.mul_pos ha hS)
  exact (ceilDiv_le_iff_le_mul hpos).mpr (mul_le_mul_fall ha)

theorem fall_le (hS : 0 < S) (ha : 0 < a) : fall U L S a ≤ S := by
  refine (ceilDiv_le_iff_le_mul (Nat.add_pos_right _ ha)).mpr ?_
  have hfloor : L * U < S * (L * U / S + 1) := Nat.lt_mul_div_succ _ hS
  calc L * U ≤ (L * U / S + 1) * S := by
        rw [Nat.mul_comm _ S]
        exact hfloor.le
    _ ≤ (L * U / S + a) * S := by
        gcongr
        exact ha

theorem fall_pos (hU : 0 < U) (hL : 0 < L) (ha : 0 < a) : 0 < fall U L S a := by
  refine Nat.pos_of_ne_zero fun hzero => ?_
  have hle : L * U ≤ (L * U / S + a) * 0 :=
    (ceilDiv_le_iff_le_mul (Nat.add_pos_right _ ha)).mp hzero.le
  exact absurd (Nat.mul_pos hL hU) (Nat.not_lt.mpr hle)

theorem fall_anti (ha : 0 < a) (hab : a ≤ b) : fall U L S b ≤ fall U L S a :=
  ceilDiv_anti (Nat.add_pos_right _ ha) (by gcongr)

theorem le_rise (U L S a : Nat) : S ≤ rise U L S a := Nat.le_add_right ..

theorem rise_mono (hab : a ≤ b) : rise U L S a ≤ rise U L S b := by
  unfold rise
  gcongr

/-! ## Outputs -/

theorem outFall_anti (h : next ≤ next') : outFall U L S next' ≤ outFall U L S next := by
  unfold outFall
  gcongr

theorem outRise_mono (hS : 0 < S) (hnext : S ≤ next) (h : next ≤ next') :
    outRise U L S next ≤ outRise U L S next' := by
  obtain ⟨d, rfl⟩ := Nat.exists_eq_add_of_le hnext
  obtain ⟨e, rfl⟩ := Nat.exists_eq_add_of_le h
  refine div_le_div_of_mul_le (by positivity) (by positivity) ?_
  have hd : S + d - S = d := by omega
  have he : S + d + e - S = d + e := by omega
  rw [hd, he]
  -- the products differ by `L·U·S·S·e`
  calc L * d * U * (S * (S + d + e)) ≤ L * d * U * (S * (S + d + e)) + L * U * S * S * e :=
        Nat.le_add_right ..
    _ = L * (d + e) * U * (S * (S + d)) := by ring

/-- The output in two divisions. -/
theorem outRise_eq_div_div (U L S next : Nat) :
    outRise U L S next = L * U * (next - S) / next / S := by
  rw [outRise, Nat.div_div_eq_div_mul, Nat.mul_right_comm, Nat.mul_comm S next]

/-! ## What an output is worth -/

theorem outFall_value (hS : 0 < S) (ha : 0 < a) :
    outFall U L S (fall U L S a) * (U * U) ≤ a * (S * S) := by
  have hout : outFall U L S (fall U L S a) * U ≤ L * (S - fall U L S a) :=
    Nat.div_mul_le_self ..
  have hprice := mul_le_mul_fall (U := U) (L := L) (S := S) ha
  have hle := fall_le (U := U) (L := L) hS ha
  generalize fall U L S a = f at hout hprice hle
  obtain ⟨d, rfl⟩ := Nat.exists_eq_add_of_le hle
  have hd : f + d - f = d := by omega
  rw [hd] at hout
  calc outFall U L (f + d) f * (U * U) = outFall U L (f + d) f * U * U := (Nat.mul_assoc ..).symm
    _ ≤ L * d * U := by gcongr
    _ ≤ a * (f + d) * f := by linarith
    _ ≤ a * ((f + d) * (f + d)) := by
      rw [Nat.mul_assoc]
      gcongr

theorem outRise_value : outRise U L S (rise U L S a) * (S * S) ≤ a * (U * U) := by
  have hout : outRise U L S (rise U L S a) * (S * rise U L S a)
      ≤ L * (rise U L S a - S) * U := Nat.div_mul_le_self ..
  have hmove : rise U L S a - S = a * U / L := Nat.add_sub_cancel_left ..
  calc outRise U L S (rise U L S a) * (S * S)
      ≤ outRise U L S (rise U L S a) * (S * rise U L S a) := by
        gcongr
        exact le_rise U L S a
    _ ≤ L * (a * U / L) * U := hmove ▸ hout
    _ ≤ a * U * U := Nat.mul_le_mul_right U (Nat.mul_div_le ..)
    _ = a * (U * U) := Nat.mul_assoc ..

/-- Token 0 in and back: nothing is gained, also if the way back takes less
than what the way there paid. -/
theorem outRise_outFall_le (hS : 0 < S) (ha : 0 < a)
    (hq : q ≤ outFall U L S (fall U L S a)) : outRise U L S (rise U L S q) ≤ a := by
  refine Nat.le_of_mul_le_mul_right ?_ (Nat.mul_pos hS hS)
  calc outRise U L S (rise U L S q) * (S * S) ≤ q * (U * U) := outRise_value
    _ ≤ outFall U L S (fall U L S a) * (U * U) := by gcongr
    _ ≤ a * (S * S) := outFall_value hS ha

/-- Token 1 in and back. -/
theorem outFall_outRise_le (hU : 0 < U) (hS : 0 < S) (hpos : 0 < q)
    (hq : q ≤ outRise U L S (rise U L S a)) : outFall U L S (fall U L S q) ≤ a := by
  refine Nat.le_of_mul_le_mul_right ?_ (Nat.mul_pos hU hU)
  calc outFall U L S (fall U L S q) * (U * U) ≤ q * (S * S) := outFall_value hS hpos
    _ ≤ outRise U L S (rise U L S a) * (S * S) := by gcongr
    _ ≤ a * (U * U) := outRise_value

end RangeSwap
