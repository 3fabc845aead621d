import Mathlib.Algebra.Order.Field.Basic
import Mathlib.Algebra.Order.Floor.Div
import Mathlib.Tactic.GCongr
import Mathlib.Tactic.Linarith

/-!
# Quotients rounded down and up

Facts about `/` and `⌈/⌉` on the naturals, with the denominators cleared.
-/

namespace Rounding

variable {x y x' y' c : Nat}

/-- Floors are ordered like the fractions. -/
theorem div_le_div_of_mul_le (hy : 0 < y) (hy' : 0 < y') (h : x * y' ≤ x' * y) :
    x / y ≤ x' / y' := by
  rw [Nat.le_div_iff_mul_le hy']
  refine Nat.le_of_mul_le_mul_right ?_ hy
  calc x / y * y' * y = x / y * y * y' := Nat.mul_right_comm ..
    _ ≤ x * y' := by gcongr; exact Nat.div_mul_le_self x y
    _ ≤ x' * y := h

/-- A divisor smaller by a ratio raises the quotient by as much, whatever the
two roundings do. -/
theorem div_add_le_div {m d d' p q gap : Nat} (hd' : 0 < d') (hq : 0 < q) (h : d' * q ≤ d * p)
    (hgap : m * p + gap * (d * p) ≤ m * q) : m / d + gap ≤ m / d' := by
  rw [Nat.le_div_iff_mul_le hd']
  refine Nat.le_of_mul_le_mul_right ?_ hq
  calc (m / d + gap) * d' * q = (m / d + gap) * (d' * q) := Nat.mul_assoc ..
    _ ≤ (m / d + gap) * (d * p) := Nat.mul_le_mul_left _ h
    _ = m / d * d * p + gap * (d * p) := by rw [Nat.add_mul, Nat.mul_assoc]
    _ ≤ m * p + gap * (d * p) := by
        gcongr
        exact Nat.div_mul_le_self ..
    _ ≤ m * q := hgap

theorem le_mul_ceilDiv (hy : 0 < y) : x ≤ y * (x ⌈/⌉ y) :=
  (ceilDiv_le_iff_le_mul hy).mp le_rfl

theorem lt_ceilDiv_iff (hy : 0 < y) : c < x ⌈/⌉ y ↔ y * c < x := by
  rw [← not_le, ceilDiv_le_iff_le_mul hy, not_le]

theorem mul_ceilDiv_lt (hy : 0 < y) : y * (x ⌈/⌉ y) < x + y := by
  rw [Nat.ceilDiv_eq_add_pred_div]
  have hle := Nat.mul_div_le (x + y - 1) y
  omega

/-- A larger divisor does not raise the quotient. -/
theorem ceilDiv_anti (hy : 0 < y) (h : y ≤ y') : x ⌈/⌉ y' ≤ x ⌈/⌉ y := by
  rw [ceilDiv_le_iff_le_mul (hy.trans_le h)]
  calc x ≤ y * (x ⌈/⌉ y) := le_mul_ceilDiv hy
    _ ≤ y' * (x ⌈/⌉ y) := by gcongr

/-- The quotient and one more if there is a remainder. -/
theorem ceilDiv_eq_ite (hy : 0 < y) :
    x ⌈/⌉ y = if x % y = 0 then x / y else x / y + 1 := by
  have hdiv := Nat.div_add_mod x y
  have hmod := Nat.mod_lt x hy
  have hceil := le_mul_ceilDiv (x := x) hy
  refine le_antisymm ((ceilDiv_le_iff_le_mul hy).mpr ?_) ?_
  · split
    · omega
    · rw [Nat.mul_add]
      omega
  · split
    · exact Nat.le_of_mul_le_mul_left (by omega : y * (x / y) ≤ y * (x ⌈/⌉ y)) hy
    · refine (lt_ceilDiv_iff hy).mpr ?_
      omega

/-! ## Ratios of floors -/

section Field

variable {K : Type*} [Field K] [LinearOrder K] [IsStrictOrderedRing K] {p r : K} {P R : Nat}

theorem lt_cast_div_add_one {n d : Nat} (hd : 0 < d) : (n : K) / d < (n / d : Nat) + 1 := by
  rw [div_lt_iff₀ (Nat.cast_pos.mpr hd), mul_comm]
  exact_mod_cast Nat.lt_mul_div_succ n hd

/-- The ratio of two floors is near the ratio, in units of the denominator. -/
theorem abs_floor_ratio_lt (hP : 0 < P) (hPp : P ≤ p) (hpP : p < P + 1) (hRr : R ≤ r)
    (hrR : r < R + 1) (hRP : R ≤ P) : |(R : K) / P - r / p| < 1 / P := by
  have hP' : (0 : K) < P := Nat.cast_pos.mpr hP
  have hp : 0 < p := hP'.trans_le hPp
  have hr : 0 ≤ r := (Nat.cast_nonneg R).trans hRr
  have hRP' : (R : K) ≤ P := Nat.cast_le.mpr hRP
  have habove : r / p < (R + 1) / P :=
    calc r / p ≤ r / P := by gcongr
      _ < (R + 1) / P := by gcongr
  have hbelow : ((R : K) - 1) / P < r / p := by
    have hsucc : (0 : K) < P + 1 := by linarith
    calc ((R : K) - 1) / P < R / (P + 1) := by
          rw [div_lt_div_iff₀ hP' hsucc]
          linarith
      _ ≤ R / p := by gcongr
      _ ≤ r / p := by gcongr
  rw [abs_lt]
  rw [add_div] at habove
  rw [sub_div] at hbelow
  constructor
  · linarith
  · linarith

end Field

end Rounding
