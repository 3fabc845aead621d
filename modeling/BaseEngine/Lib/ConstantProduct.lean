import Mathlib.Tactic.Linarith
import Mathlib.Tactic.GCongr
import Mathlib.Algebra.Order.Ring.Nat
import Mathlib.Tactic.Ring
import BaseEngine.Lib.Rounding

/-!
# The constant-product exchange with a fee on the input

`out D m x y a` is what a pool with reserves `x` (in) and `y` (out) pays
for the input `a` when the fraction `m / D` of the input counts: the
largest amount that keeps the fee-adjusted product, rounded down, in
unbounded integers.
-/

namespace ConstantProduct

/-- Output of an exact-input swap, `a·m·y / (x·D + a·m)` rounded down. -/
def out (D m x y a : Nat) : Nat := a * m * y / (x * D + a * m)

/-- The whole output reserve is never paid out. -/
theorem out_le_reserve (D m x y a : Nat) : out D m x y a ≤ y := by
  unfold out
  refine Nat.div_le_of_le_mul ?_
  have h : a * m * y ≤ (x * D + a * m) * y := by gcongr; omega
  exact h

/-- The outputs that keep the fee-adjusted product are those up to `out`. -/
theorem product_le_iff_le_out {D m x y a o : Nat} (hx : 0 < x * D) (ho : o ≤ y) :
    D * x * y ≤ (D * x + a * m) * (y - o) ↔ o ≤ out D m x y a := by
  obtain ⟨k, rfl⟩ := Nat.exists_eq_add_of_le ho
  have hD : 0 < x * D + a * m := by omega
  have hsub : o + k - o = k := by omega
  unfold out
  rw [Nat.le_div_iff_mul_le hD, hsub]
  -- both sides say that `D * x * o` is at most `a * m * k`
  constructor
  · intro h
    nlinarith
  · intro h
    nlinarith

theorem out_lt_reserve {D m x y a : Nat} (hx : 0 < x * D) (hy : 0 < y) : out D m x y a < y := by
  unfold out
  rw [Nat.div_lt_iff_lt_mul (by omega)]
  nlinarith

/-- A larger input pays no less. -/
theorem out_mono {D m x y a b : Nat} (hx : 0 < x * D) (hab : a ≤ b) :
    out D m x y a ≤ out D m x y b := by
  refine Rounding.div_le_div_of_mul_le (by omega) (by omega) ?_
  have hscaled : a * m * y * (x * D) ≤ b * m * y * (x * D) := by gcongr
  -- the products of the two inputs are the same on both sides
  linarith

/-- The average price is no better than the marginal one. -/
theorem out_mul_le {D m x y a : Nat} (hD : 0 < D) (hm : m ≤ D) : out D m x y a * x ≤ a * y := by
  refine Nat.le_of_mul_le_mul_right ?_ hD
  calc out D m x y a * x * D = out D m x y a * (x * D) := Nat.mul_assoc ..
    _ ≤ out D m x y a * (x * D + a * m) := Nat.mul_le_mul_left _ (Nat.le_add_right ..)
    _ ≤ a * m * y := Nat.div_mul_le_self ..
    _ ≤ a * D * y := by gcongr
    _ = a * y * D := Nat.mul_right_comm ..

@[simp] theorem out_zero (D m x y : Nat) : out D m x y 0 = 0 := by
  simp [out]

/-- **A gain needs a price gap.** Two exchanges in a row that return more
than was put in have marginal prices, fees included, whose product exceeds
one. -/
theorem lt_of_lt_out_out {D m₁ x₁ y₁ m₂ x₂ y₂ a : Nat} (h₁ : 0 < x₁ * D) (h₂ : 0 < x₂ * D)
    (h : a < out D m₂ x₂ y₂ (out D m₁ x₁ y₁ a)) :
    D * x₁ * (D * x₂) < m₁ * y₁ * (m₂ * y₂) := by
  have ha : 0 < a := by
    rcases Nat.eq_zero_or_pos a with rfl | ha
    · simp at h
    · exact ha
  have hp : 0 < out D m₁ x₁ y₁ a := by
    rcases Nat.eq_zero_or_pos (out D m₁ x₁ y₁ a) with hzero | hp
    · simp [hzero] at h
    · exact hp
  have hfirst : out D m₁ x₁ y₁ a * (x₁ * D) ≤ a * m₁ * y₁ :=
    (Nat.mul_le_mul_left _ (Nat.le_add_right ..)).trans (Nat.div_mul_le_self ..)
  generalize out D m₁ x₁ y₁ a = p at h hp hfirst
  have hsecond : out D m₂ x₂ y₂ p * (x₂ * D) ≤ p * m₂ * y₂ :=
    (Nat.mul_le_mul_left _ (Nat.le_add_right ..)).trans (Nat.div_mul_le_self ..)
  generalize out D m₂ x₂ y₂ p = q at h hsecond
  -- the two amounts cancel from the product of the two bounds
  refine Nat.lt_of_mul_lt_mul_left (a := a * p) ?_
  calc a * p * (D * x₁ * (D * x₂)) = p * (x₁ * D) * (a * (x₂ * D)) := by ring
    _ < p * (x₁ * D) * (q * (x₂ * D)) := by gcongr
    _ ≤ a * m₁ * y₁ * (p * m₂ * y₂) := Nat.mul_le_mul hfirst hsecond
    _ = a * p * (m₁ * y₁ * (m₂ * y₂)) := by ring

/-- With a fee the plain product grows. -/
theorem product_le_of_out {D m x y a : Nat} (hx : 0 < x * D) (hm : m ≤ D) :
    x * y ≤ (x + a) * (y - out D m x y a) := by
  have hD : 0 < D := Nat.pos_of_mul_pos_left hx
  have hkept : D * x * y ≤ (D * x + a * m) * (y - out D m x y a) :=
    (product_le_iff_le_out hx (out_le_reserve D m x y a)).mpr le_rfl
  have hfee : D * x + a * m ≤ D * (x + a) := by nlinarith
  refine Nat.le_of_mul_le_mul_left ?_ hD
  calc D * (x * y) = D * x * y := (Nat.mul_assoc ..).symm
    _ ≤ (D * x + a * m) * (y - out D m x y a) := hkept
    _ ≤ D * (x + a) * (y - out D m x y a) := Nat.mul_le_mul_right _ hfee
    _ = D * ((x + a) * (y - out D m x y a)) := Nat.mul_assoc ..

end ConstantProduct
