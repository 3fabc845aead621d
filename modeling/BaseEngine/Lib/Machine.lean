import Mathlib.Tactic.Linarith
import Mathlib.Data.Nat.Basic

/-!
# Fixed-width unsigned arithmetic over `Nat`

Machine words are natural numbers and the width is an argument of each
operation, so that a model says at every operation whether the program
traps (`checked*`) or clamps (`saturating*`) and at which width.

Each operation has one characterisation (`*_eq_some_iff`,
`*_eq_none_iff`, `saturatingAdd_of_lt`); users of the library rewrite
with these and never unfold the definitions.
-/

namespace Machine

/-! ## Checked operations -/

/-- The sum, when it fits in `w` bits. -/
def checkedAdd (w a b : Nat) : Option Nat :=
  if a + b < 2 ^ w then some (a + b) else none

/-- The product, when it fits in `w` bits. -/
def checkedMul (w a b : Nat) : Option Nat :=
  if a * b < 2 ^ w then some (a * b) else none

/-- The difference, when it does not underflow. -/
def checkedSub (a b : Nat) : Option Nat :=
  if b ≤ a then some (a - b) else none

theorem checkedAdd_eq_some_iff {w a b c : Nat} :
    checkedAdd w a b = some c ↔ a + b < 2 ^ w ∧ a + b = c := by
  unfold checkedAdd
  split <;> simp_all

theorem checkedAdd_eq_none_iff {w a b : Nat} :
    checkedAdd w a b = none ↔ 2 ^ w ≤ a + b := by
  unfold checkedAdd
  split <;> simp_all

theorem checkedMul_eq_some_iff {w a b c : Nat} :
    checkedMul w a b = some c ↔ a * b < 2 ^ w ∧ a * b = c := by
  unfold checkedMul
  split <;> simp_all

theorem checkedMul_eq_none_iff {w a b : Nat} :
    checkedMul w a b = none ↔ 2 ^ w ≤ a * b := by
  unfold checkedMul
  split <;> simp_all

theorem checkedSub_eq_some_iff {a b c : Nat} :
    checkedSub a b = some c ↔ b ≤ a ∧ a - b = c := by
  unfold checkedSub
  split <;> simp_all

theorem checkedSub_eq_none_iff {a b : Nat} : checkedSub a b = none ↔ a < b := by
  unfold checkedSub
  split <;> simp_all

/-! ## Saturating operations -/

/-- The sum, clamped to the largest `w`-bit word. -/
def saturatingAdd (w a b : Nat) : Nat := min (a + b) (2 ^ w - 1)

/-- The product, clamped to the largest `w`-bit word. -/
def saturatingMul (w a b : Nat) : Nat := min (a * b) (2 ^ w - 1)

/-- The difference, clamped at zero. -/
def saturatingSub (a b : Nat) : Nat := a - b

theorem saturatingAdd_of_lt {w a b : Nat} (h : a + b < 2 ^ w) :
    saturatingAdd w a b = a + b := by
  unfold saturatingAdd
  omega

/-- A saturating sum that stays below the largest word did not clamp. -/
theorem add_eq_of_saturatingAdd_le {w a b cap : Nat} (hcap : cap < 2 ^ w - 1)
    (h : saturatingAdd w a b ≤ cap) :
    saturatingAdd w a b = a + b ∧ a + b ≤ cap := by
  unfold saturatingAdd at *
  omega

end Machine
