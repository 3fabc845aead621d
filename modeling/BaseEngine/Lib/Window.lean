import Mathlib.Algebra.BigOperators.Group.List.Basic
import Mathlib.Algebra.GroupWithZero.Nat
import Mathlib.Data.List.Basic

/-!
# Caps over rolling windows

A component accepts items at non-decreasing times and keeps the recent
ones in a queue; what it drops from the queue's front is older than the
window. The cap it checks is on the queue's total, at the moment of an
acceptance. `capped_append` says why this bounds *every* window of the
history, not only those that end at an acceptance: the latest item of a
window is the one whose acceptance checked everything in it.

Items are of any type, with a time and an amount.
-/

namespace Window

variable {α : Type*} (time amount : α → Nat)

/-- The total of a list of items. -/
def total (items : List α) : Nat := (items.map amount).sum

/-- The total of the items with a time in `[lo, hi]`. -/
def totalIn (lo hi : Nat) (items : List α) : Nat :=
  total amount (items.filter fun item => decide (lo ≤ time item ∧ time item ≤ hi))

/-- No window of the given width, wherever it starts, exceeds the cap. -/
def Capped (width cap : Nat) (items : List α) : Prop :=
  ∀ start, totalIn time amount start (start + width) items ≤ cap

variable {time amount}

@[simp] theorem total_nil : total amount [] = 0 := rfl

@[simp] theorem total_cons (item : α) (items : List α) :
    total amount (item :: items) = amount item + total amount items := by
  simp [total]

@[simp] theorem total_append (l₁ l₂ : List α) :
    total amount (l₁ ++ l₂) = total amount l₁ + total amount l₂ := by
  simp [total]

/-- What passes a weaker test has no smaller total. -/
theorem total_filter_mono {p q : α → Bool} (h : ∀ item, p item = true → q item = true)
    (items : List α) : total amount (items.filter p) ≤ total amount (items.filter q) := by
  induction items with
  | nil => exact Nat.le_refl _
  | cons item items ih =>
      by_cases hp : p item = true
      · rw [List.filter_cons_of_pos hp, List.filter_cons_of_pos (h item hp), total_cons,
          total_cons]
        omega
      · rw [List.filter_cons_of_neg hp]
        by_cases hq : q item = true
        · rw [List.filter_cons_of_pos hq, total_cons]
          omega
        · rw [List.filter_cons_of_neg hq]
          exact ih

theorem total_filter_le (p : α → Bool) (items : List α) :
    total amount (items.filter p) ≤ total amount items := by
  have hmono := @total_filter_mono α amount p (fun _ => true) (fun _ _ => rfl) items
  rwa [List.filter_true] at hmono

theorem totalIn_append (lo hi : Nat) (l₁ l₂ : List α) :
    totalIn time amount lo hi (l₁ ++ l₂)
      = totalIn time amount lo hi l₁ + totalIn time amount lo hi l₂ := by
  simp [totalIn]

theorem totalIn_le_total (lo hi : Nat) (items : List α) :
    totalIn time amount lo hi items ≤ total amount items :=
  total_filter_le _ _

theorem totalIn_singleton_of_mem {lo hi : Nat} {item : α} (h : lo ≤ time item ∧ time item ≤ hi) :
    totalIn time amount lo hi [item] = amount item := by
  simp [totalIn, h, total]

theorem totalIn_singleton_of_not_mem {lo hi : Nat} {item : α}
    (h : ¬ (lo ≤ time item ∧ time item ≤ hi)) : totalIn time amount lo hi [item] = 0 := by
  simp [totalIn, h]

/-- A wider window holds no less. -/
theorem totalIn_mono {lo hi lo' hi' : Nat} (hlo : lo' ≤ lo) (hhi : hi ≤ hi') (items : List α) :
    totalIn time amount lo hi items ≤ totalIn time amount lo' hi' items := by
  refine total_filter_mono (fun item hin => ?_) items
  rw [decide_eq_true_eq] at hin ⊢
  omega

/-- Items from before the window count nothing. -/
theorem totalIn_of_forall_lt {lo hi : Nat} {items : List α}
    (h : ∀ item ∈ items, time item < lo) : totalIn time amount lo hi items = 0 := by
  have hnil : (items.filter fun item => decide (lo ≤ time item ∧ time item ≤ hi)) = [] := by
    refine List.filter_eq_nil_iff.mpr fun item hmem => ?_
    have := h item hmem
    simp only [decide_eq_true_eq]
    omega
  rw [totalIn, hnil, total_nil]

theorem capped_nil (width cap : Nat) : Capped time amount width cap [] :=
  fun _ => Nat.zero_le _

/-- **Acceptance keeps the cap.** The history is what was dropped, older
than the window that ends at the new item, followed by what is kept; the
new item fits with all of the kept ones. -/
theorem capped_append {width cap : Nat} {dropped kept : List α} {item : α}
    (h : Capped time amount width cap (dropped ++ kept))
    (hold : ∀ old ∈ dropped, time old + width < time item)
    (hfits : total amount kept + amount item ≤ cap) :
    Capped time amount width cap (dropped ++ kept ++ [item]) := by
  intro start
  rw [totalIn_append]
  by_cases hin : start ≤ time item ∧ time item ≤ start + width
  · -- the window reaches the new item, so it starts after everything dropped
    have hdropped : totalIn time amount start (start + width) dropped = 0 := by
      refine totalIn_of_forall_lt fun old hmem => ?_
      have := hold old hmem
      omega
    have hkept : totalIn time amount start (start + width) kept ≤ total amount kept :=
      totalIn_le_total ..
    rw [totalIn_append, hdropped, totalIn_singleton_of_mem hin]
    omega
  · rw [totalIn_singleton_of_not_mem hin]
    exact h start

end Window
