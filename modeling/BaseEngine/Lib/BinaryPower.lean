import Mathlib.Data.Nat.Bitwise
import Mathlib.Order.Monotone.Basic
import BaseEngine.Lib.Machine

/-!
# Products over binary digits

A fixed-point power by a table: bit `i` of the exponent multiplies the
accumulator by the `i`-th factor, in units of `1 / scale`, rounded down.

Nothing relates the factors of a table to each other, and each product is
rounded, so that a larger exponent need not give a smaller result. It does
when every factor is at most the product of all factors before it
(`Descends`, a finite check): stepping the exponent up clears a run of low
ones and sets the bit above, which trades that product for the factor
(`run_succ_le`).

How much smaller it gets is another finite check (`Drops`). A rounding moves
a ratio of two products by at most one part of the larger one, so that the
ratio of the table is nearly that of the results (`run_succ_mul_le`).
-/

namespace BinaryPower

open Machine

variable {scale : Nat}

/-- The factors of the set bits of `n`, multiplied onto `r`, lowest first. -/
def run (scale : Nat) : List Nat → Nat → Nat → Nat
  | [], _, r => r
  | c :: cs, n, r => run scale cs (n / 2) (if n % 2 = 1 then r * c / scale else r)

/-- Every factor is at most the product of `r` and the factors before it. -/
def Descends (scale : Nat) : List Nat → Nat → Prop
  | [], _ => True
  | c :: cs, r => c ≤ r ∧ Descends scale cs (r * c / scale)

instance decidableDescends : ∀ (cs : List Nat) (r : Nat), Decidable (Descends scale cs r)
  | [], _ => inferInstanceAs (Decidable True)
  | c :: cs, r =>
      have := decidableDescends cs (r * c / scale)
      inferInstanceAs (Decidable (c ≤ r ∧ Descends scale cs (r * c / scale)))

theorem run_mono (cs : List Nat) (n : Nat) {r r' : Nat} (h : r ≤ r') :
    run scale cs n r ≤ run scale cs n r' := by
  induction cs generalizing n r r' with
  | nil => exact h
  | cons c cs ih =>
      refine ih _ ?_
      split
      · exact Nat.div_le_div_right (Nat.mul_le_mul_right c h)
      · exact h

/-- A step of the exponent from `m`, whose low ones have been multiplied onto
`r` already. -/
theorem run_succ_le_of_descends (hscale : 0 < scale) {cs : List Nat} {m r : Nat}
    (hcs : Descends scale cs r) (hm : m + 1 < 2 ^ cs.length) :
    run scale cs (m + 1) scale ≤ run scale cs m r := by
  induction cs generalizing m r with
  | nil => simp at hm
  | cons c cs ih =>
      obtain ⟨hc, hcs⟩ := hcs
      rw [List.length_cons, Nat.pow_succ] at hm
      unfold run
      rcases Nat.mod_two_eq_zero_or_one m with heven | hodd
      · -- the carry stops here: the factor replaces the product below it
        have hset : (m + 1) % 2 = 1 := by omega
        have hhalf : (m + 1) / 2 = m / 2 := by omega
        have hclear : ¬ m % 2 = 1 := by omega
        rw [if_pos hset, if_neg hclear, hhalf, Nat.mul_div_cancel_left _ hscale]
        exact run_mono cs _ hc
      · have hclear : ¬ (m + 1) % 2 = 1 := by omega
        have hhalf : (m + 1) / 2 = m / 2 + 1 := by omega
        rw [if_neg hclear, if_pos hodd, hhalf]
        exact ih hcs (by omega)

theorem run_succ_le (hscale : 0 < scale) {cs : List Nat} (hcs : Descends scale cs scale)
    {n : Nat} (hn : n + 1 < 2 ^ cs.length) :
    run scale cs (n + 1) scale ≤ run scale cs n scale :=
  run_succ_le_of_descends hscale hcs hn

/-- **A descending table gives a falling power.** -/
theorem run_anti (hscale : 0 < scale) {cs : List Nat} (hcs : Descends scale cs scale)
    {n m : Nat} (hnm : n ≤ m) (hm : m < 2 ^ cs.length) :
    run scale cs m scale ≤ run scale cs n scale := by
  induction m, hnm using Nat.le_induction with
  | base => exact le_rfl
  | succ m hnm ih => exact (run_succ_le hscale hcs hm).trans (ih (by omega))

/-! ## How much a step takes away -/

variable {A B : Nat}

/-- Every factor is at most `A / B` of the product of `r` and the factors
before it. -/
def Drops (scale A B : Nat) : List Nat → Nat → Prop
  | [], _ => True
  | c :: cs, r => c * B ≤ r * A ∧ Drops scale A B cs (r * c / scale)

instance decidableDrops : ∀ (cs : List Nat) (r : Nat), Decidable (Drops scale A B cs r)
  | [], _ => inferInstanceAs (Decidable True)
  | c :: cs, r =>
      have := decidableDrops cs (r * c / scale)
      inferInstanceAs (Decidable (c * B ≤ r * A ∧ Drops scale A B cs (r * c / scale)))

theorem run_le {cs : List Nat} (hcs : ∀ c ∈ cs, c ≤ scale) (n r : Nat) :
    run scale cs n r ≤ r := by
  induction cs generalizing n r with
  | nil => exact le_rfl
  | cons c cs ih =>
      obtain ⟨hc, hcs⟩ := List.forall_mem_cons.mp hcs
      refine (ih hcs _ _).trans ?_
      split
      · exact Nat.div_le_of_le_mul (Nat.mul_comm r c ▸ Nat.mul_le_mul_right r hc)
      · exact le_rfl

/-- One rounded product costs a ratio at most one in its numerator. -/
theorem mul_div_mul_le (hscale : 0 < scale) {c r r' : Nat} (h : r' * B ≤ r * A)
    (hA : A ≤ r * c / scale) : r' * c / scale * B ≤ r * c / scale * (A + 1) := by
  refine Nat.le_of_mul_le_mul_right ?_ hscale
  have hfloor : r * c ≤ (r * c / scale + 1) * scale := by
    rw [Nat.mul_comm _ scale]
    exact (Nat.lt_mul_div_succ _ hscale).le
  calc r' * c / scale * B * scale = r' * c / scale * scale * B := Nat.mul_right_comm ..
    _ ≤ r' * c * B := Nat.mul_le_mul_right B (Nat.div_mul_le_self ..)
    _ = r' * B * c := Nat.mul_right_comm ..
    _ ≤ r * A * c := Nat.mul_le_mul_right c h
    _ = r * c * A := Nat.mul_right_comm ..
    _ ≤ (r * c / scale + 1) * scale * A := Nat.mul_le_mul_right A hfloor
    _ = (r * c / scale * A + A) * scale := by
        rw [Nat.mul_right_comm, Nat.add_mul _ 1 A, Nat.one_mul]
    _ ≤ r * c / scale * (A + 1) * scale := by
        rw [Nat.mul_add, Nat.mul_one]
        exact Nat.mul_le_mul_right scale (Nat.add_le_add_left hA _)

theorem run_mul_le (hscale : 0 < scale) {cs : List Nat} (hcs : ∀ c ∈ cs, c ≤ scale)
    {n r r' : Nat} (h : r' * B ≤ r * A) (hA : A + cs.length ≤ run scale cs n r) :
    run scale cs n r' * B ≤ run scale cs n r * (A + cs.length) := by
  induction cs generalizing n r r' A with
  | nil => exact h
  | cons c cs ih =>
      obtain ⟨hc, hcs⟩ := List.forall_mem_cons.mp hcs
      have hlength : A + (c :: cs).length = A + 1 + cs.length := by
        rw [List.length_cons]
        omega
      rw [hlength] at hA ⊢
      unfold run at hA ⊢
      refine ih hcs ?_ hA
      have hle := run_le hcs (n / 2) (if n % 2 = 1 then r * c / scale else r)
      by_cases hbit : n % 2 = 1
      · rw [if_pos hbit] at hA hle ⊢
        rw [if_pos hbit]
        exact mul_div_mul_le hscale h (by omega)
      · rw [if_neg hbit, if_neg hbit]
        exact h.trans (Nat.mul_le_mul_left r (Nat.le_succ A))

/-- **A step of the exponent lowers the power by nearly the ratio of the
table.** As in `run_succ_le_of_descends`, the low ones of `m` have been
multiplied onto `r` already. -/
theorem run_succ_mul_le (hscale : 0 < scale) {cs : List Nat} (hcs : ∀ c ∈ cs, c ≤ scale)
    {m r : Nat} (hdrops : Drops scale A B cs r) (hm : m + 1 < 2 ^ cs.length)
    (hA : A + cs.length ≤ run scale cs m r) :
    run scale cs (m + 1) scale * B ≤ run scale cs m r * (A + cs.length) := by
  induction cs generalizing m r with
  | nil => simp at hm
  | cons c cs ih =>
      obtain ⟨hc, hdrops⟩ := hdrops
      have hrest : ∀ c ∈ cs, c ≤ scale := (List.forall_mem_cons.mp hcs).2
      rw [List.length_cons] at hm hA ⊢
      rw [Nat.pow_succ] at hm
      unfold run at hA ⊢
      have hmore : ∀ x, x * (A + cs.length) ≤ x * (A + (cs.length + 1)) :=
        fun x => Nat.mul_le_mul_left x (by omega)
      rcases Nat.mod_two_eq_zero_or_one m with heven | hodd
      · have hset : (m + 1) % 2 = 1 := by omega
        have hhalf : (m + 1) / 2 = m / 2 := by omega
        have hclear : ¬ m % 2 = 1 := by omega
        rw [if_neg hclear] at hA ⊢
        rw [if_pos hset, hhalf, Nat.mul_div_cancel_left _ hscale]
        exact (run_mul_le hscale hrest hc (by omega)).trans (hmore _)
      · have hclear : ¬ (m + 1) % 2 = 1 := by omega
        have hhalf : (m + 1) / 2 = m / 2 + 1 := by omega
        rw [if_pos hodd] at hA ⊢
        rw [if_neg hclear, hhalf]
        exact (ih hrest hdrops (by omega) (by omega)).trans (hmore _)

/-! ## The loop -/

/-- The loop over the table from index `k` on, with products in `w` bits. -/
def loop (w scale n k : Nat) (cs : List Nat) (r : Nat) : Nat :=
  (cs.zipIdx k).foldl
    (fun r ci => if n &&& 1 <<< ci.2 ≠ 0 then r * ci.1 % 2 ^ w / scale else r) r

/-- Bit `k` is set when the `k`-th half of `n` is odd. -/
theorem and_shiftLeft_ne_zero_iff (n k : Nat) : n &&& 1 <<< k ≠ 0 ↔ n / 2 ^ k % 2 = 1 := by
  rw [Nat.one_shiftLeft, Nat.and_two_pow, Nat.testBit_eq_decide_div_mod_eq]
  by_cases h : n / 2 ^ k % 2 = 1 <;> simp [h]

/-- The same loop, given up at the first product that leaves `w` bits. -/
def checkedLoop (w scale n k : Nat) (cs : List Nat) (r : Nat) : Option Nat :=
  (cs.zipIdx k).foldlM
    (fun r ci => if n &&& 1 <<< ci.2 ≠ 0 then (checkedMul w r ci.1).map (· / scale) else some r) r

theorem loop_of_checkedLoop {w n k r x : Nat} {cs : List Nat}
    (h : checkedLoop w scale n k cs r = some x) : loop w scale n k cs r = x := by
  induction cs generalizing k r with
  | nil => exact Option.some.inj h
  | cons c cs ih =>
      unfold checkedLoop at h
      rw [List.zipIdx_cons, List.foldlM_cons] at h
      obtain ⟨r', hr', h⟩ := Option.bind_eq_some_iff.mp h
      have hrest := ih h
      unfold loop at hrest ⊢
      rw [List.zipIdx_cons, List.foldl_cons]
      split_ifs at hr' ⊢ with hbit
      · obtain ⟨product, hproduct, rfl⟩ := Option.map_eq_some_iff.mp hr'
        obtain ⟨hfit, rfl⟩ := checkedMul_eq_some_iff.mp hproduct
        rw [Nat.mod_eq_of_lt hfit]
        exact hrest
      · obtain rfl := Option.some.inj hr'
        exact hrest

/-- With factors below the scale and a word that holds the square of the
scale, every product fits, and the loop is the product over the bits from
`k` on. -/
theorem checkedLoop_eq_run {w n k r : Nat} {cs : List Nat} (hcs : ∀ c ∈ cs, c < scale)
    (hw : scale * scale ≤ 2 ^ w) (hr : r ≤ scale) :
    checkedLoop w scale n k cs r = some (run scale cs (n / 2 ^ k) r) := by
  induction cs generalizing k r with
  | nil => rfl
  | cons c cs ih =>
      obtain ⟨hc, hcs⟩ := List.forall_mem_cons.mp hcs
      have hfit : r * c < 2 ^ w := by
        calc r * c ≤ scale * c := Nat.mul_le_mul_right c hr
          _ < scale * scale := Nat.mul_lt_mul_of_pos_left hc (by omega)
          _ ≤ 2 ^ w := hw
      have hle : r * c / scale ≤ scale := by
        refine Nat.div_le_of_le_mul ?_
        exact Nat.mul_le_mul hr hc.le
      have hhalf : n / 2 ^ (k + 1) = n / 2 ^ k / 2 := by
        rw [Nat.pow_succ, Nat.div_div_eq_div_mul]
      have hproduct := checkedMul_eq_some_iff.mpr ⟨hfit, rfl⟩
      unfold checkedLoop run
      rw [List.zipIdx_cons, List.foldlM_cons, ← hhalf]
      by_cases hbit : n / 2 ^ k % 2 = 1
      · rw [if_pos ((and_shiftLeft_ne_zero_iff n k).mpr hbit), if_pos hbit, hproduct]
        exact ih hcs hle
      · rw [if_neg ((and_shiftLeft_ne_zero_iff n k).not.mpr hbit), if_neg hbit]
        exact ih hcs hr

theorem loop_eq_run {w n k r : Nat} {cs : List Nat} (hcs : ∀ c ∈ cs, c < scale)
    (hw : scale * scale ≤ 2 ^ w) (hr : r ≤ scale) :
    loop w scale n k cs r = run scale cs (n / 2 ^ k) r :=
  loop_of_checkedLoop (checkedLoop_eq_run hcs hw hr)

end BinaryPower
