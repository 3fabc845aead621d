import BaseEngine.Lib.Machine
import Mathlib.Algebra.GroupWithZero.Nat
import Mathlib.Data.List.Iterate

/-!
# Exponential backoff

The waits between the attempts of a retry loop on machine words: each is twice
the one before, clamped first to the word and then to a maximum. From a first
wait under the maximum the clamping to the word never shows, and the `k`-th wait
is `min (initial * 2 ^ k) max` (`iterate_next`).
-/

namespace Backoff

open Machine

/-- The wait that follows `wait`. -/
def next (w max wait : Nat) : Nat := min (saturatingMul w wait 2) max

theorem iterate_next {w initial max : Nat} (hinitial : initial ≤ max) (hmax : max < 2 ^ w)
    (k : Nat) : (next w max)^[k] initial = min (initial * 2 ^ k) max := by
  induction k with
  | zero => simp [hinitial]
  | succ k ih =>
      rw [Function.iterate_succ_apply', ih, pow_succ, ← Nat.mul_assoc]
      unfold next saturatingMul
      generalize initial * 2 ^ k = wait
      generalize 2 ^ w = words at hmax ⊢
      omega

/-- The first `n` waits. -/
def waits (w initial max n : Nat) : List Nat := List.iterate (next w max) initial n

theorem waits_eq_map {w initial max : Nat} (hinitial : initial ≤ max) (hmax : max < 2 ^ w)
    (n : Nat) : waits w initial max n = (List.range n).map fun k => min (initial * 2 ^ k) max := by
  unfold waits
  rw [← List.range_map_iterate]
  exact List.map_congr_left fun k _ => iterate_next hinitial hmax k

end Backoff
