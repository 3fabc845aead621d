import Mathlib.Data.List.DropRight
import Mathlib.Data.List.Infix

/-!
# Streaks at the end of a history

`streak p l` is the number of elements at the end of `l` that satisfy `p`
one after the other. A history that stops growing when its streak reaches
`n` (`Stops`) has no longer run of such elements anywhere, and a run of `n`
at its end only.
-/

namespace Streak

variable {α : Type*} (p : α → Bool)

def streak (l : List α) : Nat := (l.rtakeWhile p).length

@[simp] theorem streak_nil : streak p [] = 0 := rfl

theorem streak_concat (l : List α) (a : α) :
    streak p (l ++ [a]) = if p a = true then streak p l + 1 else 0 := by
  unfold streak
  rw [List.rtakeWhile_concat]
  split <;> simp

variable {p}

/-- A run at the end is part of the streak. -/
theorem length_le_streak {l m : List α} (hm : ∀ a ∈ m, p a = true) :
    m.length ≤ streak p (l ++ m) := by
  induction m using List.reverseRecOn with
  | nil => exact Nat.zero_le _
  | append_singleton m a ih =>
      have hrest : ∀ b ∈ m, p b = true := fun b hb => hm b (List.mem_append_left _ hb)
      have ha : p a = true := hm a (List.mem_append_right _ (List.mem_singleton_self a))
      rw [← List.append_assoc, streak_concat, if_pos ha, List.length_append]
      exact Nat.succ_le_succ (ih hrest)

variable (p) in
/-- The streak has reached `n` at the end, if at all. -/
structure Stops (n : Nat) (l : List α) : Prop where
  before : ∀ pre, pre <+: l → pre ≠ l → streak p pre < n
  now : streak p l ≤ n

variable {n : Nat} {l m : List α}

theorem stops_nil (n : Nat) : Stops p n ([] : List α) :=
  ⟨fun _ hpre hne => absurd (List.prefix_nil.mp hpre) hne, Nat.zero_le n⟩

/-- The history grows while the streak is below the bound. -/
theorem Stops.concat (h : Stops p n l) (hlt : streak p l < n) (a : α) :
    Stops p n (l ++ [a]) := by
  constructor
  · intro pre hpre hne
    rcases List.prefix_concat_iff.mp hpre with rfl | hpre
    · exact absurd rfl hne
    · by_cases heq : pre = l
      · rw [heq]
        exact hlt
      · exact h.before pre hpre heq
  · rw [streak_concat]
    split
    · exact hlt
    · exact Nat.zero_le n

/-- A run in the history is shorter than the bound or part of the streak. -/
theorem Stops.length_lt_or_le (h : Stops p n l) (hm : ∀ a ∈ m, p a = true) (hpart : m <:+: l) :
    m.length < n ∨ m.length ≤ streak p l := by
  obtain ⟨front, back, rfl⟩ := hpart
  have hstreak : m.length ≤ streak p (front ++ m) := length_le_streak hm
  by_cases heq : front ++ m = front ++ m ++ back
  · rw [← heq]
    exact Or.inr hstreak
  · exact Or.inl (Nat.lt_of_le_of_lt hstreak (h.before _ (List.prefix_append _ _) heq))

/-- No run is longer than the bound. -/
theorem Stops.not_part (h : Stops p n l) (hm : ∀ a ∈ m, p a = true) (hlen : n < m.length) :
    ¬ m <:+: l := by
  intro hpart
  have hnow := h.now
  rcases h.length_lt_or_le hm hpart with hlt | hle <;> omega

/-- A run as long as the bound is the end of the history. -/
theorem Stops.streak_eq (h : Stops p n l) (hm : ∀ a ∈ m, p a = true) (hlen : m.length = n)
    (hpart : m <:+: l) : streak p l = n := by
  have hnow := h.now
  rcases h.length_lt_or_le hm hpart with hlt | hle <;> omega

end Streak
