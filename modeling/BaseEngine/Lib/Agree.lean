import BaseEngine.Lib.Fallible

/-!
# Two fallible runs side by side

`Agree R x y` says that two computations fail together or succeed together,
with results related by `R`. Two programs are compared one step at a time:
`Agree.bind` where both take a step, `Agree.bind_right` where only the second
one goes on, and `agree_of_iff` where their steps do not correspond and only
the outcomes can be compared.
-/

namespace Fallible

variable {ε ε' α α' β β' : Type}

def Agree (R : α → β → Prop) : Except ε α → Except ε' β → Prop
  | .ok a, .ok b => R a b
  | .error _, .error _ => True
  | _, _ => False

theorem agree_error {R : α → β → Prop} (e : ε) (e' : ε') :
    Agree R (.error e) (.error e') := trivial

/-- A check that both make on what they share. -/
theorem agree_ite_error {R : α → β → Prop} {c : Prop} [Decidable c] {e : ε} {e' : ε'}
    {x : Except ε α} {y : Except ε' β} (h : ¬c → Agree R x y) :
    Agree R (if c then .error e else x) (if c then .error e' else y) := by
  by_cases hc : c
  · rw [if_pos hc, if_pos hc]
    exact agree_error e e'
  · rw [if_neg hc, if_neg hc]
    exact h hc

theorem agree_of_iff {R : α → β → Prop} {x : Except ε α} {y : Except ε' β}
    (hiff : (∃ a, x = .ok a) ↔ ∃ b, y = .ok b)
    (h : ∀ a b, x = .ok a → y = .ok b → R a b) : Agree R x y := by
  cases x with
  | error e =>
      cases y with
      | error e' => trivial
      | ok b =>
          obtain ⟨a, ha⟩ := hiff.mpr ⟨b, rfl⟩
          cases ha
  | ok a =>
      cases y with
      | error e' =>
          obtain ⟨b, hb⟩ := hiff.mp ⟨a, rfl⟩
          cases hb
      | ok b => exact h a b rfl rfl

theorem Agree.isOk_iff {R : α → β → Prop} {x : Except ε α} {y : Except ε' β}
    (h : Agree R x y) : (∃ a, x = .ok a) ↔ ∃ b, y = .ok b := by
  cases x <;> cases y <;> simp [Agree] at h ⊢

theorem Agree.of_ok {R : α → β → Prop} {x : Except ε α} {y : Except ε' β} {a : α} {b : β}
    (h : Agree R x y) (hx : x = .ok a) (hy : y = .ok b) : R a b := by
  subst hx hy
  exact h

theorem Agree.bind {R : α → β → Prop} {S : α' → β' → Prop} {x : Except ε α} {y : Except ε' β}
    {f : α → Except ε α'} {g : β → Except ε' β'} (h : Agree R x y)
    (hfg : ∀ a b, x = .ok a → y = .ok b → R a b → Agree S (f a) (g b)) :
    Agree S (x >>= f) (y >>= g) := by
  cases x with
  | error e =>
      cases y with
      | error e' => trivial
      | ok b => exact h.elim
  | ok a =>
      cases y with
      | error e' => exact h.elim
      | ok b => exact hfg a b rfl rfl h

theorem Agree.bind_right {R : α → β → Prop} {S : α → β' → Prop} {x : Except ε α}
    {y : Except ε' β} {g : β → Except ε' β'} (h : Agree R x y)
    (hg : ∀ a b, y = .ok b → R a b → Agree S (.ok a : Except ε α) (g b)) :
    Agree S x (y >>= g) := by
  cases x with
  | error e =>
      cases y with
      | error e' => trivial
      | ok b => exact h.elim
  | ok a =>
      cases y with
      | error e' => exact h.elim
      | ok b => exact hg a b rfl h

theorem Agree.mapError_right {R : α → β → Prop} {x : Except ε α} {y : Except ε' β}
    {ε₂ : Type} (f : ε' → ε₂) (h : Agree R x y) : Agree R x (y.mapError f) := by
  cases x <;> cases y <;> exact h

theorem Agree.mapError {R : α → β → Prop} {x : Except ε α} {y : Except ε' β}
    {ε₁ ε₂ : Type} (f : ε → ε₁) (g : ε' → ε₂) (h : Agree R x y) :
    Agree R (x.mapError f) (y.mapError g) := by
  cases x <;> cases y <;> exact h

end Fallible
