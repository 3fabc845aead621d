import Mathlib.Data.Option.Basic

/-!
# Fallible computations

`Option` and `Except` as a program with early returns uses them: turning
an absent value into an error (`okOr`), and the inversion of a sequence
that succeeded. Proofs peel a computation apart with `bind_eq_ok_iff`
and `obtain`, one step of the program at a time.
-/

namespace Fallible

variable {ε α β : Type}

/-- The value, or the error `e` when there is none. -/
def okOr (o : Option α) (e : ε) : Except ε α :=
  match o with
  | some a => .ok a
  | none => .error e

@[simp] theorem okOr_some (a : α) (e : ε) : okOr (some a) e = .ok a := rfl

@[simp] theorem okOr_none (e : ε) : okOr (none : Option α) e = .error e := rfl

theorem okOr_eq_ok_iff {o : Option α} {e : ε} {a : α} : okOr o e = .ok a ↔ o = some a := by
  cases o <;> simp

theorem okOr_eq_ok {o : Option α} {e : ε} {a : α} (h : okOr o e = .ok a) : o = some a :=
  okOr_eq_ok_iff.mp h

theorem okOr_eq_error {o : Option α} {e e' : ε} (h : okOr o e = .error e') : e' = e := by
  cases o with
  | none => exact (Except.error.inj h).symm
  | some a => cases h

@[simp] theorem ok_bind (a : α) (f : α → Except ε β) :
    (Except.ok a >>= f) = f a := rfl

@[simp] theorem error_bind (e : ε) (f : α → Except ε β) :
    (Except.error e >>= f) = .error e := rfl

theorem bind_eq_ok_iff {x : Except ε α} {f : α → Except ε β} {b : β} :
    (x >>= f) = .ok b ↔ ∃ a, x = .ok a ∧ f a = .ok b := by
  cases x <;> simp

/-- A value returned after a check. -/
theorem check_bind_eq_ok {check : Except ε Unit} {a b : α}
    (h : (check >>= fun _ => (pure a : Except ε α)) = .ok b) : check = .ok () ∧ a = b := by
  obtain ⟨u, hcheck, hret⟩ := bind_eq_ok_iff.mp h
  exact ⟨hcheck, Except.ok.inj hret⟩

/-- A check before a value. -/
theorem bind_ok_eq_map (check : Except ε Unit) (b : β) :
    (check >>= fun _ => .ok b) = check.map fun _ => b := by
  cases check with
  | ok _ => rfl
  | error e => rfl

/-- A step that only computes on leaves it open whether there is a value. -/
theorem exists_bind_pure_eq_ok_iff {x : Except ε α} {f : α → β} :
    (∃ b, (x >>= fun a => (pure (f a) : Except ε β)) = .ok b) ↔ ∃ a, x = .ok a := by
  cases x with
  | error e => exact ⟨nofun, nofun⟩
  | ok a => exact ⟨fun _ => ⟨a, rfl⟩, fun _ => ⟨f a, rfl⟩⟩

theorem okOr_bind_eq_ok_iff {o : Option α} {e : ε} {f : α → Except ε β} {b : β} :
    (okOr o e >>= f) = .ok b ↔ ∃ a, o = some a ∧ f a = .ok b := by
  cases o <;> simp

theorem bind_eq_error {x : Except ε α} {f : α → Except ε β} {e : ε}
    (h : (x >>= f) = .error e) : x = .error e ∨ ∃ a, x = .ok a ∧ f a = .error e := by
  cases x with
  | error e' => exact Or.inl (by rw [error_bind] at h; rw [Except.error.inj h])
  | ok a => exact Or.inr ⟨a, rfl, h⟩

theorem mapError_eq_ok_iff {ε' : Type} {f : ε → ε'} {x : Except ε α} {a : α} :
    x.mapError f = .ok a ↔ x = .ok a := by
  cases x <;> simp [Except.mapError]

theorem toOption_eq_some {x : Except ε α} {a : α} (h : x.toOption = some a) :
    x = .ok a := by
  cases x with
  | error e => cases h
  | ok b => rw [Option.some.inj h]

theorem isOk_iff {x : Except ε α} : x.isOk = true ↔ ∃ a, x = .ok a := by
  cases x <;> simp [Except.isOk, Except.toBool]

end Fallible
