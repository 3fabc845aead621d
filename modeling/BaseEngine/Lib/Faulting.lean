import BaseEngine.Lib.Words
import Mathlib.Algebra.GroupWithZero.Nat

/-!
# Arithmetic that can fault

A machine program divides and subtracts without a check where its author
believes that none is needed. `Nat` hides a wrong belief: `a / 0` and
`a - b` are defined for all operands. Here the operations fault
(`div`, `rem`, `sub`), so that a program written with them shows every operand it
relies on. Text that is cut inside a character faults too.

A program that cannot fault is `returns x` for the `x` that the same program
computes with the operations of `Nat`. `bind_returns` carries this through
the steps that return an error on their own; `div_eq_returns` and its
siblings discharge the others.
-/

namespace Faulting

inductive Fault where
  | divisionByZero
  | subtractionUnderflow
  | charBoundary
deriving Repr, DecidableEq

/-- Computations that return a value or an error, or fault. -/
abbrev Program (ε : Type) := ExceptT ε (Except Fault)

variable {ε α β : Type}

def fault (f : Fault) : Program ε α := ExceptT.mk (.error f)

/-- A step that does not fault. -/
def returns (x : Except ε α) : Program ε α := ExceptT.mk (.ok x)

def div (a b : Nat) : Program ε Nat :=
  if b = 0 then fault .divisionByZero else returns (.ok (a / b))

def rem (a b : Nat) : Program ε Nat :=
  if b = 0 then fault .divisionByZero else returns (.ok (a % b))

def sub (a b : Nat) : Program ε Nat :=
  if a < b then fault .subtractionUnderflow else returns (.ok (a - b))

/-- Products wrap. -/
instance : Words ε (Program ε) where
  checked := returns
  plain
    | .div, _, a, b => div a b
    | .rem, _, a, b => rem a b
    | .sub, _, a, b => sub a b
    | .mul, w, a, b => returns (.ok (a * b % 2 ^ w))

theorem returns_inj {x y : Except ε α} : returns x = returns y ↔ x = y :=
  ⟨Except.ok.inj, congrArg _⟩

theorem returns_ne_fault (x : Except ε α) (f : Fault) : returns x ≠ fault f := nofun

theorem div_eq_returns {a b : Nat} (h : 0 < b) :
    (div a b : Program ε Nat) = returns (.ok (a / b)) := by
  unfold div
  rw [if_neg (Nat.pos_iff_ne_zero.mp h)]

theorem rem_eq_returns {a b : Nat} (h : 0 < b) :
    (rem a b : Program ε Nat) = returns (.ok (a % b)) := by
  unfold rem
  rw [if_neg (Nat.pos_iff_ne_zero.mp h)]

theorem sub_eq_returns {a b : Nat} (h : b ≤ a) :
    (sub a b : Program ε Nat) = returns (.ok (a - b)) := by
  unfold sub
  rw [if_neg (Nat.not_lt.mpr h)]

theorem plain_div {w a b : Nat} (h : 0 < b) :
    (Words.plain .div w a b : Program ε Nat) = returns (.ok (a / b)) := div_eq_returns h

theorem plain_rem {w a b : Nat} (h : 0 < b) :
    (Words.plain .rem w a b : Program ε Nat) = returns (.ok (a % b)) := rem_eq_returns h

theorem plain_sub {w a b : Nat} (h : b ≤ a) :
    (Words.plain .sub w a b : Program ε Nat) = returns (.ok (a - b)) := sub_eq_returns h

theorem plain_mul (w a b : Nat) :
    (Words.plain .mul w a b : Program ε Nat) = returns (.ok (a * b % 2 ^ w)) := rfl

@[simp] theorem returns_ok_bind (a : α) (f : α → Program ε β) :
    (returns (.ok a) >>= f) = f a := rfl

@[simp] theorem returns_error_bind (e : ε) (f : α → Program ε β) :
    (returns (.error e) >>= f) = returns (.error e) := rfl

/-- A step that does not fault, followed by a program that does not on any
of its values. -/
theorem bind_returns {x : Except ε α} {f : α → Program ε β} {g : α → Except ε β}
    (h : ∀ a, x = .ok a → f a = returns (g a)) :
    (returns x >>= f) = returns (x >>= g) := by
  cases x with
  | error e => rfl
  | ok a => exact h a rfl

end Faulting
