import BaseEngine.Lib.Words
import Mathlib.Algebra.GroupWithZero.Nat
import Mathlib.Data.List.Basic

/-!
# Operations that a program does not check

A program on machine words mixes checked operations, which return an error,
with plain ones, which are right as long as their result is a word.
`Audited` is such a program over `Nat` together with the plain operations it
performs, in order, also those before an error.

`Computes prog x` says that the program returns `x` and that every operation
on the way is exact (`Op.Exact`): defined, and its result in unbounded
integers is a word of its width. The machine then computes what the numbers
say. The rules follow the program: `Computes.checked` for a checked step,
`Computes.div` and its siblings for a plain operation, `Computes.bind` and
`Computes.step` for what comes after.
-/

namespace Words.Operator

def apply : Operator → Nat → Nat → Nat
  | div, a, b => a / b
  | rem, a, b => a % b
  | sub, a, b => a - b
  | mul, a, b => a * b

/-- What the operands have to meet for the result to exist. -/
def Defined : Operator → Nat → Nat → Prop
  | div, _, b => 0 < b
  | rem, _, b => 0 < b
  | sub, a, b => b ≤ a
  | mul, _, _ => True

/-- Only a product leaves the words of its left operand. -/
theorem apply_le {operator : Operator} (h : operator ≠ mul) (a b : Nat) :
    operator.apply a b ≤ a := by
  cases operator with
  | div => exact Nat.div_le_self a b
  | rem => exact Nat.mod_le a b
  | sub => exact Nat.sub_le a b
  | mul => exact absurd rfl h

end Words.Operator

namespace Audit

open Words (Operator)

/-- One operation on words of `width` bits. -/
structure Op where
  operator : Operator
  width : Nat
  left : Nat
  right : Nat
deriving Repr, DecidableEq

namespace Op

def value (op : Op) : Nat := op.operator.apply op.left op.right

def Exact (op : Op) : Prop :=
  op.operator.Defined op.left op.right ∧ op.value < 2 ^ op.width

theorem exact_of_lt {operator : Operator} {w a b : Nat} (hop : operator ≠ .mul)
    (hdefined : operator.Defined a b) (ha : a < 2 ^ w) : (Op.mk operator w a b).Exact :=
  ⟨hdefined, Nat.lt_of_le_of_lt (Operator.apply_le hop a b) ha⟩

end Op

variable {ε α β : Type}

structure Audited (ε α : Type) where
  ops : List Op
  result : Except ε α

namespace Audited

instance : Monad (Audited ε) where
  pure a := { ops := [], result := .ok a }
  bind prog f :=
    { ops := prog.ops ++ (match prog.result with
        | .error _ => []
        | .ok a => (f a).ops),
      result := prog.result >>= fun a => (f a).result }

/-- A step that checks its operations. -/
def lift (x : Except ε α) : Audited ε α := { ops := [], result := x }

def perform (op : Op) : Audited ε Nat := { ops := [op], result := .ok op.value }

instance : Words ε (Audited ε) where
  checked := lift
  plain operator w a b := perform ⟨operator, w, a, b⟩

end Audited

/-- The program returns `x`, and so does the machine. -/
structure Computes (prog : Audited ε α) (x : Except ε α) : Prop where
  result_eq : prog.result = x
  exact_of_mem : ∀ op ∈ prog.ops, op.Exact

namespace Computes

variable {prog : Audited ε α} {x : Except ε α} {f : α → Audited ε β} {g : α → Except ε β}

protected theorem checked (x : Except ε α) :
    Computes (Words.checked x : Audited ε α) x :=
  ⟨rfl, nofun⟩

protected theorem pure (a : α) : Computes (Pure.pure a : Audited ε α) (.ok a) :=
  ⟨rfl, nofun⟩

protected theorem bind (hprog : Computes prog x) (hf : ∀ a, x = .ok a → Computes (f a) (g a)) :
    Computes (prog >>= f) (x >>= g) := by
  obtain ⟨ops, result⟩ := prog
  obtain ⟨rfl, hops⟩ := hprog
  cases result with
  | error e =>
      refine ⟨rfl, fun op hmem => ?_⟩
      rcases List.mem_append.mp hmem with hmem | hmem
      · exact hops op hmem
      · cases hmem
  | ok a =>
      have hcall := hf a rfl
      refine ⟨hcall.result_eq, fun op hmem => ?_⟩
      -- the operations of the step come before those of the rest
      rcases List.mem_append.mp hmem with hmem | hmem
      · exact hops op hmem
      · exact hcall.exact_of_mem op hmem

/-- A step whose value is known. -/
theorem step {a : α} {y : Except ε β} (hprog : Computes prog (.ok a)) (hf : Computes (f a) y) :
    Computes (prog >>= f) y := by
  refine Computes.bind (g := fun _ => y) hprog fun b hb => ?_
  obtain rfl := Except.ok.inj hb
  exact hf

theorem perform {op : Op} (h : op.Exact) :
    Computes (Audited.perform op : Audited ε Nat) (.ok op.value) := by
  refine ⟨rfl, fun op' hmem => ?_⟩
  obtain rfl := List.mem_singleton.mp hmem
  exact h

variable {w a b : Nat}

theorem div (hb : 0 < b) (ha : a < 2 ^ w) :
    Computes (Words.plain .div w a b : Audited ε Nat) (.ok (a / b)) :=
  perform (Op.exact_of_lt nofun hb ha)

theorem rem (hb : 0 < b) (ha : a < 2 ^ w) :
    Computes (Words.plain .rem w a b : Audited ε Nat) (.ok (a % b)) :=
  perform (Op.exact_of_lt nofun hb ha)

theorem sub (hb : b ≤ a) (ha : a < 2 ^ w) :
    Computes (Words.plain .sub w a b : Audited ε Nat) (.ok (a - b)) :=
  perform (Op.exact_of_lt nofun hb ha)

theorem mul (h : a * b < 2 ^ w) : Computes (Words.plain .mul w a b : Audited ε Nat) (.ok (a * b)) :=
  perform ⟨trivial, h⟩

end Computes

end Audit
