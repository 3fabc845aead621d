import Mathlib.Data.Nat.Basic

/-!
# Programs on machine words

A program on machine words mixes checked steps, which return an error, with
plain operations on words, which its author believes to be right. A program over
`Words` is written once and read in as many ways as there are instances:
`Lib.Faulting` stops at an operation without a result, `Lib.Audit` puts every
plain operation on record.
-/

namespace Words

inductive Operator where
  | div
  | rem
  | sub
  | mul
deriving Repr, DecidableEq

end Words

/-- Checked steps, and plain operations on words of a width in bits. -/
class Words (ε : outParam Type) (m : Type → Type) where
  checked {α : Type} : Except ε α → m α
  plain : Words.Operator → Nat → Nat → Nat → m Nat
