import BaseEngine.Lib.Fallible
import BaseEngine.RawTransaction

/-!
# Cutting the selector

The selector is the first eight bytes of the calldata's text. The cut is made
before anything is known about the characters: where the ninth byte is inside
a character the cut panics, and with it the decoding of the transaction.

`selector_eq_some_iff` says what is found, `selector_faults_iff` when the
cut panics. `selector_total_iff` puts them together for a transaction object.
-/

namespace BaseEngine

open Fallible Faulting Text Json

/-- The text of calldata that the selector is cut from. -/
def calldataText (input : String) : String := (stripPrefix "0x" (trim input)).getD (trim input)

/-- The text starts with eight hexadecimal digits. -/
structure StartsWithDigits (hex : String) (digits : List Char) : Prop where
  front : digits <+: hex.toList
  length : digits.length = 8
  hexdigits : ∀ c ∈ digits, isAsciiHexdigit c = true

/-- The text is shorter than eight bytes or has a character that ends there. -/
def Cuttable (hex : String) : Prop :=
  byteLength hex < 8 ∨ ∃ front rest, hex.toList = front ++ rest
    ∧ byteLength (String.ofList front) = 8

theorem StartsWithDigits.takeBytes_eq {hex : String} {digits : List Char}
    (h : StartsWithDigits hex digits) : takeBytes 8 hex.toList = some digits := by
  obtain ⟨rest, hrest⟩ := h.front
  refine takeBytes_eq_some_iff.mpr ⟨rest, hrest.symm, ?_⟩
  rw [byteLength_of_hexdigits h.hexdigits, h.length]

theorem startsWithDigits_of_takeBytes {hex : String} {digits : List Char}
    (h : takeBytes 8 hex.toList = some digits) (hall : digits.all isAsciiHexdigit = true) :
    StartsWithDigits hex digits := by
  obtain ⟨rest, hrest, hlength⟩ := takeBytes_eq_some_iff.mp h
  have hdigits := List.all_eq_true.mp hall
  rw [byteLength_of_hexdigits hdigits] at hlength
  exact ⟨⟨rest, hrest.symm⟩, hlength, hdigits⟩

/-- A cut after `n` bytes needs as many. -/
theorem le_byteLength_of_takeBytes {n : Nat} {hex : String} {front : List Char}
    (h : takeBytes n hex.toList = some front) : n ≤ byteLength hex := by
  obtain ⟨rest, hrest, hlength⟩ := takeBytes_eq_some_iff.mp h
  have happend := byteLength_append front rest
  rw [← hrest, String.ofList_toList] at happend
  omega

theorem cuttable_iff {hex : String} :
    Cuttable hex ↔ byteLength hex < 8 ∨ takeBytes 8 hex.toList ≠ none := by
  simp only [Cuttable, ← takeBytes_eq_some_iff, Option.ne_none_iff_exists']

namespace RawTransactionMessage

variable {message : RawTransactionMessage} {input : String}

/-- How the cut can end. -/
inductive Cut (hex : String) : Except Fault (Option String) → Prop where
  | short : byteLength hex < 8 → Cut hex (.ok none)
  | inside : 8 ≤ byteLength hex → takeBytes 8 hex.toList = none →
      Cut hex (.error .charBoundary)
  | digits {front : List Char} : StartsWithDigits hex front →
      Cut hex (.ok (some ("0x" ++ toAsciiLowercase (String.ofList front))))
  | other {front : List Char} : takeBytes 8 hex.toList = some front →
      front.all isAsciiHexdigit = false → Cut hex (.ok none)

theorem selector_cut (hinput : message.input = some input) :
    Cut (calldataText input) message.selector := by
  unfold selector
  rw [hinput]
  dsimp only
  rw [show (stripPrefix "0x" (trim input)).getD (trim input) = calldataText input from rfl]
  generalize calldataText input = hex
  by_cases hshort : byteLength hex < 8
  · rw [if_pos hshort]
    exact .short hshort
  · rw [if_neg hshort]
    cases hcut : takeBytes 8 hex.toList with
    | none => exact .inside (Nat.not_lt.mp hshort) hcut
    | some front =>
        dsimp only
        by_cases hall : front.all isAsciiHexdigit = true
        · rw [if_pos hall]
          exact .digits (startsWithDigits_of_takeBytes hcut hall)
        · rw [if_neg hall]
          exact .other hcut (Bool.eq_false_of_not_eq_true hall)

/-- What is found is eight digits at the front, in lower case; what follows
them does not matter. -/
theorem selector_eq_some_iff (hinput : message.input = some input) {s : String} :
    message.selector = .ok (some s)
      ↔ ∃ digits, StartsWithDigits (calldataText input) digits
        ∧ s = "0x" ++ toAsciiLowercase (String.ofList digits) := by
  have hcut := selector_cut hinput
  generalize message.selector = result at hcut ⊢
  constructor
  · rintro rfl
    cases hcut with
    | digits h => exact ⟨_, h, rfl⟩
  · rintro ⟨digits, hdigits, rfl⟩
    have htake := hdigits.takeBytes_eq
    cases hcut with
    | short h => exact absurd (le_byteLength_of_takeBytes htake) (Nat.not_le_of_lt h)
    | inside _ h => exact absurd (h.symm.trans htake) nofun
    | digits h => rw [Option.some.inj (h.takeBytes_eq.symm.trans htake)]
    | other h hall =>
        rw [Option.some.inj (h.symm.trans htake), List.all_eq_true.mpr hdigits.hexdigits] at hall
        cases hall

/-- The cut returns where a character ends. -/
theorem selector_returns_iff (hinput : message.input = some input) :
    (∃ result, message.selector = .ok result) ↔ Cuttable (calldataText input) := by
  have hcut := selector_cut hinput
  generalize message.selector = result at hcut
  rw [cuttable_iff]
  cases hcut with
  | short h => exact ⟨fun _ => .inl h, fun _ => ⟨_, rfl⟩⟩
  | inside hlong h =>
      refine ⟨nofun, ?_⟩
      rintro (hshort | hne)
      · omega
      · exact absurd h hne
  | digits h => exact ⟨fun _ => .inr (by simp [h.takeBytes_eq]), fun _ => ⟨_, rfl⟩⟩
  | other h _ => exact ⟨fun _ => .inr (by simp [h]), fun _ => ⟨_, rfl⟩⟩

/-- The cut panics inside a character, and without calldata there is none. -/
theorem selector_faults_iff :
    (∃ fault, message.selector = .error fault)
      ↔ ∃ input, message.input = some input ∧ ¬ Cuttable (calldataText input) := by
  cases hinput : message.input with
  | none =>
      have hselector : message.selector = .ok none := by
        unfold selector
        rw [hinput]
      rw [hselector]
      exact ⟨fun ⟨_, h⟩ => (nomatch h), fun ⟨_, h, _⟩ => (nomatch h)⟩
  | some input =>
      have hreturns := selector_returns_iff hinput
      cases hselector : message.selector with
      | ok result =>
          have hcut : Cuttable (calldataText input) := hreturns.mp ⟨result, hselector⟩
          refine ⟨fun ⟨_, h⟩ => (nomatch h), ?_⟩
          rintro ⟨input', hsame, hnot⟩
          obtain rfl := Option.some.inj hsame
          exact absurd hcut hnot
      | error fault =>
          refine ⟨fun _ => ⟨input, rfl, fun hcut => ?_⟩, fun _ => ⟨fault, rfl⟩⟩
          obtain ⟨result, hok⟩ := hreturns.mpr hcut
          rw [hselector] at hok
          cases hok

/-- Decoding does not fault on its own. -/
theorem decode_returns_iff (codec : CallCodec) :
    (∃ decoded, message.decode codec = .ok decoded)
      ↔ ∃ result, message.selector = .ok result := by
  unfold decode
  exact exists_bind_pure_eq_ok_iff

/-- **When the selector is total and exact.** For a transaction object with a
text in its `input`, the selector is found without a panic, is exactly the
eight digits at the front in lower case, and decoding does not panic, exactly
when the text is cuttable after eight bytes. -/
theorem selector_total_iff {object : Entries} {message : RawTransactionMessage}
    (hmessage : fromValue (.object object) = some message)
    (hinput : object.lookup "input" = some (.string input)) :
    ((∃ result, message.selector = .ok result)
        ∧ (∀ s, message.selector = .ok (some s)
          ↔ ∃ digits, StartsWithDigits (calldataText input) digits
            ∧ s = "0x" ++ toAsciiLowercase (String.ofList digits))
        ∧ ∀ codec, ∃ decoded, message.decode codec = .ok decoded)
      ↔ Cuttable (calldataText input) := by
  obtain rfl : ofObject object = message := Option.some.inj hmessage
  have hfield : (ofObject object).input = some input := by
    show stringField object "input" = _
    rw [stringField, hinput]
    rfl
  rw [← selector_returns_iff hfield]
  constructor
  · exact fun h => h.1
  · intro h
    exact ⟨h, fun s => selector_eq_some_iff hfield, fun codec => (decode_returns_iff codec).mpr h⟩

/-- A transaction that only carries calldata. -/
def inputObject (input : String) : Entries := [("input", .string input)]

/-- Blanks before the digits and a letter after the selector do no harm. -/
theorem paddedCalldata_total :
    fromValue (.object (inputObject " 0x38ED1739é")) = some (ofObject (inputObject " 0x38ED1739é"))
      ∧ ∀ codec, ∃ decoded,
        (ofObject (inputObject " 0x38ED1739é")).decode codec = .ok decoded := by
  have hcuttable : Cuttable (calldataText " 0x38ED1739é") :=
    cuttable_iff.mpr (.inr (by decide))
  exact ⟨rfl, ((selector_total_iff rfl rfl).mpr hcuttable).2.2⟩

/-- Seven digits and an accented letter: the eighth byte is inside it. -/
theorem accentedCalldata_faults :
    (ofObject (inputObject "0x1234567é")).selector = .error .charBoundary := by
  decide

end RawTransactionMessage

end BaseEngine
