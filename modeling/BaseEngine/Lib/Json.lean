import BaseEngine.Lib.OrderedMap
import BaseEngine.Lib.Text

/-!
# JSON values

A parsed JSON document. An object is the list of its entries in key order,
as a tree map holds them; `OrderedMap` itself cannot stand here because its
proof field would mention the type being defined.
-/

namespace Json

/-- A number as the parser classifies it: an integer that is not negative,
a negative one, or a literal with a fraction or an exponent, as it is
printed back. -/
inductive Number where
  | posInt (n : Nat)
  | negInt (n : Int)
  | float (literal : String)
deriving Repr, DecidableEq

inductive Value where
  | null
  | bool (b : Bool)
  | number (n : Number)
  | string (s : String)
  | array (items : List Value)
  | object (entries : List (String × Value))
deriving Repr

abbrev Entries := List (String × Value)

namespace Value

def asStr : Value → Option String
  | .string s => some s
  | _ => none

def asBool : Value → Option Bool
  | .bool b => some b
  | _ => none

def asArray : Value → Option (List Value)
  | .array items => some items
  | _ => none

def asObject : Value → Option Entries
  | .object entries => some entries
  | _ => none

/-- The field of an object; other values have none. -/
def get (value : Value) (key : String) : Option Value :=
  value.asObject.bind (List.lookup key)

end Value

/-! ## Serialised size

The bytes a compact printer writes, without white space. -/

def Number.encodedLen : Number → Nat
  | .posInt n => (Nat.toDigits 10 n).length
  | .negInt n => 1 + (Nat.toDigits 10 n.natAbs).length
  | .float literal => literal.utf8ByteSize

/-- Quote, backslash and the control characters are escaped, five of the
latter by a letter and the rest by `\u` with four digits. -/
def escapedLen (c : Char) : Nat :=
  if c = '"' ∨ c = '\\' ∨ c.toNat ∈ [0x08, 0x09, 0x0A, 0x0C, 0x0D] then 2
  else if c.toNat < 0x20 then 6
  else c.utf8Size

def quotedLen (s : String) : Nat := 2 + (s.toList.map escapedLen).sum

mutual

def Value.encodedLen : Value → Nat
  | .null => 4
  | .bool b => if b then 4 else 5
  | .number n => n.encodedLen
  | .string s => quotedLen s
  | .array items => 2 + (items.length - 1) + itemsLen items
  | .object entries => 2 + (entries.length - 1) + entriesLen entries

def itemsLen : List Value → Nat
  | [] => 0
  | value :: rest => value.encodedLen + itemsLen rest

def entriesLen : List (String × Value) → Nat
  | [] => 0
  | entry :: rest => entryLen entry + entriesLen rest

def entryLen : String × Value → Nat
  | (key, value) => quotedLen key + 1 + value.encodedLen

end

example : (Value.object [("a", .array [.null, .bool true]), ("b", .string "x\n")]).encodedLen
    = 27 := by decide

/-! ## Compact text

What such a printer writes. Entries come in the order in which they are
listed, so a record that is written field by field is an object too. -/

def Number.text : Number → List Char
  | .posInt n => Nat.toDigits 10 n
  | .negInt n => '-' :: Nat.toDigits 10 n.natAbs
  | .float literal => literal.toList

def escape (c : Char) : List Char :=
  if c = '"' ∨ c = '\\' then ['\\', c]
  else if c.toNat = 0x08 then ['\\', 'b']
  else if c.toNat = 0x09 then ['\\', 't']
  else if c.toNat = 0x0A then ['\\', 'n']
  else if c.toNat = 0x0C then ['\\', 'f']
  else if c.toNat = 0x0D then ['\\', 'r']
  else if c.toNat < 0x20 then ['\\', 'u'] ++ Text.hexDigits 4 c.toNat
  else [c]

def quoted (s : String) : List Char := '"' :: s.toList.flatMap escape ++ ['"']

mutual

def Value.text : Value → List Char
  | .null => "null".toList
  | .bool b => (if b then "true" else "false").toList
  | .number n => n.text
  | .string s => quoted s
  | .array items => '[' :: [','].intercalate (itemTexts items) ++ [']']
  | .object entries => '\x7b' :: [','].intercalate (entryTexts entries) ++ ['\x7d']

def itemTexts : List Value → List (List Char)
  | [] => []
  | value :: rest => value.text :: itemTexts rest

def entryTexts : List (String × Value) → List (List Char)
  | [] => []
  | entry :: rest => entryText entry :: entryTexts rest

def entryText : String × Value → List Char
  | (key, value) => quoted key ++ ':' :: value.text

end

example : String.ofList
    (Value.object [("a", .array [.null, .bool true]), ("b", .string "x\n")]).text
    = "\x7b\"a\":[null,true],\"b\":\"x\\n\"\x7d" := by decide

/-- What stands before and after one of the joined texts does not depend on it. -/
theorem exists_intercalate_frame {α : Type} (sep : List α) (front back : List (List α)) :
    ∃ before after, ∀ middle,
      sep.intercalate (front ++ middle :: back) = before ++ middle ++ after := by
  induction front with
  | nil =>
      cases back with
      | nil => exact ⟨[], [], fun middle => by simp⟩
      | cons next rest =>
          exact ⟨[], sep ++ sep.intercalate (next :: rest), fun middle => by simp⟩
  | cons first front ih =>
      obtain ⟨before, after, h⟩ := ih
      refine ⟨first ++ sep ++ before, after, fun middle => ?_⟩
      rw [List.cons_append, List.intercalate_cons_of_ne_nil (by simp), h]
      simp only [List.append_assoc]

theorem entryTexts_append (front back : Entries) :
    entryTexts (front ++ back) = entryTexts front ++ entryTexts back := by
  induction front with
  | nil => rw [entryTexts, List.nil_append, List.nil_append]
  | cons entry front ih => rw [List.cons_append, entryTexts, entryTexts, ih, List.cons_append]

/-- The text of an object around the value of one of its fields. -/
theorem exists_text_frame (front back : Entries) (key : String) :
    ∃ before after, ∀ value,
      (Value.object (front ++ (key, value) :: back)).text = before ++ value.text ++ after := by
  obtain ⟨before, after, h⟩ :=
    exists_intercalate_frame [','] (entryTexts front) (entryTexts back)
  refine ⟨'\x7b' :: before ++ quoted key ++ [':'], after ++ ['\x7d'], fun value => ?_⟩
  rw [Value.text, entryTexts_append, entryTexts, entryText, h]
  simp

/-! ## Fields -/

def Number.asU64 : Number → Option Nat
  | .posInt n => some n
  | _ => none

/-- The entry is added unless the key is present, whatever its value. -/
def entryOrInsert (key : String) (value : Value) (entries : Entries) : Entries :=
  if (entries.lookup key).isSome then entries
  else OrderedMap.insertEntry key value entries

theorem lookup_entryOrInsert_self (key : String) (value : Value) (entries : Entries) :
    (entryOrInsert key value entries).lookup key
      = some ((entries.lookup key).getD value) := by
  unfold entryOrInsert
  cases h : entries.lookup key with
  | some v => rw [if_pos Option.isSome_some, h]; rfl
  | none =>
      rw [if_neg (by simp), OrderedMap.lookup_insertEntry_self]
      rfl

theorem lookup_entryOrInsert_of_ne {key other : String} (value : Value)
    (entries : Entries) (h : other ≠ key) :
    (entryOrInsert key value entries).lookup other = entries.lookup other := by
  unfold entryOrInsert
  split_ifs
  · rfl
  · exact OrderedMap.lookup_insertEntry_of_ne value h entries

end Json
