import Mathlib.Data.List.Induction
import BaseEngine.Lib.Keccak

/-!
# The contract ABI in words

Values of static types take a word of 32 bytes each: numbers and addresses
are extended with zeros, signed numbers with their sign (`ofUint`, `ofInt`),
and the bytes of a word stand most significant first. An event's indexed
parameters are words of their own, after the Keccak hash of its signature;
the others are laid out one after the other (`EventLayout`). Calldata starts
with four bytes of such a hash (`CallLayout`).

`EventLayout.decode_encode`, `CallLayout.decode_encode`: the decoder of a
layout undoes its encoder.
-/

namespace Abi

/-! ## Bytes -/

/-- The `width` bytes of a number, most significant first. -/
def toBeBytes : Nat → Nat → List UInt8
  | 0, _ => []
  | width + 1, n => toBeBytes width (n / 256) ++ [UInt8.ofNat (n % 256)]

/-- The big-endian value of some bytes. -/
def ofBeBytes (bytes : List UInt8) : Nat :=
  bytes.foldl (fun value byte => value * 256 + byte.toNat) 0

@[simp] theorem length_toBeBytes (width n : Nat) : (toBeBytes width n).length = width := by
  induction width generalizing n with
  | zero => rfl
  | succ width ih => simp [toBeBytes, ih]

theorem ofBeBytes_append (bytes : List UInt8) (byte : UInt8) :
    ofBeBytes (bytes ++ [byte]) = ofBeBytes bytes * 256 + byte.toNat := by
  simp [ofBeBytes]

theorem ofBeBytes_toBeBytes (width n : Nat) : ofBeBytes (toBeBytes width n) = n % 256 ^ width := by
  induction width generalizing n with
  | zero => simp [toBeBytes, ofBeBytes, Nat.mod_one]
  | succ width ih =>
      have hlow : (UInt8.ofNat (n % 256)).toNat = n % 256 := by simp
      rw [toBeBytes, ofBeBytes_append, ih, hlow, Nat.pow_succ', Nat.mod_mul]
      omega

/-- Bytes are written back from their value. -/
theorem toBeBytes_ofBeBytes (bytes : List UInt8) :
    toBeBytes bytes.length (ofBeBytes bytes) = bytes := by
  induction bytes using List.reverseRecOn with
  | nil => rfl
  | append_singleton bytes byte ih =>
      have hbyte : byte.toNat < 256 := byte.toNat_lt
      have hdiv : (ofBeBytes bytes * 256 + byte.toNat) / 256 = ofBeBytes bytes := by omega
      have hmod : (ofBeBytes bytes * 256 + byte.toNat) % 256 = byte.toNat := by omega
      rw [List.length_append, List.length_singleton, toBeBytes, ofBeBytes_append, hdiv, hmod, ih,
        UInt8.ofNat_toNat]

/-- A value is read back from its bytes. -/
theorem ofNat_ofBeBytes {bits width : Nat} (h : 2 ^ bits = 256 ^ width) (value : BitVec bits) :
    BitVec.ofNat bits (ofBeBytes (toBeBytes width value.toNat)) = value := by
  have hlt : value.toNat < 256 ^ width := h ▸ value.isLt
  rw [ofBeBytes_toBeBytes, Nat.mod_eq_of_lt hlt, BitVec.ofNat_toNat, BitVec.setWidth_eq]

/-! ## Words -/

def encodeWords (words : List (BitVec 256)) : List UInt8 :=
  words.flatMap fun word => toBeBytes 32 word.toNat

/-- So many words and nothing after them. -/
def splitWords : Nat → List UInt8 → Option (List (BitVec 256))
  | 0, bytes => if bytes = [] then some [] else none
  | count + 1, bytes => do
      let rest ← splitWords count (bytes.drop 32)
      return BitVec.ofNat 256 (ofBeBytes (bytes.take 32)) :: rest

def decodeWords (bytes : List UInt8) : Option (List (BitVec 256)) :=
  splitWords (bytes.length / 32) bytes

theorem length_encodeWords (words : List (BitVec 256)) :
    (encodeWords words).length = words.length * 32 := by
  induction words with
  | nil => rfl
  | cons word words ih =>
      rw [encodeWords, List.flatMap_cons, List.length_append, length_toBeBytes]
      rw [encodeWords] at ih
      rw [ih, List.length_cons]
      omega

theorem splitWords_encodeWords (words : List (BitVec 256)) :
    splitWords words.length (encodeWords words) = some words := by
  induction words with
  | nil => rfl
  | cons word words ih =>
      have htake : (encodeWords (word :: words)).take 32 = toBeBytes 32 word.toNat := by
        rw [encodeWords, List.flatMap_cons]
        exact List.take_left' (length_toBeBytes 32 _)
      have hdrop : (encodeWords (word :: words)).drop 32 = encodeWords words := by
        rw [encodeWords, List.flatMap_cons]
        exact List.drop_left' (length_toBeBytes 32 _)
      rw [List.length_cons, splitWords, htake, hdrop, ih, ofNat_ofBeBytes (by decide +kernel)]
      rfl

theorem decodeWords_encodeWords (words : List (BitVec 256)) :
    decodeWords (encodeWords words) = some words := by
  rw [decodeWords, length_encodeWords, Nat.mul_div_cancel _ (by decide), splitWords_encodeWords]

/-! ## Values of a word -/

variable {n : Nat}

def ofUint (value : BitVec n) : BitVec 256 := value.setWidth 256

def ofInt (value : BitVec n) : BitVec 256 := value.signExtend 256

/-- The value of a word that `ofUint` may have written. -/
def toUint (n : Nat) (word : BitVec 256) : Option (BitVec n) :=
  if ofUint (word.setWidth n) = word then some (word.setWidth n) else none

def toInt (n : Nat) (word : BitVec 256) : Option (BitVec n) :=
  if ofInt (word.setWidth n) = word then some (word.setWidth n) else none

theorem toUint_ofUint (hn : n ≤ 256) (value : BitVec n) : toUint n (ofUint value) = some value := by
  have hback : (ofUint value).setWidth n = value := by
    rw [ofUint, BitVec.setWidth_setWidth_of_le _ hn, BitVec.setWidth_eq]
  rw [toUint, hback, if_pos rfl]

theorem toInt_ofInt (hn : n ≤ 256) (value : BitVec n) : toInt n (ofInt value) = some value := by
  have hback : (ofInt value).setWidth n = value := by
    ext i hi
    have hi' : i < 256 := by omega
    simp [ofInt, BitVec.getElem_signExtend, hi, hi']
  rw [toInt, hback, if_pos rfl]

/-! ## Events -/

/-- Where the parameters of an event go, and how they are put together
again. -/
structure EventLayout (event : Type) where
  signature : String
  indexed : event → List (BitVec 256)
  unindexed : event → List (BitVec 256)
  rebuild : List (BitVec 256) → List (BitVec 256) → Option event
  rebuild_eq : ∀ e, rebuild (indexed e) (unindexed e) = some e

namespace EventLayout

variable {event : Type} (layout : EventLayout event)

/-- The Keccak hash of the signature. -/
def topic0 : BitVec 256 := Keccak.digest layout.signature.toUTF8.data.toList

def topics (e : event) : List (BitVec 256) := layout.topic0 :: layout.indexed e

def data (e : event) : List UInt8 := encodeWords (layout.unindexed e)

def decode (topics : List (BitVec 256)) (data : List UInt8) : Option event :=
  match topics with
  | [] => none
  | topic :: rest =>
      if topic = layout.topic0 then (decodeWords data).bind (layout.rebuild rest) else none

theorem decode_encode (e : event) : layout.decode (layout.topics e) (layout.data e) = some e := by
  rw [topics, data, decode, if_pos rfl, decodeWords_encodeWords, Option.bind_some,
    layout.rebuild_eq]

end EventLayout

/-! ## Calls -/

/-- Bytes filled up with zeros to whole words. -/
def padBytes (bytes : List UInt8) : List UInt8 :=
  bytes ++ List.replicate ((32 - bytes.length % 32) % 32) 0

theorem mapM_toUint_map_ofUint (hn : n ≤ 256) (values : List (BitVec n)) :
    (values.map ofUint).mapM (toUint n) = some values := by
  induction values with
  | nil => rfl
  | cons value values ih => simp [toUint_ofUint hn, ih]

/-- The arguments of a function, and how they are put together again. -/
structure CallLayout (call : Type) where
  signature : String
  encodeArgs : call → List UInt8
  decodeArgs : List UInt8 → Option call
  decodeArgs_eq : ∀ c, decodeArgs (encodeArgs c) = some c

namespace CallLayout

variable {call : Type} (layout : CallLayout call)

/-- The first four bytes of the Keccak hash of the signature. -/
def selector : List UInt8 :=
  (toBeBytes 32 (Keccak.digest layout.signature.toUTF8.data.toList).toNat).take 4

theorem length_selector : layout.selector.length = 4 := by
  simp [selector]

def encode (c : call) : List UInt8 := layout.selector ++ layout.encodeArgs c

def decode (calldata : List UInt8) : Option call :=
  if calldata.take 4 = layout.selector then layout.decodeArgs (calldata.drop 4) else none

theorem decode_encode (c : call) : layout.decode (layout.encode c) = some c := by
  have htake : (layout.encode c).take 4 = layout.selector := List.take_left' layout.length_selector
  have hdrop : (layout.encode c).drop 4 = layout.encodeArgs c :=
    List.drop_left' layout.length_selector
  rw [decode, if_pos htake, hdrop, layout.decodeArgs_eq]

end CallLayout

end Abi
