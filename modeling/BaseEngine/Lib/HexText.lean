import BaseEngine.Lib.Text

/-!
# Bytes as hexadecimal text

Two digits a byte, in either case (`Spells`). A text of digits has nothing
to trim and only characters of one byte, so that cutting it after a number
of bytes cuts it after as many characters.

`Spells.hexBytes_eq`: the bytes are read back. `Spells.take`: the first digits
spell the first bytes.
-/

namespace Text

/-- Bytes in lower-case hexadecimal. -/
def lowerHexBytes (bytes : List UInt8) : String :=
  String.ofList (bytes.flatMap fun byte => hexDigits 2 byte.toNat)

/-- The text spells the bytes, in digits of either case. -/
def Spells (text : String) (bytes : List UInt8) : Prop :=
  toAsciiLowercase text = lowerHexBytes bytes

/-! ## Characters and bytes of a text -/

/-- The length of a text in UTF-8. -/
def byteLength (s : String) : Nat := (s.toList.map Char.utf8Size).sum

/-- The characters that fill the first `n` bytes, if `n` is where one
ends. -/
def takeBytes : Nat → List Char → Option (List Char)
  | 0, _ => some []
  | _ + 1, [] => none
  | n + 1, c :: cs =>
      if c.utf8Size ≤ n + 1 then (takeBytes (n + 1 - c.utf8Size) cs).map (c :: ·) else none

/-- The text between two byte positions, if both are where a character
ends. -/
def sliceBytes (s : String) (start stop : Nat) : Option String := do
  let front ← takeBytes start s.toList
  let slice ← takeBytes (stop - start) (s.toList.drop front.length)
  return String.ofList slice

theorem byteLength_append (cs cs' : List Char) :
    byteLength (String.ofList (cs ++ cs'))
      = byteLength (String.ofList cs) + byteLength (String.ofList cs') := by
  simp [byteLength]

theorem byteLength_cons (c : Char) (cs : List Char) :
    byteLength (String.ofList (c :: cs)) = c.utf8Size + byteLength (String.ofList cs) := by
  simp [byteLength]

theorem takeBytes_append (front rest : List Char) :
    takeBytes (byteLength (String.ofList front)) (front ++ rest) = some front := by
  induction front with
  | nil => rw [show byteLength (String.ofList []) = 0 from rfl, takeBytes]
  | cons c front ih =>
      obtain ⟨k, hk⟩ : ∃ k, byteLength (String.ofList (c :: front)) = k + 1 :=
        Nat.exists_eq_succ_of_ne_zero (by
          have := c.utf8Size_pos
          rw [byteLength_cons]
          omega)
      have hrest : k + 1 - c.utf8Size = byteLength (String.ofList front) := by
        rw [← hk, byteLength_cons]
        omega
      rw [hk, List.cons_append, takeBytes, if_pos (by rw [← hk, byteLength_cons]; omega), hrest,
        ih, Option.map_some]

/-- A cut after `n` bytes is a split of the text whose front fills them. -/
theorem takeBytes_eq_some_iff {n : Nat} {cs front : List Char} :
    takeBytes n cs = some front
      ↔ ∃ rest, cs = front ++ rest ∧ byteLength (String.ofList front) = n := by
  constructor
  · induction n, cs using takeBytes.induct generalizing front with
    | case1 cs =>
        intro h
        rw [takeBytes] at h
        obtain rfl := Option.some.inj h
        exact ⟨cs, rfl, rfl⟩
    | case2 n => rintro ⟨⟩
    | case3 n c cs hle ih =>
        intro h
        rw [takeBytes, if_pos hle] at h
        obtain ⟨front, hfront, rfl⟩ := Option.map_eq_some_iff.mp h
        obtain ⟨rest, rfl, hlength⟩ := ih hfront
        refine ⟨rest, rfl, ?_⟩
        rw [byteLength_cons, hlength]
        omega
    | case4 n c cs hlong =>
        intro h
        rw [takeBytes, if_neg hlong] at h
        cases h
  · rintro ⟨rest, rfl, rfl⟩
    exact takeBytes_append front rest

/-- After a front that fills the first bytes, a slice is a cut of the rest. -/
theorem sliceBytes_append {s : String} {front rest : List Char} {start : Nat} (width : Nat)
    (hs : s.toList = front ++ rest) (hstart : byteLength (String.ofList front) = start) :
    sliceBytes s start (start + width) = (takeBytes width rest).map String.ofList := by
  have htake : takeBytes start s.toList = some front :=
    takeBytes_eq_some_iff.mpr ⟨rest, hs, hstart⟩
  rw [sliceBytes, htake, Option.bind_eq_bind, Option.bind_some, hs, List.drop_left,
    Nat.add_sub_cancel_left]
  cases takeBytes width rest <;> rfl

theorem utf8Size_of_digitIn {radix : Nat} {c : Char} (h : (digitIn radix c).isSome = true) :
    c.utf8Size = 1 := by
  obtain ⟨d, hd⟩ := Option.isSome_iff_exists.mp h
  rw [Char.utf8Size_eq_one_iff]
  exact Nat.le_of_lt_succ (toNat_lt_of_digitIn hd)

theorem isWhitespace_of_digitIn {c : Char} (h : (digitIn 16 c).isSome = true) :
    isWhitespace c = false := by
  have hascii : ∀ n < 128, (digitIn 16 (Char.ofNat n)).isSome = true →
      isWhitespace (Char.ofNat n) = false := by decide
  obtain ⟨d, hd⟩ := Option.isSome_iff_exists.mp h
  have hc := hascii c.toNat (toNat_lt_of_digitIn hd)
  rw [Char.ofNat_toNat] at hc
  exact hc h

theorem byteLength_of_digits {radix : Nat} {s : String}
    (h : ∀ c ∈ s.toList, (digitIn radix c).isSome = true) : byteLength s = s.toList.length := by
  unfold byteLength
  generalize s.toList = cs at h ⊢
  induction cs with
  | nil => rfl
  | cons c cs ih =>
      rw [List.map_cons, List.sum_cons, utf8Size_of_digitIn (h c List.mem_cons_self),
        ih fun c' hc' => h c' (List.mem_cons_of_mem c hc'), List.length_cons]
      omega

theorem byteLength_of_hexdigits {digits : List Char}
    (h : ∀ c ∈ digits, isAsciiHexdigit c = true) :
    byteLength (String.ofList digits) = digits.length := by
  have hdigits : ∀ c ∈ (String.ofList digits).toList, (digitIn 16 c).isSome = true := by
    rw [String.toList_ofList]
    exact h
  rw [byteLength_of_digits hdigits, String.toList_ofList]

/-- A text with no white space at its ends is not trimmed. -/
theorem trim_eq_self {s : String} (hfirst : ∀ c, s.toList.head? = some c → isWhitespace c = false)
    (hlast : ∀ c, s.toList.getLast? = some c → isWhitespace c = false) : trim s = s := by
  have hdrop : ∀ cs : List Char, (∀ c, cs.head? = some c → isWhitespace c = false) →
      cs.dropWhile isWhitespace = cs := by
    intro cs hcs
    cases cs with
    | nil => rfl
    | cons c cs => rw [List.dropWhile_cons_of_neg (by simp [hcs c rfl])]
  unfold trim
  rw [hdrop _ hfirst, hdrop, List.reverse_reverse, String.ofList_toList]
  intro c hc
  rw [List.head?_reverse] at hc
  exact hlast c hc

/-- Digits after `0x` leave nothing to trim. -/
theorem trim_of_digits {text : String}
    (h : ∀ c ∈ text.toList, (digitIn 16 c).isSome = true) :
    trim ("0x" ++ text) = "0x" ++ text := by
  refine trim_eq_self ?_ ?_
  · intro c hc
    simp only [String.toList_append, List.head?_append] at hc
    obtain rfl : '0' = c := Option.some.inj hc
    decide
  · intro c hc
    have hmem : c ∈ '0' :: 'x' :: text.toList := by
      simpa using List.mem_of_getLast? hc
    rcases List.mem_cons.mp hmem with rfl | hmem
    · decide
    · rcases List.mem_cons.mp hmem with rfl | hmem
      · decide
      · exact isWhitespace_of_digitIn (h c hmem)

/-! ## Digits -/

theorem digitIn_toLower (c : Char) : digitIn 16 c.toLower = digitIn 16 c := by
  have hascii : ∀ n < 128,
      digitIn 16 (Char.ofNat n).toLower = digitIn 16 (Char.ofNat n) := by decide
  by_cases h : c.toNat < 128
  · have hc := hascii c.toNat h
    rwa [Char.ofNat_toNat] at hc
  · unfold Char.toLower
    split
    · next hupper =>
        exact absurd (Nat.lt_of_le_of_lt (show c.toNat ≤ 'Z'.toNat from hupper.2) (by decide)) h
    · rfl

theorem ofDigits_map_toLower (acc : Nat) (cs : List Char) :
    ofDigits 16 acc (cs.map Char.toLower) = ofDigits 16 acc cs := by
  induction cs generalizing acc with
  | nil => rfl
  | cons c cs ih => simp only [List.map_cons, ofDigits, digitIn_toLower, ih]

theorem hexBytes_map_toLower (cs : List Char) :
    hexBytes (cs.map Char.toLower) = hexBytes cs := by
  induction cs using hexBytes.induct with
  | case1 => rfl
  | case2 c => rfl
  | case3 high low rest ih =>
      have hpair := ofDigits_map_toLower 0 [high, low]
      rw [List.map_cons, List.map_cons, hexBytes, hexBytes, ih]
      exact congrArg (Option.bind · _) hpair

theorem hexBytes_append {cs cs' : List Char} {bytes bytes' : List UInt8}
    (h : hexBytes cs = some bytes) (h' : hexBytes cs' = some bytes') :
    hexBytes (cs ++ cs') = some (bytes ++ bytes') := by
  induction cs using hexBytes.induct generalizing bytes with
  | case1 =>
      obtain rfl : [] = bytes := Option.some.inj h
      exact h'
  | case2 c => cases h
  | case3 high low rest ih =>
      obtain ⟨byte, hbyte, h⟩ := Option.bind_eq_some_iff.mp h
      obtain ⟨tail, htail, h⟩ := Option.bind_eq_some_iff.mp h
      obtain rfl := Option.some.inj h
      rw [List.cons_append, List.cons_append, hexBytes, hbyte, ih htail]
      rfl

/-- Bytes are read back from their digits. -/
theorem hexBytes_lowerHexBytes (bytes : List UInt8) :
    hexBytes (lowerHexBytes bytes).toList = some bytes := by
  rw [lowerHexBytes, String.toList_ofList]
  induction bytes with
  | nil => rfl
  | cons byte bytes ih =>
      have hbyte : ofDigits 16 0 (hexDigits 2 byte.toNat) = some byte.toNat := by
        rw [ofDigits_hexDigits, Nat.mod_eq_of_lt (Nat.lt_of_lt_of_le byte.toNat_lt (by decide))]
      rw [List.flatMap_cons]
      show (ofDigits 16 0 (hexDigits 2 byte.toNat)).bind _ = _
      rw [hbyte, Option.bind_some, List.append_eq, List.nil_append, ih]
      simp

/-- What is read is spelled by the text. -/
theorem spells_of_hexBytes {cs : List Char} {bytes : List UInt8} (h : hexBytes cs = some bytes) :
    Spells (String.ofList cs) bytes := by
  unfold Spells toAsciiLowercase lowerHexBytes
  rw [String.toList_ofList]
  congr 1
  induction cs using hexBytes.induct generalizing bytes with
  | case1 =>
      obtain rfl : [] = bytes := Option.some.inj h
      rfl
  | case2 c => cases h
  | case3 high low rest ih =>
      obtain ⟨byte, hbyte, h⟩ := Option.bind_eq_some_iff.mp h
      obtain ⟨tail, htail, h⟩ := Option.bind_eq_some_iff.mp h
      obtain rfl := Option.some.inj h
      have hlt : byte < 256 := by simpa using ofDigits_lt hbyte
      have hpair := hexDigits_of_ofDigits 0 hbyte
      rw [List.flatMap_cons, ← ih htail, UInt8.toNat_ofNat_of_lt' hlt]
      exact congrArg (· ++ _) hpair.symm

theorem isSome_digitIn_lowerHexBytes {bytes : List UInt8} {c : Char}
    (hc : c ∈ (lowerHexBytes bytes).toList) : (digitIn 16 c).isSome = true := by
  rw [lowerHexBytes, String.toList_ofList] at hc
  obtain ⟨byte, -, hc⟩ := List.mem_flatMap.mp hc
  exact isSome_digitIn_of_mem (ofDigits_hexDigits 2 byte.toNat) hc

/-! ## Spellings -/

theorem spells_lowerHexBytes (bytes : List UInt8) : Spells (lowerHexBytes bytes) bytes := by
  unfold Spells toAsciiLowercase
  rw [lowerHexBytes, String.toList_ofList, List.map_flatMap]
  simp only [toLower_hexDigits]

namespace Spells

variable {text : String} {bytes : List UInt8}

theorem toList (h : Spells text bytes) :
    text.toList.map Char.toLower = (lowerHexBytes bytes).toList := by
  rw [← h, toAsciiLowercase, String.toList_ofList]

/-- The bytes are read back, whatever the case. -/
theorem hexBytes_eq (h : Spells text bytes) : hexBytes text.toList = some bytes := by
  rw [← hexBytes_map_toLower, h.toList, hexBytes_lowerHexBytes]

theorem isSome_digitIn (h : Spells text bytes) {c : Char} (hc : c ∈ text.toList) :
    (digitIn 16 c).isSome = true := by
  have hlower : c.toLower ∈ (lowerHexBytes bytes).toList := by
    rw [← h.toList]
    exact List.mem_map_of_mem hc
  rw [← digitIn_toLower]
  exact isSome_digitIn_lowerHexBytes hlower

theorem length (h : Spells text bytes) : text.toList.length = 2 * bytes.length := by
  have hlength := congrArg List.length h.toList
  rw [List.length_map, lowerHexBytes, String.toList_ofList, List.length_flatMap] at hlength
  simp only [length_hexDigits, List.map_const', List.sum_replicate_nat] at hlength
  omega

/-- The first digits spell the first bytes. -/
theorem take (h : Spells text bytes) (n : Nat) :
    Spells (String.ofList (text.toList.take (2 * n))) (bytes.take n) := by
  have hflat : ∀ (n : Nat) (bytes : List UInt8),
      (bytes.flatMap fun byte => hexDigits 2 byte.toNat).take (2 * n)
        = (bytes.take n).flatMap fun byte => hexDigits 2 byte.toNat := by
    intro n bytes
    induction bytes generalizing n with
    | nil => simp
    | cons byte bytes ih =>
        cases n with
        | zero => rfl
        | succ n =>
            rw [List.flatMap_cons, List.take_succ_cons, List.flatMap_cons, ← ih]
            rfl
  unfold Spells toAsciiLowercase
  rw [String.toList_ofList, List.map_take, h.toList, lowerHexBytes, lowerHexBytes,
    String.toList_ofList, hflat]

/-- There is nothing to trim. -/
theorem trim_eq (h : Spells text bytes) : trim text = text := by
  refine trim_eq_self ?_ ?_
  · intro c hc
    exact isWhitespace_of_digitIn (h.isSome_digitIn (List.mem_of_mem_head? hc))
  · intro c hc
    exact isWhitespace_of_digitIn (h.isSome_digitIn (List.mem_of_getLast? hc))

theorem trim_append_eq (h : Spells text bytes) : trim ("0x" ++ text) = "0x" ++ text :=
  trim_of_digits fun _ hc => h.isSome_digitIn hc

/-- The digits are what is left of them once the `0x` they may start with is
taken away. -/
theorem strip_eq (h : Spells text bytes) {input : String}
    (hinput : input = "0x" ++ text ∨ input = text) :
    (stripPrefix "0x" (trim input)).getD (trim input) = text := by
  rcases hinput with rfl | rfl
  · rw [h.trim_append_eq, stripPrefix_append, Option.getD_some]
  · have hnone : stripPrefix "0x" input = none :=
      stripPrefix_of_digits (by decide) fun c hc => h.isSome_digitIn hc
    rw [h.trim_eq, hnone, Option.getD_none]

end Spells

end Text
