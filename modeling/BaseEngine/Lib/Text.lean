import Mathlib.Algebra.GroupWithZero.Nat
import Mathlib.Data.List.Basic
import Mathlib.Data.String.Basic

/-!
# ASCII-insensitive text

The string functions a systems program uses on hexadecimal identifiers:
ASCII case folding, trimming of Unicode white space, prefix stripping and
the parsing of unsigned numerals. Strings are compared code point by code point; on UTF-8 text
this is also the byte order.

A hexadecimal number of a fixed width has two spellings up to the case of
its digits, with and without `0x` (`mem_hexSpellings_of_fixedHex`,
`fixedHex_of_mem_hexSpellings`).
-/

namespace Text

/-- The `White_Space` property of Unicode. -/
def isWhitespace (c : Char) : Bool :=
  let n := c.toNat
  (0x09 ≤ n && n ≤ 0x0D) || n == 0x20 || n == 0x85 || n == 0xA0 || n == 0x1680
    || (0x2000 ≤ n && n ≤ 0x200A) || n == 0x2028 || n == 0x2029 || n == 0x202F
    || n == 0x205F || n == 0x3000

/-- Upper-case ASCII letters lowered, every other code point kept. -/
def toAsciiLowercase (s : String) : String :=
  String.ofList (s.toList.map Char.toLower)

/-- Equality up to the case of ASCII letters. -/
def eqIgnoreAsciiCase (s t : String) : Bool :=
  toAsciiLowercase s == toAsciiLowercase t

/-- Leading and trailing white space removed. -/
def trim (s : String) : String :=
  String.ofList
    (((s.toList.dropWhile isWhitespace).reverse.dropWhile isWhitespace).reverse)

/-- The text after the prefix `p`, when `s` starts with `p`. -/
def stripPrefix (p s : String) : Option String :=
  if p.toList.isPrefixOf s.toList then
    some (String.ofList (s.toList.drop p.toList.length))
  else none

/-! ## Numerals -/

/-- The value of an ASCII digit or letter below the radix. -/
def digitIn (radix : Nat) (c : Char) : Option Nat :=
  let value :=
    if '0' ≤ c ∧ c ≤ '9' then some (c.toNat - '0'.toNat)
    else if 'a' ≤ c ∧ c ≤ 'z' then some (c.toNat - 'a'.toNat + 10)
    else if 'A' ≤ c ∧ c ≤ 'Z' then some (c.toNat - 'A'.toNat + 10)
    else none
  value.filter (· < radix)

def isAsciiHexdigit (c : Char) : Bool := (digitIn 16 c).isSome

/-- The digits read on from `acc`, most significant first. -/
def ofDigits (radix : Nat) : Nat → List Char → Option Nat
  | acc, [] => some acc
  | acc, c :: cs => do
      let digit ← digitIn radix c
      ofDigits radix (acc * radix + digit) cs

/-- A number in exactly so many hexadecimal digits, with or without `0x`. -/
def fixedHex (width : Nat) (s : String) : Option Nat :=
  let digits := ((stripPrefix "0x" s).getD s).toList
  if digits.length = width then ofDigits 16 0 digits else none

/-- Two hexadecimal digits a byte. -/
def hexBytes : List Char → Option (List UInt8)
  | [] => some []
  | [_] => none
  | high :: low :: rest => do
      let byte ← ofDigits 16 0 [high, low]
      return UInt8.ofNat byte :: (← hexBytes rest)

/-- The last `width` hexadecimal digits of a number, in lower case. -/
def hexDigits : Nat → Nat → List Char
  | 0, _ => []
  | width + 1, n => hexDigits width (n / 16) ++ [Nat.digitChar (n % 16)]

def lowerHex (width n : Nat) : String := String.ofList (hexDigits width n)

/-- An unsigned numeral of the given width: an optional `+`, at least one
digit, and no overflow. -/
def parseUnsigned (radix bits : Nat) (s : String) : Option Nat :=
  let digits :=
    match s.toList with
    | '+' :: rest => rest
    | cs => cs
  if digits = [] then none
  else (ofDigits radix 0 digits).filter (· < 2 ^ bits)

example : parseUnsigned 16 64 "4d2" = some 1234 := by decide

/-- What is wrong with the first bad digit of a numeral, read on from `acc`. -/
def digitError (radix bits : Nat) : Nat → List Char → Option String
  | _, [] => none
  | acc, c :: cs =>
      match digitIn radix c with
      | none => some "invalid digit found in string"
      | some digit =>
          if 2 ^ bits ≤ acc * radix + digit then some "number too large to fit in target type"
          else digitError radix bits (acc * radix + digit) cs

/-- The message for a numeral that `parseUnsigned` does not take. -/
def parseError (radix bits : Nat) (s : String) : String :=
  match s.toList with
  | [] => "cannot parse integer from empty string"
  | '+' :: c :: rest => (digitError radix bits 0 (c :: rest)).getD ""
  | cs => (digitError radix bits 0 cs).getD ""

/-- A decimal number of the given width. -/
def parseDecimal (bits : Nat) (s : String) : Except String Nat :=
  match parseUnsigned 10 bits s with
  | some n => .ok n
  | none => .error (parseError 10 bits s)

theorem parseDecimal_eq_ok_iff {bits : Nat} {s : String} {n : Nat} :
    parseDecimal bits s = .ok n ↔ parseUnsigned 10 bits s = some n := by
  unfold parseDecimal
  cases parseUnsigned 10 bits s <;> simp

/-! ## Hexadecimal numerals -/

theorem digitIn_lt {radix : Nat} {c : Char} {d : Nat} (h : digitIn radix c = some d) :
    d < radix := by
  have := (Option.filter_eq_some_iff.mp h).2
  simpa using this

theorem toNat_lt_of_digitIn {radix : Nat} {c : Char} {d : Nat} (h : digitIn radix c = some d) :
    c.toNat < 128 := by
  obtain ⟨hvalue, -⟩ := Option.filter_eq_some_iff.mp h
  split_ifs at hvalue with hdigit hlower hupper
  · exact Nat.lt_of_le_of_lt (show c.toNat ≤ '9'.toNat from hdigit.2) (by decide)
  · exact Nat.lt_of_le_of_lt (show c.toNat ≤ 'z'.toNat from hlower.2) (by decide)
  · exact Nat.lt_of_le_of_lt (show c.toNat ≤ 'Z'.toNat from hupper.2) (by decide)

/-- A hexadecimal digit in lower case is the digit of its value. -/
theorem toLower_of_digitIn {c : Char} {d : Nat} (h : digitIn 16 c = some d) :
    c.toLower = Nat.digitChar d := by
  have hascii : ∀ n < 128, ∀ d ∈ digitIn 16 (Char.ofNat n),
      (Char.ofNat n).toLower = Nat.digitChar d := by decide
  have hc := hascii c.toNat (toNat_lt_of_digitIn h)
  rw [Char.ofNat_toNat] at hc
  exact hc d h

theorem digitIn_digitChar {d : Nat} (h : d < 16) : digitIn 16 (Nat.digitChar d) = some d := by
  have hall : ∀ d < 16, digitIn 16 (Nat.digitChar d) = some d := by decide
  exact hall d h

theorem hexDigits_of_ofDigits {cs : List Char} {acc n : Nat} (width : Nat)
    (h : ofDigits 16 acc cs = some n) :
    hexDigits (width + cs.length) n = hexDigits width acc ++ cs.map Char.toLower := by
  induction cs generalizing acc width with
  | nil =>
      obtain rfl := Option.some.inj h
      simp
  | cons c cs ih =>
      obtain ⟨d, hd, h⟩ := Option.bind_eq_some_iff.mp h
      have hlt := digitIn_lt hd
      have hdiv : (acc * 16 + d) / 16 = acc := by omega
      have hmod : (acc * 16 + d) % 16 = d := by omega
      have hrest := ih (width + 1) h
      rw [hexDigits, hdiv, hmod] at hrest
      rw [List.length_cons, Nat.add_comm cs.length, ← Nat.add_assoc, hrest, List.map_cons,
        toLower_of_digitIn hd, List.append_assoc, List.singleton_append]

theorem ofDigits_append (radix acc : Nat) (cs : List Char) (c : Char) :
    ofDigits radix acc (cs ++ [c])
      = (ofDigits radix acc cs).bind fun n => (digitIn radix c).map (n * radix + ·) := by
  induction cs generalizing acc with
  | nil =>
     show (digitIn radix c).bind _ = _
     cases digitIn radix c <;> rfl
  | cons c' cs ih =>
      show (digitIn radix c').bind _ = ((digitIn radix c').bind _).bind _
      cases digitIn radix c' with
      | none => rfl
      | some d => exact ih _

theorem ofDigits_hexDigits (width n : Nat) :
    ofDigits 16 0 (hexDigits width n) = some (n % 16 ^ width) := by
  induction width generalizing n with
  | zero => simp [hexDigits, ofDigits, Nat.mod_one]
  | succ width ih =>
      have hdigit := digitIn_digitChar (Nat.mod_lt n (by decide : 0 < 16))
      rw [hexDigits, ofDigits_append, ih, hdigit, Option.bind_some, Option.map_some,
        Nat.pow_succ, Nat.mul_comm (16 ^ width), Nat.mod_mul]
      congr 1
      omega

@[simp] theorem length_hexDigits (width n : Nat) : (hexDigits width n).length = width := by
  induction width generalizing n with
  | zero => rfl
  | succ width ih => simp [hexDigits, ih]

theorem ofDigits_lt {radix acc n : Nat} {cs : List Char} (h : ofDigits radix acc cs = some n) :
    n < (acc + 1) * radix ^ cs.length := by
  induction cs generalizing acc with
  | nil =>
      obtain rfl := Option.some.inj h
      simp
  | cons c cs ih =>
      obtain ⟨d, hd, h⟩ := Option.bind_eq_some_iff.mp h
      have hlt := digitIn_lt hd
      calc n < (acc * radix + d + 1) * radix ^ cs.length := ih h
        _ ≤ ((acc + 1) * radix) * radix ^ cs.length := by
            refine Nat.mul_le_mul_right _ ?_
            rw [Nat.add_mul, Nat.one_mul]
            omega
        _ = (acc + 1) * radix ^ (c :: cs).length := by
            rw [List.length_cons, Nat.pow_succ, Nat.mul_assoc, Nat.mul_comm radix]

theorem fixedHex_lt {width n : Nat} {s : String} (h : fixedHex width s = some n) :
    n < 16 ^ width := by
  unfold fixedHex at h
  dsimp only at h
  split_ifs at h with hlength
  have hlt := ofDigits_lt h
  rwa [hlength, Nat.zero_add, Nat.one_mul] at hlt

theorem isSome_digitIn_of_mem {radix acc n : Nat} {cs : List Char}
    (h : ofDigits radix acc cs = some n) {c : Char} (hc : c ∈ cs) :
    (digitIn radix c).isSome = true := by
  induction cs generalizing acc with
  | nil => cases hc
  | cons c' cs ih =>
      obtain ⟨d, hd, h⟩ := Option.bind_eq_some_iff.mp h
      rcases List.mem_cons.mp hc with rfl | hc
      · rw [hd]
        rfl
      · exact ih h hc

theorem ofDigits_isSome {radix acc : Nat} {cs : List Char}
    (h : ∀ c ∈ cs, (digitIn radix c).isSome = true) : ∃ n, ofDigits radix acc cs = some n := by
  induction cs generalizing acc with
  | nil => exact ⟨acc, rfl⟩
  | cons c cs ih =>
      obtain ⟨d, hd⟩ := Option.isSome_iff_exists.mp (h c List.mem_cons_self)
      obtain ⟨n, hn⟩ := @ih (acc * radix + d) fun c' hc' => h c' (List.mem_cons_of_mem c hc')
      refine ⟨n, ?_⟩
      rw [ofDigits, hd]
      exact hn

theorem toList_of_stripPrefix {p s rest : String} (h : stripPrefix p s = some rest) :
    s.toList = p.toList ++ rest.toList := by
  unfold stripPrefix at h
  split_ifs at h with hp
  obtain rfl := Option.some.inj h
  obtain ⟨tail, htail⟩ := List.isPrefixOf_iff_prefix.mp hp
  rw [← htail]
  simp

theorem stripPrefix_append (p s : String) : stripPrefix p (p ++ s) = some s := by
  simp [stripPrefix]

/-- A text of digits does not start with `0x`. -/
theorem stripPrefix_of_digits {radix : Nat} {s : String} (hx : digitIn radix 'x' = none)
    (h : ∀ c ∈ s.toList, (digitIn radix c).isSome = true) : stripPrefix "0x" s = none := by
  cases hstrip : stripPrefix "0x" s with
  | none => rfl
  | some rest =>
      have hmem : 'x' ∈ s.toList := by
        rw [toList_of_stripPrefix hstrip]
        simp
      have hsome := h 'x' hmem
      rw [hx] at hsome
      cases hsome

theorem stripPrefix_hexDigits (width n : Nat) :
    stripPrefix "0x" (lowerHex width n) = none := by
  apply @stripPrefix_of_digits 16 _ (by decide)
  intro c hc
  rw [lowerHex, String.toList_ofList] at hc
  exact isSome_digitIn_of_mem (ofDigits_hexDigits width n) hc

/-- The two lower-case spellings of a number. -/
def hexSpellings (width n : Nat) : List String :=
  [lowerHex width n, "0x" ++ lowerHex width n]

theorem toLower_hexDigits (width n : Nat) :
    (hexDigits width n).map Char.toLower = hexDigits width n := by
  have hdigit : ∀ d < 16, (Nat.digitChar d).toLower = Nat.digitChar d := by decide
  induction width generalizing n with
  | zero => rfl
  | succ width ih =>
      rw [hexDigits, List.map_append, ih, List.map_singleton,
        hdigit _ (Nat.mod_lt n (by decide : 0 < 16))]

theorem toAsciiLowercase_of_mem_hexSpellings {width n : Nat} {s : String}
    (hs : s ∈ hexSpellings width n) : toAsciiLowercase s = s := by
  apply String.toList_inj.mp
  rcases List.mem_pair.mp hs with rfl | rfl
  · simp [toAsciiLowercase, lowerHex, toLower_hexDigits]
  · simp [toAsciiLowercase, lowerHex, toLower_hexDigits]

theorem fixedHex_of_mem_hexSpellings {width n : Nat} {s : String} (hn : n < 16 ^ width)
    (hs : s ∈ hexSpellings width n) : fixedHex width s = some n := by
  have hdigits : ((stripPrefix "0x" s).getD s).toList = hexDigits width n := by
    rcases List.mem_pair.mp hs with rfl | rfl
    · rw [stripPrefix_hexDigits]
      simp [lowerHex]
    · simp [stripPrefix, lowerHex]
  unfold fixedHex
  dsimp only
  rw [hdigits, ofDigits_hexDigits, Nat.mod_eq_of_lt hn, length_hexDigits, if_pos rfl]

theorem mem_hexSpellings_of_fixedHex {width n : Nat} {s : String}
    (h : fixedHex width s = some n) : toAsciiLowercase s ∈ hexSpellings width n := by
  unfold fixedHex at h
  dsimp only at h
  split_ifs at h with hlength
  have hlower := hexDigits_of_ofDigits 0 h
  rw [hlength, Nat.zero_add] at hlower
  refine List.mem_pair.mpr ?_
  cases hstrip : stripPrefix "0x" s with
  | none =>
      rw [hstrip] at hlower
      refine Or.inl ?_
      rw [lowerHex, hlower]
      rfl
  | some rest =>
      rw [hstrip] at hlower
      refine Or.inr ?_
      rw [lowerHex, hlower, toAsciiLowercase, toList_of_stripPrefix hstrip]
      apply String.toList_inj.mp
      simp [hexDigits]

/-! ## Case folding -/

theorem eqIgnoreAsciiCase_iff {s t : String} :
    eqIgnoreAsciiCase s t = true ↔ toAsciiLowercase s = toAsciiLowercase t :=
  beq_iff_eq

/-- On two literals this is decided without their bytes. -/
theorem eqIgnoreAsciiCase_of_toList {s t : String}
    (h : s.toList.map Char.toLower = t.toList.map Char.toLower) : eqIgnoreAsciiCase s t = true := by
  rw [eqIgnoreAsciiCase_iff, toAsciiLowercase, toAsciiLowercase, h]

theorem eqIgnoreAsciiCase_comm (s t : String) :
    eqIgnoreAsciiCase s t = eqIgnoreAsciiCase t s := by
  simp only [eqIgnoreAsciiCase, Bool.beq_comm]

/-! ## Numerals of a number -/

theorem ofDigits_toDigits {radix : Nat} (hradix : 1 < radix)
    (hdigit : ∀ d < radix, digitIn radix (Nat.digitChar d) = some d) (n : Nat) :
    ofDigits radix 0 (Nat.toDigits radix n) = some n := by
  induction n using Nat.strongRecOn with
  | ind n ih =>
      by_cases h : n < radix
      · rw [Nat.toDigits_of_lt_base h, ofDigits, hdigit n h]
        simp [ofDigits]
      · have hle := Nat.not_lt.mp h
        have hpos : 0 < n := by omega
        rw [Nat.toDigits_of_base_le hradix hle, ofDigits_append,
          ih _ (Nat.div_lt_self hpos hradix), Option.bind_some,
          hdigit _ (Nat.mod_lt n (by omega)), Option.map_some]
        congr 1
        have := Nat.div_add_mod n radix
        rw [Nat.mul_comm] at this
        exact this

/-- The bytes of a text determine it. -/
theorem utf8_inj {s t : String} (h : s.toUTF8.data.toList = t.toUTF8.data.toList) : s = t :=
  String.toByteArray_inj.mp (ByteArray.ext (Array.toList_inj.mp h))

/-- Different numbers have different decimal numerals. -/
theorem toString_nat_inj {n m : Nat} : toString n = toString m ↔ n = m := by
  refine ⟨fun h => ?_, congrArg _⟩
  rw [Nat.toString_eq_repr, Nat.toString_eq_repr, Nat.repr_eq_ofList_toDigits,
    Nat.repr_eq_ofList_toDigits, String.ofList_inj] at h
  have hread : ∀ k, ofDigits 10 0 (Nat.toDigits 10 k) = some k :=
    ofDigits_toDigits (by decide) (by decide)
  exact Option.some.inj ((hread n).symm.trans (h ▸ hread m))

/-- A number that fits is read back from its numeral. -/
theorem parseUnsigned_toDigits {radix bits n : Nat} (hradix : 1 < radix)
    (hdigit : ∀ d < radix, digitIn radix (Nat.digitChar d) = some d) (hn : n < 2 ^ bits) :
    parseUnsigned radix bits (String.ofList (Nat.toDigits radix n)) = some n := by
  have hdigits := ofDigits_toDigits hradix hdigit n
  have hne : Nat.toDigits radix n ≠ [] := Nat.toDigits_ne_nil
  unfold parseUnsigned
  rw [String.toList_ofList]
  generalize Nat.toDigits radix n = cs at hdigits hne
  -- A digit is not a sign.
  have hplus : ∀ rest, cs ≠ '+' :: rest := by
    rintro rest rfl
    have hnone : digitIn radix '+' = none := rfl
    have hsome := isSome_digitIn_of_mem hdigits List.mem_cons_self
    rw [hnone] at hsome
    cases hsome
  split
  · next rest => exact absurd rfl (hplus rest)
  · simp [hne, hdigits, hn]

end Text
