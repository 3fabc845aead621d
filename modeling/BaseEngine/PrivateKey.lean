import BaseEngine.Lib.Abi
import BaseEngine.Lib.Faulting
import BaseEngine.Lib.HexText
import BaseEngine.Execution

/-!
# Reading the private key

`signer_from_private_key` and `hex_decode_32` of `crates/execution/src/signer.rs`.
The decoder checks the length in bytes and hands every two bytes to the
integer parser of the standard library. That parser takes a sign: `+f` is a
byte to it. The slices panic inside a character.

`hexDecode32_reads` says how the loop over the slices ends; what follows is
proved from it. `exactKey_iff` says for which texts the decoder takes exactly
64 hexadecimal digits.
-/

namespace BaseEngine

open Abi Faulting Text

/-- One turn of the loop: the byte at `i`. -/
def hexByteAt (input : String) (i : Nat) : Program ErrorChain UInt8 :=
  let start := i * 2
  let stop := start + 2
  match sliceBytes input start stop with
  | none => fault .charBoundary
  | some slice =>
      match parseUnsigned 16 8 slice with
      | some byte => returns (.ok (UInt8.ofNat byte))
      | none =>
          returns (.error ["invalid hex byte at offset " ++ toString start,
            parseError 16 8 slice])

def hexDecode32 (input : String) : Program ErrorChain (List UInt8) :=
  if byteLength input ≠ 64 then
    returns (.error ["expected 64 hex characters, got " ++ toString (byteLength input)])
  else (List.range 32).mapM (hexByteAt input)

/-- Every `0x` at the front is taken away. -/
def trimStartMatches0x : List Char → List Char
  | '0' :: 'x' :: rest => trimStartMatches0x rest
  | cs => cs

def addContext {α : Type} (context : String) (program : Program ErrorChain α) :
    Program ErrorChain α :=
  ExceptT.mk (program.run.map (withContext context))

/-- `fromBytes` is the constructor of the signer library, which turns down
what is not a key. -/
def signerFromPrivateKey {Signer : Type} (fromBytes : List UInt8 → Except ErrorChain Signer)
    (raw : String) : Program ErrorChain Signer := do
  let trimmed := String.ofList (trimStartMatches0x (trim raw).toList)
  let bytes ← addContext "SIGNER_PRIVATE_KEY must be 32-byte hex (with or without 0x prefix)"
    (hexDecode32 trimmed)
  addContext "failed to construct signer from SIGNER_PRIVATE_KEY" (returns (fromBytes bytes))

/-! ## Two bytes -/

/-- Two characters that the integer parser takes for a byte. -/
def HexPair (a b : Char) : Prop :=
  (isAsciiHexdigit a = true ∨ a = '+') ∧ isAsciiHexdigit b = true

def HexPairs : List Char → Prop
  | [] => True
  | [_] => False
  | a :: b :: rest => HexPair a b ∧ HexPairs rest

/-- Two bytes are one character or two. -/
theorem eq_of_byteLength_two {slice : List Char} (h : byteLength (String.ofList slice) = 2) :
    (∃ c, slice = [c] ∧ c.utf8Size = 2) ∨ ∃ a b, slice = [a, b] := by
  rcases slice with _ | ⟨a, _ | ⟨b, _ | ⟨c, rest⟩⟩⟩
  · cases h
  · exact .inl ⟨a, rfl, by simpa [byteLength] using h⟩
  · exact .inr ⟨a, b, rfl⟩
  · have ha := a.utf8Size_pos
    have hb := b.utf8Size_pos
    have hc := c.utf8Size_pos
    simp only [byteLength_cons] at h
    omega

/-- Two digits do not overflow a byte. -/
theorem filter_ofDigits {cs : List Char} (h : cs.length ≤ 2) :
    (ofDigits 16 0 cs).filter (· < 2 ^ 8) = ofDigits 16 0 cs := by
  cases hdigits : ofDigits 16 0 cs with
  | none => rfl
  | some n =>
      have hlt := ofDigits_lt hdigits
      have hpow : 16 ^ cs.length ≤ 16 ^ 2 := Nat.pow_le_pow_right (by decide) h
      rw [Option.filter_some, if_pos (by rw [decide_eq_true_iff]; omega)]

theorem parse_plus (b : Char) :
    parseUnsigned 16 8 (String.ofList ['+', b]) = ofDigits 16 0 [b] := by
  unfold parseUnsigned
  simp only [String.toList_ofList, List.cons_ne_nil, if_false]
  exact filter_ofDigits (Nat.le_succ 1)

theorem parse_digits {c : Char} {cs : List Char} (hplus : c ≠ '+')
    (h : (c :: cs).length ≤ 2) :
    parseUnsigned 16 8 (String.ofList (c :: cs)) = ofDigits 16 0 (c :: cs) := by
  unfold parseUnsigned
  rw [String.toList_ofList]
  dsimp only
  split
  · next rest heq => exact absurd (List.cons.inj heq).1 hplus
  · rw [if_neg (List.cons_ne_nil c cs)]
    exact filter_ofDigits h

theorem isSome_ofDigits_iff {cs : List Char} :
    (ofDigits 16 0 cs).isSome = true ↔ ∀ c ∈ cs, isAsciiHexdigit c = true := by
  constructor
  · intro h c hc
    obtain ⟨n, hn⟩ := Option.isSome_iff_exists.mp h
    exact isSome_digitIn_of_mem hn hc
  · intro h
    obtain ⟨n, hn⟩ := @ofDigits_isSome 16 0 cs h
    rw [hn]
    rfl

/-- The parser takes two bytes that are a pair, and nothing else. -/
theorem isSome_parse_iff {slice : List Char} (h : byteLength (String.ofList slice) = 2) :
    (parseUnsigned 16 8 (String.ofList slice)).isSome = true ↔ HexPairs slice := by
  rcases eq_of_byteLength_two h with ⟨c, rfl, hsize⟩ | ⟨a, b, rfl⟩
  · have hwide : ¬ isAsciiHexdigit c = true := by
      intro hdigit
      rw [utf8Size_of_digitIn hdigit] at hsize
      cases hsize
    have hplus : c ≠ '+' := by
      rintro rfl
      cases hsize
    rw [parse_digits hplus (by simp), isSome_ofDigits_iff]
    simp [HexPairs, hwide]
  · by_cases hplus : a = '+'
    · subst hplus
      rw [parse_plus, isSome_ofDigits_iff]
      simp [HexPairs, HexPair]
    · rw [parse_digits hplus (by simp), isSome_ofDigits_iff]
      simp [HexPairs, HexPair, hplus]

/-! ## The loop -/

/-- How reading pairs can end: at the end of the text, at two bytes that are
not a pair, or inside a character. -/
inductive Reads : List Char → Program ErrorChain (List UInt8) → Prop where
  | done : Reads [] (returns (.ok []))
  | rejected {slice rest : List Char} {error : ErrorChain} :
      byteLength (String.ofList slice) = 2 → ¬ HexPairs slice →
      Reads (slice ++ rest) (returns (.error error))
  | inside {cs : List Char} : cs ≠ [] → takeBytes 2 cs = none → Reads cs (fault .charBoundary)
  | pair {a b : Char} {cs : List Char} {byte : Nat} {program : Program ErrorChain (List UInt8)} :
      HexPair a b → parseUnsigned 16 8 (String.ofList [a, b]) = some byte → Reads cs program →
      Reads (a :: b :: cs) (do
        let bytes ← program
        return UInt8.ofNat byte :: bytes)

section Turn

variable {input : String} {i : Nat} {front rest slice : List Char}

theorem hexByteAt_inside (hinput : input.toList = front ++ rest)
    (hfront : byteLength (String.ofList front) = i * 2) (hcut : takeBytes 2 rest = none) :
    hexByteAt input i = fault .charBoundary := by
  rw [hexByteAt, sliceBytes_append 2 hinput hfront, hcut]
  rfl

theorem hexByteAt_pair (hinput : input.toList = front ++ rest)
    (hfront : byteLength (String.ofList front) = i * 2) (hcut : takeBytes 2 rest = some slice)
    {byte : Nat} (hparse : parseUnsigned 16 8 (String.ofList slice) = some byte) :
    hexByteAt input i = returns (.ok (UInt8.ofNat byte)) := by
  rw [hexByteAt, sliceBytes_append 2 hinput hfront, hcut, Option.map_some]
  dsimp only
  rw [hparse]

theorem hexByteAt_rejected (hinput : input.toList = front ++ rest)
    (hfront : byteLength (String.ofList front) = i * 2) (hcut : takeBytes 2 rest = some slice)
    (hparse : parseUnsigned 16 8 (String.ofList slice) = none) :
    ∃ error, hexByteAt input i = returns (.error error) := by
  rw [hexByteAt, sliceBytes_append 2 hinput hfront, hcut, Option.map_some]
  dsimp only
  rw [hparse]
  exact ⟨_, rfl⟩

end Turn

/-- What is left of the text is read from its byte position on. -/
theorem reads_mapM {input : String} (n : Nat) {i : Nat} {front rest : List Char}
    (hinput : input.toList = front ++ rest)
    (hfront : byteLength (String.ofList front) = i * 2)
    (hrest : byteLength (String.ofList rest) = n * 2) :
    Reads rest ((List.range' i n).mapM (hexByteAt input)) := by
  induction n generalizing i front rest with
  | zero =>
      obtain rfl : rest = [] := by
        rcases rest with _ | ⟨c, rest⟩
        · rfl
        · have := c.utf8Size_pos
          rw [byteLength_cons] at hrest
          omega
      exact .done
  | succ n ih =>
      rw [List.range'_succ, List.mapM_cons]
      cases hcut : takeBytes 2 rest with
      | none =>
          rw [hexByteAt_inside hinput hfront hcut]
          refine .inside ?_ hcut
          rintro rfl
          cases hrest
      | some slice =>
          obtain ⟨tail, rfl, hlength⟩ := takeBytes_eq_some_iff.mp hcut
          cases hparse : parseUnsigned 16 8 (String.ofList slice) with
          | none =>
              obtain ⟨error, herror⟩ := hexByteAt_rejected hinput hfront hcut hparse
              rw [herror]
              refine .rejected hlength ?_
              rw [← isSome_parse_iff hlength, hparse]
              exact Bool.false_ne_true
          | some byte =>
              have hpairs : HexPairs slice := by
                rw [← isSome_parse_iff hlength, hparse]
                rfl
              rw [hexByteAt_pair hinput hfront hcut hparse, returns_ok_bind]
              rcases eq_of_byteLength_two hlength with ⟨c, rfl, -⟩ | ⟨a, b, rfl⟩
              · exact hpairs.elim
              · have htail : Reads tail ((List.range' (i + 1) n).mapM (hexByteAt input)) := by
                  refine @ih (i + 1) (front ++ [a, b]) tail ?_ ?_ ?_
                  · rw [hinput, List.append_assoc]
                  · rw [byteLength_append, hfront, hlength]
                    omega
                  · rw [byteLength_append, hlength] at hrest
                    omega
                exact .pair hpairs.1 hparse htail

theorem hexDecode32_reads {input : String} (h : byteLength input = 64) :
    Reads input.toList (hexDecode32 input) := by
  rw [hexDecode32, if_neg (not_not.mpr h), List.range_eq_range']
  exact reads_mapM 32 (List.nil_append _).symm rfl (by rw [String.ofList_toList, h])

/-! ## What is read -/

/-- Two bytes that are not a pair stand after pairs only. -/
def RejectedPair (cs : List Char) : Prop :=
  ∃ front slice rest, cs = front ++ slice ++ rest ∧ HexPairs front
    ∧ byteLength (String.ofList slice) = 2 ∧ ¬ HexPairs slice

theorem RejectedPair.cons {a b : Char} {cs : List Char} (hpair : HexPair a b)
    (h : RejectedPair cs) : RejectedPair (a :: b :: cs) := by
  obtain ⟨front, slice, rest, rfl, hfront, hlength, hslice⟩ := h
  exact ⟨a :: b :: front, slice, rest, rfl, ⟨hpair, hfront⟩, hlength, hslice⟩

/-- The three ends exclude each other. -/
theorem Reads.outcome {cs : List Char} {program : Program ErrorChain (List UInt8)}
    (h : Reads cs program) :
    (HexPairs cs ∧ ∃ bytes, program = returns (.ok bytes))
      ∨ (RejectedPair cs ∧ ∃ error, program = returns (.error error))
      ∨ program = fault .charBoundary := by
  induction h with
  | done => exact .inl ⟨trivial, [], rfl⟩
  | @rejected slice rest error hlength hslice =>
      exact .inr (.inl ⟨⟨[], slice, rest, rfl, trivial, hlength, hslice⟩, error, rfl⟩)
  | inside _ _ => exact .inr (.inr rfl)
  | @pair a b cs byte program hpair _ _ ih =>
      rcases ih with ⟨hpairs, bytes, rfl⟩ | ⟨hrejected, error, rfl⟩ | rfl
      · exact .inl ⟨⟨hpair, hpairs⟩, UInt8.ofNat byte :: bytes, rfl⟩
      · exact .inr (.inl ⟨hrejected.cons hpair, error, rfl⟩)
      · exact .inr (.inr rfl)

theorem HexPair.takeBytes_eq {a b : Char} (h : HexPair a b) (cs : List Char) :
    takeBytes 2 (a :: b :: cs) = some [a, b] := by
  have ha : a.utf8Size = 1 := by
    rcases h.1 with hdigit | rfl
    · exact utf8Size_of_digitIn hdigit
    · rfl
  have hb : b.utf8Size = 1 := utf8Size_of_digitIn h.2
  refine takeBytes_eq_some_iff.mpr ⟨cs, rfl, ?_⟩
  rw [byteLength_cons, byteLength_cons, ha, hb]
  rfl

namespace RejectedPair

theorem takeBytes_ne_none {cs : List Char} (h : RejectedPair cs) : takeBytes 2 cs ≠ none := by
  obtain ⟨front, slice, rest, rfl, hfront, hlength, -⟩ := h
  rcases front with _ | ⟨a, _ | ⟨b, front⟩⟩
  · have htake : takeBytes 2 (slice ++ rest) = some slice :=
      takeBytes_eq_some_iff.mpr ⟨rest, rfl, hlength⟩
    simp [htake]
  · exact hfront.elim
  · simp only [List.cons_append, hfront.1.takeBytes_eq]
    exact Option.some_ne_none _

/-- A pair at the front is not what is rejected. -/
theorem tail {a b : Char} {cs : List Char} (hpair : HexPair a b)
    (h : RejectedPair (a :: b :: cs)) : RejectedPair cs := by
  obtain ⟨front, slice, rest, hcs, hfront, hlength, hslice⟩ := h
  rcases front with _ | ⟨x, _ | ⟨y, front⟩⟩
  · have htake : takeBytes 2 (a :: b :: cs) = some slice :=
      takeBytes_eq_some_iff.mpr ⟨rest, hcs, hlength⟩
    obtain rfl := Option.some.inj ((hpair.takeBytes_eq cs).symm.trans htake)
    exact absurd ⟨hpair, trivial⟩ hslice
  · exact hfront.elim
  · simp only [List.cons_append, List.cons.injEq] at hcs
    obtain ⟨rfl, rfl, hcs⟩ := hcs
    exact ⟨front, slice, rest, hcs, hfront.2, hlength, hslice⟩

end RejectedPair

theorem Reads.error_of_rejectedPair {cs : List Char}
    {program : Program ErrorChain (List UInt8)} (h : Reads cs program) (hcs : RejectedPair cs) :
    ∃ error, program = returns (.error error) := by
  induction h with
  | done => exact absurd rfl hcs.takeBytes_ne_none
  | @rejected _ _ error _ _ => exact ⟨error, rfl⟩
  | inside _ hcut => exact absurd hcut hcs.takeBytes_ne_none
  | pair hpair _ _ ih =>
      obtain ⟨error, rfl⟩ := ih (hcs.tail hpair)
      exact ⟨error, rfl⟩

theorem hexPairs_of_digits {cs : List Char} (heven : cs.length % 2 = 0)
    (hcs : ∀ c ∈ cs, isAsciiHexdigit c = true) : HexPairs cs := by
  induction cs using hexBytes.induct with
  | case1 => trivial
  | case2 c => cases heven
  | case3 a b rest ih =>
      refine ⟨⟨.inl (hcs a (by simp)), hcs b (by simp)⟩, ih ?_ ?_⟩
      · rw [List.length_cons, List.length_cons] at heven
        omega
      · exact fun c hc => hcs c (by simp [hc])

/-- Digits are read as the bytes they spell. -/
theorem Reads.ok_of_digits {cs : List Char} {program : Program ErrorChain (List UInt8)}
    (h : Reads cs program) (heven : cs.length % 2 = 0)
    (hcs : ∀ c ∈ cs, isAsciiHexdigit c = true) :
    ∃ bytes, hexBytes cs = some bytes ∧ program = returns (.ok bytes) := by
  induction h with
  | done => exact ⟨[], rfl, rfl⟩
  | @rejected slice rest _ hlength hslice =>
      have hdigits : ∀ c ∈ slice, isAsciiHexdigit c = true :=
        fun c hc => hcs c (List.mem_append_left rest hc)
      rw [byteLength_of_hexdigits hdigits] at hlength
      exact absurd (hexPairs_of_digits (by omega) hdigits) hslice
  | @inside cs hne hcut =>
      rcases cs with _ | ⟨a, _ | ⟨b, cs⟩⟩
      · exact absurd rfl hne
      · cases heven
      · have hpair := (hexPairs_of_digits heven hcs).1
        exact absurd (hcut.symm.trans (hpair.takeBytes_eq cs)) nofun
  | @pair a b cs byte program _ hparse _ ih =>
      rw [List.length_cons, List.length_cons] at heven
      obtain ⟨bytes, hbytes, rfl⟩ := ih (by omega) fun c hc => hcs c (by simp [hc])
      have hplus : a ≠ '+' := by
        rintro rfl
        exact absurd (hcs '+' (by simp)) (by decide)
      rw [parse_digits hplus (by simp)] at hparse
      refine ⟨UInt8.ofNat byte :: bytes, ?_, rfl⟩
      rw [hexBytes, hparse, hbytes]
      rfl

/-- The digits of a text and its bytes have one value. -/
theorem ofDigits_of_hexBytes {cs : List Char} {bytes : List UInt8}
    (h : hexBytes cs = some bytes) : ofDigits 16 0 cs = some (ofBeBytes bytes) := by
  have hacc : ∀ acc, ofDigits 16 acc cs
      = some (bytes.foldl (fun value byte => value * 256 + byte.toNat) acc) := by
    induction cs using hexBytes.induct generalizing bytes with
    | case1 =>
        obtain rfl : [] = bytes := Option.some.inj h
        exact fun acc => rfl
    | case2 c => cases h
    | case3 high low rest ih =>
        intro acc
        obtain ⟨byte, hbyte, h⟩ := Option.bind_eq_some_iff.mp h
        obtain ⟨tail, htail, h⟩ := Option.bind_eq_some_iff.mp h
        obtain rfl := Option.some.inj h
        obtain ⟨d, hd, hbyte⟩ := Option.bind_eq_some_iff.mp hbyte
        obtain ⟨e, he, hbyte⟩ := Option.bind_eq_some_iff.mp hbyte
        obtain rfl : (0 * 16 + d) * 16 + e = byte := Option.some.inj hbyte
        have hdlt := digitIn_lt hd
        have helt := digitIn_lt he
        simp only [ofDigits, hd, he, Option.bind_eq_bind, Option.bind_some, List.foldl_cons]
        have hlt : (0 * 16 + d) * 16 + e < 256 := by omega
        rw [ih htail, UInt8.toNat_ofNat_of_lt' hlt]
        congr 2
        omega
  exact hacc 0

/-! ## The decoder -/

/-- Exactly 64 hexadecimal digits. -/
structure KeyText (s : String) : Prop where
  length : s.toList.length = 64
  digits : ∀ c ∈ s.toList, isAsciiHexdigit c = true

theorem KeyText.byteLength_eq {s : String} (h : KeyText s) : byteLength s = 64 := by
  rw [byteLength_of_digits h.digits, h.length]

theorem KeyText.hexDecode32_eq {s : String} (h : KeyText s) :
    ∃ bytes, hexBytes s.toList = some bytes ∧ hexDecode32 s = returns (.ok bytes) :=
  (hexDecode32_reads h.byteLength_eq).ok_of_digits (by rw [h.length]) h.digits

/-- The decoder does not panic on the text and takes exactly 64 digits, for the
32 bytes of their value, which are spelled by the text. -/
structure ExactKey (s : String) : Prop where
  total : ∃ result, hexDecode32 s = returns result
  exact_iff : ∀ key, hexDecode32 s = returns (.ok key)
    ↔ KeyText s ∧ ∃ n, ofDigits 16 0 s.toList = some n ∧ key = toBeBytes 32 n
  spells : ∀ key, hexDecode32 s = returns (.ok key) → Spells s key

theorem KeyText.exactKey {s : String} (h : KeyText s) : ExactKey s := by
  obtain ⟨bytes, hbytes, hdecode⟩ := h.hexDecode32_eq
  have hspells : Spells s bytes := by
    have := spells_of_hexBytes hbytes
    rwa [String.ofList_toList] at this
  have hlength : bytes.length = 32 := by
    have := hspells.length
    rw [h.length] at this
    omega
  have hvalue := ofDigits_of_hexBytes hbytes
  have hkey : toBeBytes 32 (ofBeBytes bytes) = bytes := by
    have := toBeBytes_ofBeBytes bytes
    rwa [hlength] at this
  refine ⟨⟨_, hdecode⟩, fun key => ?_, fun key hkey => ?_⟩
  · rw [hdecode, returns_inj, Except.ok.injEq]
    constructor
    · rintro rfl
      exact ⟨h, _, hvalue, hkey.symm⟩
    · rintro ⟨-, n, hn, heq⟩
      rw [hvalue, Option.some.injEq] at hn
      rw [heq, ← hn, hkey]
  · rw [hdecode, returns_inj] at hkey
    obtain rfl := Except.ok.inj hkey
    exact hspells

/-- A text that is turned down with an error is not a key. -/
theorem exactKey_of_error {s : String} {error : ErrorChain}
    (h : hexDecode32 s = returns (.error error)) : ExactKey s := by
  have hno : ∀ key, hexDecode32 s ≠ returns (.ok key) := by
    intro key hkey
    cases returns_inj.mp (h.symm.trans hkey)
  refine ⟨⟨_, h⟩, fun key => ⟨fun hkey => absurd hkey (hno key), ?_⟩,
    fun key hkey => absurd hkey (hno key)⟩
  rintro ⟨htext, -⟩
  obtain ⟨bytes, -, hdecode⟩ := htext.hexDecode32_eq
  exact absurd hdecode (hno bytes)

/-- **When the decoder is exact.** The decoder does not panic and takes
exactly 64 digits for the texts of another length, the texts of 64 digits and
those where two bytes that are no pair come after pairs only. On the others it
panics, or takes a sign for a digit. -/
theorem exactKey_iff (s : String) :
    ExactKey s ↔ byteLength s ≠ 64 ∨ KeyText s ∨ RejectedPair s.toList := by
  constructor
  · intro hexact
    by_cases hlength : byteLength s = 64
    · obtain ⟨result, hresult⟩ := hexact.total
      rcases (hexDecode32_reads hlength).outcome with
        ⟨-, bytes, hok⟩ | ⟨hrejected, -⟩ | hfault
      · exact .inr (.inl ((hexact.exact_iff bytes).mp hok).1)
      · exact .inr (.inr hrejected)
      · exact absurd (hresult.symm.trans hfault) (returns_ne_fault result _)
    · exact .inl hlength
  · rintro (hlength | htext | hrejected)
    · exact exactKey_of_error (if_pos hlength)
    · exact htext.exactKey
    · by_cases hlength : byteLength s = 64
      · obtain ⟨error, herror⟩ := (hexDecode32_reads hlength).error_of_rejectedPair hrejected
        exact exactKey_of_error herror
      · exact exactKey_of_error (if_pos hlength)

/-- Digits do not start with `0x`. -/
theorem trimStartMatches0x_of_digits {cs : List Char}
    (h : ∀ c ∈ cs, isAsciiHexdigit c = true) : trimStartMatches0x cs = cs := by
  unfold trimStartMatches0x
  split
  · next rest => exact absurd (h 'x' (by simp)) (by decide)
  · rfl

/-- A key of 64 digits, with or without `0x`, is handed to the signer library
as the bytes it spells. -/
theorem signerFromPrivateKey_spelled {Signer : Type}
    (fromBytes : List UInt8 → Except ErrorChain Signer) {raw digits : String}
    (hraw : trim raw = "0x" ++ digits ∨ trim raw = digits) (hkey : KeyText digits) :
    ∃ key, Spells digits key ∧ signerFromPrivateKey fromBytes raw
      = addContext "failed to construct signer from SIGNER_PRIVATE_KEY"
          (returns (fromBytes key)) := by
  obtain ⟨key, hbytes, hdecode⟩ := hkey.hexDecode32_eq
  have hspells := spells_of_hexBytes hbytes
  rw [String.ofList_toList] at hspells
  have hself := trimStartMatches0x_of_digits hkey.digits
  have htrim : trimStartMatches0x (trim raw).toList = digits.toList := by
    rcases hraw with hraw | hraw
    · rw [hraw, String.toList_append]
      exact hself
    · rw [hraw, hself]
  refine ⟨key, hspells, ?_⟩
  unfold signerFromPrivateKey
  rw [htrim, String.ofList_toList]
  dsimp only
  rw [hdecode]
  rfl

/-- 32 times `+f`. -/
def signedKey : String := String.ofList (List.replicate 32 ['+', 'f']).flatten

/-- A letter of two bytes between 62 digits, across two slices. -/
def accentedKey : String := String.ofList ('1' :: 'é' :: List.replicate 61 '1')

/-- A key with a sign in every byte is taken, and a letter across two slices
panics. -/
theorem signedKey_accepted :
    (¬ KeyText signedKey ∧ hexDecode32 signedKey = returns (.ok (List.replicate 32 15)))
      ∧ hexDecode32 accentedKey = fault .charBoundary := by
  have hsigned : (hexDecode32 signedKey).run = .ok (.ok (List.replicate 32 15)) := by
    decide +kernel
  have haccented : (hexDecode32 accentedKey).run = .error .charBoundary := by decide +kernel
  refine ⟨⟨fun h => ?_, hsigned⟩, haccented⟩
  exact absurd (h.digits '+' (by decide)) (by decide)

end BaseEngine
