import BaseEngine.Lib.Text

/-!
# SHA-256

The hash function on lists of bytes. Words are naturals below `2 ^ 32`, so
that digests of short messages evaluate in the kernel.

The message schedule is produced on the way: `rounds` carries the last
sixteen words, takes the oldest one and appends its successor.
-/

namespace Sha256

def word (n : Nat) : Nat := n % 2 ^ 32

/-- Rotation to the right. -/
def rotr (n w : Nat) : Nat := word (w >>> n ||| w <<< (32 - n))

def roundConstants : List Nat :=
  [0x428a2f98, 0x71374491, 0xb5c0fbcf, 0xe9b5dba5, 0x3956c25b, 0x59f111f1, 0x923f82a4, 0xab1c5ed5,
   0xd807aa98, 0x12835b01, 0x243185be, 0x550c7dc3, 0x72be5d74, 0x80deb1fe, 0x9bdc06a7, 0xc19bf174,
   0xe49b69c1, 0xefbe4786, 0x0fc19dc6, 0x240ca1cc, 0x2de92c6f, 0x4a7484aa, 0x5cb0a9dc, 0x76f988da,
   0x983e5152, 0xa831c66d, 0xb00327c8, 0xbf597fc7, 0xc6e00bf3, 0xd5a79147, 0x06ca6351, 0x14292967,
   0x27b70a85, 0x2e1b2138, 0x4d2c6dfc, 0x53380d13, 0x650a7354, 0x766a0abb, 0x81c2c92e, 0x92722c85,
   0xa2bfe8a1, 0xa81a664b, 0xc24b8b70, 0xc76c51a3, 0xd192e819, 0xd6990624, 0xf40e3585, 0x106aa070,
   0x19a4c116, 0x1e376c08, 0x2748774c, 0x34b0bcb5, 0x391c0cb3, 0x4ed8aa4a, 0x5b9cca4f, 0x682e6ff3,
   0x748f82ee, 0x78a5636f, 0x84c87814, 0x8cc70208, 0x90befffa, 0xa4506ceb, 0xbef9a3f7, 0xc67178f2]

structure State where
  a : Nat
  b : Nat
  c : Nat
  d : Nat
  e : Nat
  f : Nat
  g : Nat
  h : Nat

def initial : State :=
  ⟨0x6a09e667, 0xbb67ae85, 0x3c6ef372, 0xa54ff53a, 0x510e527f, 0x9b05688c, 0x1f83d9ab, 0x5be0cd19⟩

def round (s : State) (k w : Nat) : State :=
  let t₁ := s.h + (rotr 6 s.e ^^^ rotr 11 s.e ^^^ rotr 25 s.e)
    + ((s.e &&& s.f) ^^^ ((2 ^ 32 - 1 - s.e) &&& s.g)) + k + w
  let t₂ := (rotr 2 s.a ^^^ rotr 13 s.a ^^^ rotr 22 s.a)
    + ((s.a &&& s.b) ^^^ (s.a &&& s.c) ^^^ (s.b &&& s.c))
  ⟨word (t₁ + t₂), s.a, s.b, s.c, word (s.d + t₁), s.e, s.f, s.g⟩

/-- The word that follows the sixteen of the window. -/
def nextWord (window : List Nat) : Nat :=
  let w₁ := window.getD 1 0
  let w₁₄ := window.getD 14 0
  word ((rotr 17 w₁₄ ^^^ rotr 19 w₁₄ ^^^ w₁₄ >>> 10) + window.getD 9 0
    + (rotr 7 w₁ ^^^ rotr 18 w₁ ^^^ w₁ >>> 3) + window.getD 0 0)

def rounds : State → List Nat → List Nat → State
  | s, k :: ks, w :: ws => rounds (round s k w) ks (ws ++ [nextWord (w :: ws)])
  | s, _, _ => s

def compress (s : State) (block : List Nat) : State :=
  let r := rounds s roundConstants block
  ⟨word (s.a + r.a), word (s.b + r.b), word (s.c + r.c), word (s.d + r.d),
    word (s.e + r.e), word (s.f + r.f), word (s.g + r.g), word (s.h + r.h)⟩

/-- A number in four bytes, most significant first. -/
def wordBytes (n : Nat) : List UInt8 :=
  [UInt8.ofNat (n / 2 ^ 24), UInt8.ofNat (n / 2 ^ 16), UInt8.ofNat (n / 2 ^ 8), UInt8.ofNat n]

/-- A one bit, zeros, and the length in bits in the last eight bytes. -/
def pad (message : List UInt8) : List UInt8 :=
  let bits := 8 * message.length
  message ++ 0x80 :: List.replicate ((119 - message.length % 64) % 64) 0
    ++ wordBytes (bits / 2 ^ 32) ++ wordBytes bits

def words : List UInt8 → List Nat
  | b₀ :: b₁ :: b₂ :: b₃ :: rest =>
      (((b₀.toNat * 256 + b₁.toNat) * 256 + b₂.toNat) * 256 + b₃.toNat) :: words rest
  | _ => []

def absorb : Nat → State → List Nat → State
  | 0, s, _ => s
  | n + 1, s, ws => absorb n (compress s (ws.take 16)) (ws.drop 16)

/-- The digest as a number of 256 bits. -/
def digest (message : List UInt8) : BitVec 256 :=
  let ws := words (pad message)
  let s := absorb (ws.length / 16) initial ws
  BitVec.ofNat 256
    ([s.a, s.b, s.c, s.d, s.e, s.f, s.g, s.h].foldl (fun n w => n * 2 ^ 32 + w) 0)

/-- The digest in lower-case hexadecimal. -/
def hexDigest (message : List UInt8) : String := Text.lowerHex 64 (digest message).toNat

/-- The test vector of the standard for `abc`. -/
example : digest [0x61, 0x62, 0x63]
    = 0xba7816bf8f01cfea414140de5dae2223b00361a396177a9cb410ff61f20015ad := by
  decide +kernel

end Sha256
