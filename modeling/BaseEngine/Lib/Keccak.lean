import BaseEngine.Lib.Text

/-!
# Keccak-256

The sponge with the permutation Keccak-f[1600], a rate of 136 bytes and the
padding of the original submission, on lists of bytes. A state is five rows
of five lanes, and a lane is a natural below `2 ^ 64`, so that digests of
short messages evaluate in the kernel.
-/

namespace Keccak

/-- Rotation of a lane to the left. -/
def rotl (n w : Nat) : Nat := (w <<< n ||| w >>> (64 - n)) % 2 ^ 64

structure Row where
  a : Nat
  b : Nat
  c : Nat
  d : Nat
  e : Nat

structure State where
  r₀ : Row
  r₁ : Row
  r₂ : Row
  r₃ : Row
  r₄ : Row

def Row.zero : Row := ⟨0, 0, 0, 0, 0⟩

def State.zero : State := ⟨.zero, .zero, .zero, .zero, .zero⟩

def Row.xor (r s : Row) : Row :=
  ⟨r.a ^^^ s.a, r.b ^^^ s.b, r.c ^^^ s.c, r.d ^^^ s.d, r.e ^^^ s.e⟩

def State.xor (s t : State) : State :=
  ⟨s.r₀.xor t.r₀, s.r₁.xor t.r₁, s.r₂.xor t.r₂, s.r₃.xor t.r₃, s.r₄.xor t.r₄⟩

/-! ## The permutation -/

/-- To every lane the parities of the two columns beside it. -/
def theta (s : State) : State :=
  let p := (((s.r₀.xor s.r₁).xor s.r₂).xor s.r₃).xor s.r₄
  let d : Row := ⟨p.e ^^^ rotl 1 p.b, p.a ^^^ rotl 1 p.c, p.b ^^^ rotl 1 p.d,
    p.c ^^^ rotl 1 p.e, p.d ^^^ rotl 1 p.a⟩
  s.xor ⟨d, d, d, d, d⟩

/-- The lanes rotated and moved to their new places. -/
def rhoPi (s : State) : State :=
  ⟨⟨s.r₀.a, rotl 44 s.r₁.b, rotl 43 s.r₂.c, rotl 21 s.r₃.d, rotl 14 s.r₄.e⟩,
   ⟨rotl 28 s.r₀.d, rotl 20 s.r₁.e, rotl 3 s.r₂.a, rotl 45 s.r₃.b, rotl 61 s.r₄.c⟩,
   ⟨rotl 1 s.r₀.b, rotl 6 s.r₁.c, rotl 25 s.r₂.d, rotl 8 s.r₃.e, rotl 18 s.r₄.a⟩,
   ⟨rotl 27 s.r₀.e, rotl 36 s.r₁.a, rotl 10 s.r₂.b, rotl 15 s.r₃.c, rotl 56 s.r₄.d⟩,
   ⟨rotl 62 s.r₀.c, rotl 55 s.r₁.d, rotl 39 s.r₂.e, rotl 41 s.r₃.a, rotl 2 s.r₄.b⟩⟩

def andNot (v w : Nat) : Nat := (2 ^ 64 - 1 - v) &&& w

def Row.chi (r : Row) : Row :=
  ⟨r.a ^^^ andNot r.b r.c, r.b ^^^ andNot r.c r.d, r.c ^^^ andNot r.d r.e,
    r.d ^^^ andNot r.e r.a, r.e ^^^ andNot r.a r.b⟩

def chi (s : State) : State := ⟨s.r₀.chi, s.r₁.chi, s.r₂.chi, s.r₃.chi, s.r₄.chi⟩

def iota (constant : Nat) (s : State) : State :=
  { s with r₀ := { s.r₀ with a := s.r₀.a ^^^ constant } }

def round (s : State) (constant : Nat) : State := iota constant (chi (rhoPi (theta s)))

def roundConstants : List Nat :=
  [0x0000000000000001, 0x0000000000008082, 0x800000000000808a, 0x8000000080008000,
   0x000000000000808b, 0x0000000080000001, 0x8000000080008081, 0x8000000000008009,
   0x000000000000008a, 0x0000000000000088, 0x0000000080008009, 0x000000008000000a,
   0x000000008000808b, 0x800000000000008b, 0x8000000000008089, 0x8000000000008003,
   0x8000000000008002, 0x8000000000000080, 0x000000000000800a, 0x800000008000000a,
   0x8000000080008081, 0x8000000000008080, 0x0000000080000001, 0x8000000080008008]

def permute (s : State) : State := roundConstants.foldl round s

/-! ## The sponge -/

/-- A one bit at the low end, zeros, and a one bit at the high end. -/
def pad (message : List UInt8) : List UInt8 :=
  match 135 - message.length % 136 with
  | 0 => message ++ [0x81]
  | zeros + 1 => message ++ 0x01 :: List.replicate zeros 0 ++ [0x80]

/-- Eight bytes a lane, least significant first. -/
def lanes : List UInt8 → List Nat
  | b₀ :: b₁ :: b₂ :: b₃ :: b₄ :: b₅ :: b₆ :: b₇ :: rest =>
      [b₇, b₆, b₅, b₄, b₃, b₂, b₁, b₀].foldl (fun n b => n * 256 + b.toNat) 0 :: lanes rest
  | _ => []

/-- The block of seventeen lanes, over zeros. -/
def block (ls : List Nat) : State :=
  let lane i := ls.getD i 0
  ⟨⟨lane 0, lane 1, lane 2, lane 3, lane 4⟩, ⟨lane 5, lane 6, lane 7, lane 8, lane 9⟩,
    ⟨lane 10, lane 11, lane 12, lane 13, lane 14⟩, ⟨lane 15, lane 16, 0, 0, 0⟩, .zero⟩

def absorb : Nat → State → List Nat → State
  | 0, s, _ => s
  | n + 1, s, ls => absorb n (permute (s.xor (block ls))) (ls.drop 17)

/-- The bytes of a lane in the other order. -/
def swapBytes (w : Nat) : Nat :=
  (List.range 8).foldl (fun n i => n * 256 + w / 256 ^ i % 256) 0

/-- The digest as a number of 256 bits. -/
def digest (message : List UInt8) : BitVec 256 :=
  let ls := lanes (pad message)
  let s := absorb (ls.length / 17) .zero ls
  BitVec.ofNat 256
    ([s.r₀.a, s.r₀.b, s.r₀.c, s.r₀.d].foldl (fun n w => n * 2 ^ 64 + swapBytes w) 0)

/-- The digest of nothing. -/
example : digest [] = 0xc5d2460186f7233c927e7db2dcc703c0e500b653ca82273b7bfad8045d85a470 := by
  decide +kernel

end Keccak
