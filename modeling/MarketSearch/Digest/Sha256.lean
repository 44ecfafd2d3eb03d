/-
The SHA-256 digest.

The message is filled up to whole blocks of 64 bytes: a one bit, zeros, and
its length in bits.  Each block is stretched to 64 words and mixed into a
state of eight, one round a word.
-/
import MarketSearch.Text.Utf8

namespace MarketSearch
namespace Sha256

def blockSize : Nat := 64

/-! ## Filling up -/

/-- The zero bytes between the mark after the message and its length. -/
def zerosAfter (size : Nat) : Nat := (64 - (size + 9) % 64) % 64

/-- A number in so many bytes, the most significant first. -/
def bigEndian (n : Nat) : (size : Nat) → Bytes
  | 0 => []
  | size + 1 => UInt8.ofNat (n / Nat.pow 256 size % 256) :: bigEndian n size

def pad (message : Bytes) : Bytes :=
  message ++ 0x80 :: (List.replicate (zerosAfter message.length) 0 ++
    bigEndian (8 * message.length) 8)

/-! ## Words -/

def word (a b c d : UInt8) : UInt32 :=
  UInt32.ofNat (((a.toNat * 256 + b.toNat) * 256 + c.toNat) * 256 + d.toNat)

def words : Bytes → List UInt32
  | a :: b :: c :: d :: rest => word a b c d :: words rest
  | _ => []

def rotate (x n : UInt32) : UInt32 := (x >>> n) ||| (x <<< (32 - n))

/-- The word that follows, from those before it, the latest first. -/
def nextWord (ws : List UInt32) : UInt32 :=
  let back (i : Nat) : UInt32 := ws[i]?.getD 0
  let s0 := rotate (back 14) 7 ^^^ rotate (back 14) 18 ^^^ (back 14 >>> 3)
  let s1 := rotate (back 1) 17 ^^^ rotate (back 1) 19 ^^^ (back 1 >>> 10)
  back 15 + s0 + back 6 + s1

/-- Adds `n` words in front. -/
def stretch (ws : List UInt32) : (n : Nat) → List UInt32
  | 0 => ws
  | n + 1 => stretch (nextWord ws :: ws) n

/-- The 64 words of a block. -/
def schedule (block : Bytes) : List UInt32 := (stretch (words block).reverse 48).reverse

/-! ## Rounds -/

/-- The first 32 bits after the point of the cube roots of the first 64 primes. -/
def roundConstants : List UInt32 :=
  [0x428a2f98, 0x71374491, 0xb5c0fbcf, 0xe9b5dba5, 0x3956c25b, 0x59f111f1, 0x923f82a4, 0xab1c5ed5,
   0xd807aa98, 0x12835b01, 0x243185be, 0x550c7dc3, 0x72be5d74, 0x80deb1fe, 0x9bdc06a7, 0xc19bf174,
   0xe49b69c1, 0xefbe4786, 0x0fc19dc6, 0x240ca1cc, 0x2de92c6f, 0x4a7484aa, 0x5cb0a9dc, 0x76f988da,
   0x983e5152, 0xa831c66d, 0xb00327c8, 0xbf597fc7, 0xc6e00bf3, 0xd5a79147, 0x06ca6351, 0x14292967,
   0x27b70a85, 0x2e1b2138, 0x4d2c6dfc, 0x53380d13, 0x650a7354, 0x766a0abb, 0x81c2c92e, 0x92722c85,
   0xa2bfe8a1, 0xa81a664b, 0xc24b8b70, 0xc76c51a3, 0xd192e819, 0xd6990624, 0xf40e3585, 0x106aa070,
   0x19a4c116, 0x1e376c08, 0x2748774c, 0x34b0bcb5, 0x391c0cb3, 0x4ed8aa4a, 0x5b9cca4f, 0x682e6ff3,
   0x748f82ee, 0x78a5636f, 0x84c87814, 0x8cc70208, 0x90befffa, 0xa4506ceb, 0xbef9a3f7, 0xc67178f2]

structure State where
  a : UInt32
  b : UInt32
  c : UInt32
  d : UInt32
  e : UInt32
  f : UInt32
  g : UInt32
  h : UInt32

/-- The first 32 bits after the point of the square roots of the first 8 primes. -/
def start : State :=
  ⟨0x6a09e667, 0xbb67ae85, 0x3c6ef372, 0xa54ff53a, 0x510e527f, 0x9b05688c, 0x1f83d9ab, 0x5be0cd19⟩

/-- One round, with its constant and its word. -/
def round (s : State) (input : UInt32 × UInt32) : State :=
  let s1 := rotate s.e 6 ^^^ rotate s.e 11 ^^^ rotate s.e 25
  let choice := (s.e &&& s.f) ^^^ (~~~s.e &&& s.g)
  let t1 := s.h + s1 + choice + input.1 + input.2
  let s0 := rotate s.a 2 ^^^ rotate s.a 13 ^^^ rotate s.a 22
  let majority := (s.a &&& s.b) ^^^ (s.a &&& s.c) ^^^ (s.b &&& s.c)
  ⟨t1 + (s0 + majority), s.a, s.b, s.c, s.d + t1, s.e, s.f, s.g⟩

def add (s t : State) : State :=
  ⟨s.a + t.a, s.b + t.b, s.c + t.c, s.d + t.d, s.e + t.e, s.f + t.f, s.g + t.g, s.h + t.h⟩

def mix (s : State) (block : Bytes) : State :=
  add s ((roundConstants.zip (schedule block)).foldl round s)

/-- Mixes in the blocks of a padded message. -/
def mixAll (s : State) : Bytes → State
  | [] => s
  | b :: bs => mixAll (mix s (b :: bs.take (blockSize - 1))) (bs.drop (blockSize - 1))
termination_by bs => bs.length
decreasing_by
  simp only [List.length_drop, List.length_cons]
  omega

def State.bytes (s : State) : Bytes :=
  [s.a, s.b, s.c, s.d, s.e, s.f, s.g, s.h].flatMap fun w => bigEndian w.toNat 4

/-- The 32 bytes of the digest. -/
def digest (message : Bytes) : Bytes := (mixAll start (pad message)).bytes

end Sha256
end MarketSearch
