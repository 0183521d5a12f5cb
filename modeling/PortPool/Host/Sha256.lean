/-
# PortPool.Host.Sha256 -- the hash of an identity

SHA-256: the message is padded to whole blocks of 64 octets, each block is
expanded to 64 words, and 64 rounds mix them into a state of eight words.
`digest` is the hash as 32 octets, `hex` writes octets as lower-case hexadecimal
digits.
-/
import PortPool.Text.Numeral

namespace PortPool.Host.Sha256

set_option autoImplicit false

/-- The first 32 bits of the fractions of the cube roots of the first 64 primes. -/
def roundConstants : List UInt32 :=
  [0x428a2f98, 0x71374491, 0xb5c0fbcf, 0xe9b5dba5, 0x3956c25b, 0x59f111f1, 0x923f82a4, 0xab1c5ed5,
    0xd807aa98, 0x12835b01, 0x243185be, 0x550c7dc3, 0x72be5d74, 0x80deb1fe, 0x9bdc06a7, 0xc19bf174,
    0xe49b69c1, 0xefbe4786, 0x0fc19dc6, 0x240ca1cc, 0x2de92c6f, 0x4a7484aa, 0x5cb0a9dc, 0x76f988da,
    0x983e5152, 0xa831c66d, 0xb00327c8, 0xbf597fc7, 0xc6e00bf3, 0xd5a79147, 0x06ca6351, 0x14292967,
    0x27b70a85, 0x2e1b2138, 0x4d2c6dfc, 0x53380d13, 0x650a7354, 0x766a0abb, 0x81c2c92e, 0x92722c85,
    0xa2bfe8a1, 0xa81a664b, 0xc24b8b70, 0xc76c51a3, 0xd192e819, 0xd6990624, 0xf40e3585, 0x106aa070,
    0x19a4c116, 0x1e376c08, 0x2748774c, 0x34b0bcb5, 0x391c0cb3, 0x4ed8aa4a, 0x5b9cca4f, 0x682e6ff3,
    0x748f82ee, 0x78a5636f, 0x84c87814, 0x8cc70208, 0x90befffa, 0xa4506ceb, 0xbef9a3f7, 0xc67178f2]

/-- The eight words of the state. -/
structure State where
  a : UInt32
  b : UInt32
  c : UInt32
  d : UInt32
  e : UInt32
  f : UInt32
  g : UInt32
  h : UInt32
deriving DecidableEq, Repr

/-- The first 32 bits of the fractions of the square roots of the first eight
primes. -/
def State.initial : State :=
  ⟨0x6a09e667, 0xbb67ae85, 0x3c6ef372, 0xa54ff53a, 0x510e527f, 0x9b05688c, 0x1f83d9ab, 0x5be0cd19⟩

/-- Turn a word right. -/
def rotate (w k : UInt32) : UInt32 := (w >>> k) ||| (w <<< (32 - k))

/-- A number as octets, the most significant first. -/
def bigEndian (count n : Nat) : List UInt8 :=
  (List.range count).map fun i => UInt8.ofNat (n / Nat.pow 256 (count - 1 - i))

/-- The message with a one bit, zeros and its length in bits: whole blocks. -/
def pad (message : List UInt8) : List UInt8 :=
  let zeros := (119 - message.length % 64) % 64
  message ++ 0x80 :: List.replicate zeros 0 ++ bigEndian 8 (8 * message.length)

/-- The octets in groups of four, as words. -/
def wordsOf : List UInt8 → List UInt32
  | w :: x :: y :: z :: rest =>
    (w.toUInt32 <<< 24 ||| x.toUInt32 <<< 16 ||| y.toUInt32 <<< 8 ||| z.toUInt32) :: wordsOf rest
  | _ => []

/-- One more word of a schedule whose words stand latest first. -/
def extend (schedule : List UInt32) : List UInt32 :=
  let at' (i : Nat) : UInt32 := schedule.getD i 0
  let s0 := rotate (at' 14) 7 ^^^ rotate (at' 14) 18 ^^^ (at' 14 >>> 3)
  let s1 := rotate (at' 1) 17 ^^^ rotate (at' 1) 19 ^^^ (at' 1 >>> 10)
  (at' 15 + s0 + at' 6 + s1) :: schedule

/-- The 64 words of a block of sixteen. -/
def schedule (block : List UInt32) : List UInt32 := (Nat.repeat extend 48 block.reverse).reverse

/-- One round. -/
def round (s : State) (constant word : UInt32) : State :=
  let s1 := rotate s.e 6 ^^^ rotate s.e 11 ^^^ rotate s.e 25
  let choice := (s.e &&& s.f) ^^^ (~~~s.e &&& s.g)
  let t1 := s.h + s1 + choice + constant + word
  let s0 := rotate s.a 2 ^^^ rotate s.a 13 ^^^ rotate s.a 22
  let majority := (s.a &&& s.b) ^^^ (s.a &&& s.c) ^^^ (s.b &&& s.c)
  ⟨t1 + (s0 + majority), s.a, s.b, s.c, s.d + t1, s.e, s.f, s.g⟩

/-- Mix a block into the state. -/
def compress (s : State) (block : List UInt32) : State :=
  let t := (roundConstants.zip (schedule block)).foldl
    (fun t (constant, word) => round t constant word) s
  ⟨s.a + t.a, s.b + t.b, s.c + t.c, s.d + t.d, s.e + t.e, s.f + t.f, s.g + t.g, s.h + t.h⟩

/-- Mix in `count` blocks, one after the other. -/
def compressAll : Nat → State → List UInt32 → State
  | 0, s, _ => s
  | count + 1, s, words => compressAll count (compress s (words.take 16)) (words.drop 16)

/-- The octets of a state. -/
def State.octets (s : State) : List UInt8 :=
  [s.a, s.b, s.c, s.d, s.e, s.f, s.g, s.h].flatMap fun w => bigEndian 4 w.toNat

/-- The hash of a message. -/
def digest (message : List UInt8) : List UInt8 :=
  let padded := pad message
  (compressAll (padded.length / 64) State.initial (wordsOf padded)).octets

/-- Octets as lower-case hexadecimal digits. -/
def hex (octets : List UInt8) : List Char :=
  octets.flatMap fun o =>
    [Text.Numeral.hexDigit (o.toNat / 16), Text.Numeral.hexDigit (o.toNat % 16)]

theorem digest_length (message : List UInt8) : (digest message).length = 32 := by
  simp [digest, State.octets, bigEndian]

end PortPool.Host.Sha256
