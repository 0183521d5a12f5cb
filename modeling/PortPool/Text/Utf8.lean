/-
# PortPool.Text.Utf8 -- characters as octets, and back

Bodies, path parameters, query strings and host names arrive as octets.  This
module writes characters as UTF-8 (`encode`) and reads octets one by one
(`step`).  Octets that are no UTF-8 come out as `none`, one for each maximal
run that begins a character and cannot go on; `strict?` refuses a text with
such a run, `lossy` writes U+FFFD for it.
-/
namespace PortPool.Text.Utf8

set_option autoImplicit false

/-- The octets of a text. -/
def encode (s : List Char) : List UInt8 := s.flatMap String.utf8EncodeChar

/-- The octets of a string. -/
def ofString (s : String) : List UInt8 := encode s.toList

/-- A character that has begun: how many octets are still missing, the bounds
of the next one, and the value of those read. -/
structure Pending where
  missing : Nat
  low : Nat
  high : Nat
  value : Nat
deriving DecidableEq, Repr

/-- The reader between two octets: what has begun, and what was read, latest
first. -/
structure Scan where
  pending : Option Pending
  read : List (Option Char)
deriving DecidableEq, Repr

namespace Scan

def start : Scan := ⟨none, []⟩

/-- Read an octet where a character begins.  The bounds of the second octet
keep out overlong forms, surrogates and values above U+10FFFF. -/
def begin (read : List (Option Char)) (b : Nat) : Scan :=
  if b < 0x80 then ⟨none, some (Char.ofNat b) :: read⟩
  else if b < 0xC2 then ⟨none, none :: read⟩
  else if b < 0xE0 then ⟨some ⟨1, 0x80, 0xBF, b - 0xC0⟩, read⟩
  else if b < 0xF0 then
    ⟨some ⟨2, if b = 0xE0 then 0xA0 else 0x80, if b = 0xED then 0x9F else 0xBF, b - 0xE0⟩, read⟩
  else if b < 0xF5 then
    ⟨some ⟨3, if b = 0xF0 then 0x90 else 0x80, if b = 0xF4 then 0x8F else 0xBF, b - 0xF0⟩, read⟩
  else ⟨none, none :: read⟩

/-- Read one more octet. -/
def step (s : Scan) (octet : UInt8) : Scan :=
  let b := octet.toNat
  match s.pending with
  | none => begin s.read b
  | some p =>
    if p.low ≤ b && b ≤ p.high then
      let value := p.value * 64 + (b - 0x80)
      match p.missing with
      | 0 | 1 => ⟨none, some (Char.ofNat value) :: s.read⟩
      | more + 1 => ⟨some ⟨more, 0x80, 0xBF, value⟩, s.read⟩
    else begin (none :: s.read) b

/-- What was read when no octet follows. -/
def finish (s : Scan) : List (Option Char) :=
  match s.pending with
  | none => s.read.reverse
  | some _ => (none :: s.read).reverse

end Scan

/-- The characters of the octets, `none` where they are no UTF-8. -/
def decode (octets : List UInt8) : List (Option Char) :=
  (octets.foldl Scan.step Scan.start).finish

/-- The text, if all of it is UTF-8. -/
def strict? (octets : List UInt8) : Option (List Char) := (decode octets).mapM id

/-- The text, with U+FFFD where it is no UTF-8. -/
def lossy (octets : List UInt8) : List Char := (decode octets).map (·.getD (Char.ofNat 0xFFFD))

end PortPool.Text.Utf8
