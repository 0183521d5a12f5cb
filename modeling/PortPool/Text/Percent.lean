/-
# PortPool.Text.Percent -- octets written with a percent sign

In a path an octet may be written as a percent sign and two hexadecimal digits.
`decode` reads such escapes and leaves a percent sign that begins none as it is,
so every text can be decoded; `encode` writes the octets outside a given set.
-/
import PortPool.Text.Utf8
import PortPool.Text.Numeral

namespace PortPool.Text.Percent

set_option autoImplicit false

/-- The value of a hexadecimal digit. -/
def hexValue? (octet : UInt8) : Option Nat := Numeral.digit? 16 (Char.ofNat octet.toNat)

/-- An octet as a percent sign and two upper-case hexadecimal digits. -/
def escape (octet : UInt8) : List Char :=
  let digit (n : Nat) : Char := Char.ofNat (if n < 10 then 0x30 + n else 0x37 + n)
  ['%', digit (octet.toNat / 16), digit (octet.toNat % 16)]

/-- The octets with their escapes read. -/
def decode : List UInt8 → List UInt8
  | [] => []
  | 0x25 :: a :: b :: s =>
    match hexValue? a, hexValue? b with
    | some high, some low => UInt8.ofNat (high * 16 + low) :: decode s
    | _, _ => 0x25 :: decode (a :: b :: s)
  | octet :: s => octet :: decode s

/-- The octets as characters, each outside `keep` escaped. -/
def encode (keep : UInt8 → Bool) (octets : List UInt8) : List Char :=
  octets.flatMap fun octet => if keep octet then [Char.ofNat octet.toNat] else escape octet

end PortPool.Text.Percent
