/-
# PortPool.Text.Form -- names and values in a query string

A query string holds pairs of a name and a value: pairs are parted by `&`, a
name and its value by the first `=`, a blank is written `+`, and an octet
outside a small set is escaped.  Every query string can be read: an empty piece
is no pair, a piece without `=` has the empty value, and octets that are no
UTF-8 become U+FFFD.  `parse` reads, `render` writes.
-/
import PortPool.Text.Percent
import PortPool.Text.Split

namespace PortPool.Text.Form

set_option autoImplicit false

/-- The octets that stand for themselves in a name or a value. -/
def isPlain (octet : UInt8) : Bool :=
  let n := octet.toNat
  (0x30 ≤ n && n ≤ 0x39) || (0x41 ≤ n && n ≤ 0x5A) || (0x61 ≤ n && n ≤ 0x7A) ||
    n == 0x2A || n == 0x2D || n == 0x2E || n == 0x5F

/-- One octet of a name or a value, as it is written. -/
def encodeOctet (octet : UInt8) : List Char :=
  if octet = 0x20 then ['+']
  else if isPlain octet then [Char.ofNat octet.toNat]
  else Percent.escape octet

/-- A name or a value, as it is written. -/
def encode (s : String) : List Char := (Utf8.ofString s).flatMap encodeOctet

/-- A name or a value, as it is read. -/
def decode (octets : List UInt8) : String :=
  let spaced := octets.map fun octet => if octet = 0x2B then 0x20 else octet
  String.ofList (Utf8.lossy (Percent.decode spaced))

/-- The pairs of a query string, in order. -/
def parse (octets : List UInt8) : List (String × String) :=
  let parts := (pieces (0x26 : UInt8) octets).filter fun part => !part.isEmpty
  parts.map fun part =>
    let (name, value) := cutFirst (0x3D : UInt8) part
    (decode name, decode (value.getD []))

/-- The pairs as a query string. -/
def render (pairs : List (String × String)) : List Char :=
  List.intercalate ['&'] (pairs.map fun (name, value) => encode name ++ '=' :: encode value)

end PortPool.Text.Form
