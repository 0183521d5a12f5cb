/-
# PortPool.Url.Escape -- what stands for itself in a part of a URL

A URL is written with visible ASCII, and each of its parts leaves out some more
characters, first of all those that would end the part.  Any other octet of a part
is escaped.  A percent sign is kept everywhere, so what was escaped before stays
as it is.
-/
import PortPool.Text.Percent

namespace PortPool.Url

set_option autoImplicit false

open PortPool.Text

/-- An octet of visible ASCII that is not among the given characters. -/
def visibleBut (others : List Char) (octet : UInt8) : Bool :=
  0x20 < octet.toNat && octet.toNat < 0x7F && !others.contains (Char.ofNat octet.toNat)

/-- What no path holds. -/
def notInPath : List Char := ['"', '#', '<', '>', '?', '\x60', '\x7b', '\x7d']

/-- The octets that stand for themselves in a path. -/
def inPath : UInt8 → Bool := visibleBut notInPath

/-- The octets that stand for themselves in the name or the password of a user. -/
def inUser : UInt8 → Bool :=
  visibleBut (notInPath ++ ['/', ':', ';', '=', '@', '[', '\\', ']', '^', '|'])

/-- The octets that stand for themselves in a query.  A single quote does only
where the scheme has no rules of its own. -/
def inQuery (special : Bool) : UInt8 → Bool :=
  visibleBut (['"', '#', '<', '>'] ++ if special then [Char.ofNat 0x27] else [])

/-- The octets that stand for themselves in a fragment. -/
def inFragment : UInt8 → Bool := visibleBut ['"', '<', '>', '\x60']

/-- The octets that stand for themselves in a part that is one piece: all of
ASCII but controls. -/
def inOpaque (octet : UInt8) : Bool := 0x20 ≤ octet.toNat && octet.toNat < 0x7F

/-- A text with all other octets escaped. -/
def escaped (keep : UInt8 → Bool) (s : List Char) : List Char := Percent.encode keep (Utf8.encode s)

end PortPool.Url
