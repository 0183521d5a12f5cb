/-
# PortPool.Domain.Name -- domain names in ASCII

The name of a server may be typed with any characters.  It is asked for in ASCII:
the name is spelled and composed, cut into labels at its points, each label is
read and checked, and then written in ASCII.
-/
import PortPool.Domain.Label

namespace PortPool.Domain

set_option autoImplicit false

open PortPool.Text (pieces)
open PortPool.Unicode (composed)

/-- A character of ASCII that no name holds: controls, blanks, and what has a
meaning around a name. -/
def isForbidden (c : Char) : Bool :=
  c.toNat ≤ 0x20 || c.toNat = 0x7F || "%#/:<>?@[\\]^|".toList.contains c

/-- The name in ASCII; none if it is no name. -/
def inAscii (name : List Char) : Option (List Char) := do
  let text := composed (← name.mapM spelled).flatten
  if text.any isForbidden then none
  else
    let labels ← (pieces '.' text).mapM Label.reading
    let leftward := labels.any (·.any Label.runsLeft)
    if leftward && !labels.all Label.keepsDirection then none
    else some (List.intercalate ['.'] (labels.map Label.written))

end PortPool.Domain
