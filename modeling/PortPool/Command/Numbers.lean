/-
# PortPool.Command.Numbers -- numbers typed at a command line

A number is a decimal numeral, with a sign where the number may have one, any
leading zeros and no blanks; it has to lie within the bounds of its kind.
-/
import PortPool.Command.Grammar
import PortPool.Ports

namespace PortPool.Command

set_option autoImplicit false

open PortPool.Text (Numeral.signed? Numeral.unsigned?)

/-- A signed number between two bounds. -/
def intOf? (low high : Int) (s : String) : Option Int :=
  (Numeral.signed? s.toList).filter fun i => low ≤ i && i ≤ high

/-- A port number. -/
def portOf? (s : String) : Option PortNumber := (intOf? 0 65535 s).bind PortNumber.ofInt?

/-- A number of ports to ask for. -/
def sizeOf? (s : String) : Option Int := intOf? (-0x8000000000000000) 0x7FFFFFFFFFFFFFFF s

/-- A number of seconds. -/
def secondsOf? (s : String) : Option Nat := (Numeral.unsigned? 10 s.toList).filter (· < UInt64.size)

/-- The check of a value that is read by `read`. -/
def checkBy {α : Type} (read : String → Option α) : Check := fun s =>
  if (read s).isSome then none else some .valueValidation

end PortPool.Command
