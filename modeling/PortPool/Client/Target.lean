/-
# PortPool.Client.Target -- what a release names at the command line

A target is a port, `8000`, or both ends of a span, `8000:8002`.  Each number may
have blanks around it, a plus sign and leading zeros.
-/
import PortPool.Wire.Record
import PortPool.Text.Blank
import PortPool.Text.Split

namespace PortPool.Client

set_option autoImplicit false

open PortPool.Text (Numeral.decimal Numeral.unsigned?)

/-- What a release names. -/
inductive Target where
  | port (number : PortNumber)
  | span (first last : PortNumber)
deriving DecidableEq, Repr

/-- Why a text is no target. -/
inductive TargetFlaw where
  | noPort (text : String)
  | reversed (first last : Nat)
deriving DecidableEq, Repr

def TargetFlaw.message : TargetFlaw → String
  | .noPort text => "invalid port: " ++ text
  | .reversed first last =>
    "range start " ++ Numeral.decimal first ++ " is above end " ++ Numeral.decimal last

namespace Target

/-- The port of a numeral, blanks around it. -/
def portOf (text : List Char) : Except TargetFlaw PortNumber :=
  match Numeral.unsigned? 10 (Text.trim text) with
  | some n => if h : n < 65536 then .ok ⟨n, h⟩ else .error (.noPort (String.ofList text))
  | none => .error (.noPort (String.ofList text))

/-- The target of a text. -/
def parse (text : String) : Except TargetFlaw Target :=
  match Text.cutFirst ':' text.toList with
  | (number, none) => (portOf number).map .port
  | (first, some last) => do
    let first ← portOf first
    let last ← portOf last
    if last < first then .error (.reversed first.val last.val) else pure (.span first last)

/-- The request that releases a target, by an instance or by no one. -/
def request (owner : Option String) : Target → ReleaseRequest
  | .port number => ⟨owner, some number, none, none⟩
  | .span first last => ⟨owner, none, some first, some last⟩

end Target

end PortPool.Client
