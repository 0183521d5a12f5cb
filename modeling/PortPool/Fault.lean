/-
# PortPool.Fault -- why a request is refused

A fault is a cause; its wording (`message`), its machine-readable kind and the
class of its HTTP status follow from it here and nowhere else.  The text of a
fault of the service itself is not told to clients.
-/
import PortPool.Ports
import PortPool.Wire.Record

namespace PortPool

set_option autoImplicit false

open PortPool.Text (Numeral.decimal Numeral.signed)

/-- Why a body is refused before it is looked at as a request. -/
inductive BodyFlaw where
  | notDeclaredJson
  | tooLong
  | malformed
  | mismatched
deriving DecidableEq, Repr

def BodyFlaw.message : BodyFlaw → String
  | .notDeclaredJson => "Expected request with `Content-Type: application/json`"
  | .tooLong => "Failed to buffer the request body: length limit exceeded"
  | .malformed => "Failed to parse the request body as JSON"
  | .mismatched => "Failed to deserialize the JSON body into the target type"

/-- What is wrong with a request itself. -/
inductive RequestFlaw where
  | instanceIdMissing
  | nameMissing
  | sizeZero
  | sizeNotPositive (size : Int)
  | sizeTooLarge (size : Int)
  | ownerMissing
  | selectorMissing
  | selectorMixed
  | spanReversed (first last : Nat)
  | body (flaw : BodyFlaw)
  | other (text : String)
deriving DecidableEq, Repr

def RequestFlaw.message : RequestFlaw → String
  | .instanceIdMissing => "instance_id is required"
  | .nameMissing => "name is required"
  | .sizeZero => "range must be a positive number of ports"
  | .sizeNotPositive size => "range must be a positive number of ports, got " ++ Numeral.signed size
  | .sizeTooLarge size => "range " ++ Numeral.signed size ++ " is too large"
  | .ownerMissing => "instance_id is required to release ports"
  | .selectorMissing => "port_number or start_port and end_port is required"
  | .selectorMixed => "give either port_number or both start_port and end_port"
  | .spanReversed first last =>
    "start_port " ++ Numeral.decimal first ++ " is above end_port " ++ Numeral.decimal last
  | .body flaw => flaw.message
  | .other text => text

/-- What a release names: a port, a span, or something described otherwise. -/
inductive Subject where
  | port (number : Nat)
  | span (first last : Nat)
  | other (text : String)
deriving DecidableEq, Repr

/-- The text of what a release names; a span of one port shows both ends. -/
def Subject.text : Subject → String
  | .port number => "port " ++ Numeral.decimal number
  | .span first last => Numeral.decimal first ++ ":" ++ Numeral.decimal last
  | .other text => text

/-- Why the pool's settings are refused. -/
inductive SettingsFlaw where
  | range (flaw : RangeFlaw)
  | other (text : String)
deriving DecidableEq, Repr

def SettingsFlaw.message : SettingsFlaw → String
  | .range flaw => flaw.message
  | .other text => text

/-- A request that is not granted. -/
inductive Fault where
  | invalidRequest (flaw : RequestFlaw)
  | instanceNotRegistered (id : String)
  | alreadyRegistered (id : String)
  | poolExhausted (size start stop : Nat)
  | bindingNotFound (subject : Subject)
  | portNotFound (number : Nat)
  | notBound (subject : Subject)
  | settings (flaw : SettingsFlaw)
  | store
  | internal (text : String)
deriving DecidableEq, Repr

namespace Fault

/-- The machine-readable kind. -/
def kind : Fault → String
  | .invalidRequest _ => "invalid_request"
  | .instanceNotRegistered _ => "instance_not_registered"
  | .alreadyRegistered _ => "already_registered"
  | .poolExhausted .. => "pool_exhausted"
  | .bindingNotFound _ => "binding_not_found"
  | .portNotFound _ => "port_not_found"
  | .notBound _ => "not_bound"
  | .settings _ | .store | .internal _ => "internal"

/-- The text. -/
def message : Fault → String
  | .invalidRequest flaw => "invalid request: " ++ flaw.message
  | .instanceNotRegistered id => "instance not registered: " ++ id
  | .alreadyRegistered id => "instance already registered: " ++ id
  | .poolExhausted size start stop =>
    "pool exhausted: no " ++ Numeral.decimal size ++ " contiguous port(s) available in [" ++
      Numeral.decimal start ++ ", " ++ Numeral.decimal stop ++ ")"
  | .bindingNotFound subject => "no binding matches " ++ subject.text
  | .portNotFound number => "port " ++ Numeral.decimal number ++ " is not known to the pool"
  | .notBound subject => subject.text ++ " is not bound"
  | .settings flaw => "invalid configuration: " ++ flaw.message
  | .store => "store error"
  | .internal text => "internal error: " ++ text

/-- The HTTP status. -/
def status : Fault → Nat
  | .invalidRequest _ | .notBound _ => 400
  | .instanceNotRegistered _ | .bindingNotFound _ | .portNotFound _ => 404
  | .alreadyRegistered _ | .poolExhausted .. => 409
  | .settings _ | .store | .internal _ => 500

/-- What a client is told. -/
def report (f : Fault) : ErrorReport :=
  ⟨f.kind, if 500 ≤ f.status then "internal server error" else f.message⟩

end Fault

end PortPool
