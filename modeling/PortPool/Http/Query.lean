/-
# PortPool.Http.Query -- filters in a query string

A filter travels as the pairs of a query string.  Unknown names are passed over;
a known name given twice, or a truth value other than `true` and `false`, makes
the query string unreadable.  A name without a value has the empty text.

`pairsOf…` is what a client writes, `…Filter?` what the service reads.
-/
import PortPool.Wire.Record
import PortPool.Text.Form

namespace PortPool.Http.Query

set_option autoImplicit false

/-- The value of a name, none if it is absent; unreadable if it is given twice. -/
def text? (name : String) (pairs : List (String × String)) : Option (Option String) :=
  match pairs.filter fun p => p.1 == name with
  | [] => some none
  | [(_, value)] => some (some value)
  | _ => none

/-- The truth value of a name. -/
def flag? (name : String) (pairs : List (String × String)) : Option (Option Bool) :=
  match text? name pairs with
  | none => none
  | some none => some none
  | some (some value) =>
    if value = "true" then some (some true)
    else if value = "false" then some (some false)
    else none

/-- The filter of ports in a query string. -/
def portFilter? (query : List UInt8) : Option PortFilter := do
  let pairs := Text.Form.parse query
  pure ⟨← flag? "is_reserved" pairs, ← text? "instance_id" pairs⟩

/-- The filter of bindings in a query string. -/
def bindingFilter? (query : List UInt8) : Option BindingFilter := do
  let pairs := Text.Form.parse query
  pure ⟨← text? "instance_id" pairs, ← flag? "active" pairs⟩

/-- The part of a name that instances are listed for. -/
def instanceName? (query : List UInt8) : Option (Option String) :=
  text? "name" (Text.Form.parse query)

/-- A truth value as text. -/
def flagText (b : Bool) : String := if b then "true" else "false"

/-- A name with its value, if it has one. -/
def pair (name : String) (value : Option String) : List (String × String) :=
  (value.map fun v => (name, v)).toList

/-- The pairs of a filter of ports. -/
def pairsOfPortFilter (f : PortFilter) : List (String × String) :=
  pair "is_reserved" (f.reserved.map flagText) ++ pair "instance_id" f.instanceId

/-- The pairs of a filter of bindings. -/
def pairsOfBindingFilter (f : BindingFilter) : List (String × String) :=
  pair "instance_id" f.instanceId ++ pair "active" (f.active.map flagText)

end PortPool.Http.Query
