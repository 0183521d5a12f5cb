/-
# PortPool.Proofs.Http.Query -- a filter is read as it was written

A client writes the parts of a filter that are there as pairs, and the service reads
these pairs from the query string.  No part can be taken for another, whatever text an
instance id is, and a part that is not there is not read as one that is.
-/
import PortPool.Http.Query
import PortPool.Proofs.Text.Form

namespace PortPool.Http.Query

set_option autoImplicit false

/-- The octets of a query string. -/
def octetsOf (pairs : List (String × String)) : List UInt8 :=
  Text.Utf8.encode (Text.Form.render pairs)

theorem filter_pair (name other : String) (value : Option String) :
    (pair name value).filter (fun p => p.1 == other) =
      if name = other then pair name value else [] := by
  cases value with
  | none => simp [pair]
  | some v => by_cases same : name = other <;> simp [pair, same]

/-- A name is read as the only pair of that name says. -/
theorem text?_of_filter {name : String} {value : Option String} {pairs : List (String × String)}
    (only : pairs.filter (fun p => p.1 == name) = pair name value) :
    text? name pairs = some value := by
  rw [text?, only]
  cases value <;> rfl

theorem flag?_of_text? {name : String} {pairs : List (String × String)} {flag : Option Bool}
    (read : text? name pairs = some (flag.map flagText)) : flag? name pairs = some flag := by
  rw [flag?, read]
  cases flag with
  | none => rfl
  | some b => cases b <;> rfl

/-- **A filter of ports is read as it was written.** -/
theorem portFilter?_octetsOf (f : PortFilter) :
    portFilter? (octetsOf (pairsOfPortFilter f)) = some f := by
  have reserved : flag? "is_reserved" (pairsOfPortFilter f) = some f.reserved :=
    flag?_of_text? (text?_of_filter (by simp [pairsOfPortFilter, filter_pair]))
  have instanceId : text? "instance_id" (pairsOfPortFilter f) = some f.instanceId :=
    text?_of_filter (by simp [pairsOfPortFilter, filter_pair])
  rw [portFilter?, octetsOf, Text.Form.parse_render, reserved, instanceId]
  rfl

/-- **A filter of bindings is read as it was written.** -/
theorem bindingFilter?_octetsOf (f : BindingFilter) :
    bindingFilter? (octetsOf (pairsOfBindingFilter f)) = some f := by
  have instanceId : text? "instance_id" (pairsOfBindingFilter f) = some f.instanceId :=
    text?_of_filter (by simp [pairsOfBindingFilter, filter_pair])
  have active : flag? "active" (pairsOfBindingFilter f) = some f.active :=
    flag?_of_text? (text?_of_filter (by simp [pairsOfBindingFilter, filter_pair]))
  rw [bindingFilter?, octetsOf, Text.Form.parse_render, instanceId, active]
  rfl

end PortPool.Http.Query
