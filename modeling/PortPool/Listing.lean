/-
# PortPool.Listing -- the ports and bindings that match a filter

Ports are listed in ascending order of their numbers; with an instance, which
must be registered, only those of its active bindings.  Bindings are listed with
the latest first, released ones included.
-/
import PortPool.Registry

namespace PortPool

set_option autoImplicit false

namespace Store

/-- The port belongs to an active binding of the instance. -/
def isHeldBy (s : Store) (owner : String) (r : PortRow) : Bool :=
  r.holders.any fun h => s.bindings.any fun b => b.id == h && b.isActive && b.owner == owner

/-- The ports that match a filter. -/
def listPorts (s : Store) (f : PortFilter) : Except Fault (List Port) := do
  match f.instanceId with
  | none => pure ()
  | some id => let _ ← s.getInstance id
  let matching (r : PortRow) : Bool :=
    f.reserved.all (· == s.isReserved r) && f.instanceId.all fun id => s.isHeldBy id r
  (s.ports.rows.filter matching).mapM s.readPort

/-- The bindings that match a filter. -/
def listBindings (s : Store) (f : BindingFilter) : Except Fault (List Binding) :=
  let matching (b : BindingRow) : Bool :=
    f.instanceId.all (· == b.owner) && f.active.all (· == b.isActive)
  (s.bindings.filter matching).mapM (·.read)

end Store

end PortPool
