/-
# PortPool.Release -- giving ports back

A release names one port of a binding or its exact span, and may name the
instance that owns it.  Named instances must be registered, and then only their
own bindings count.  Where the pool requires an owner, a release without one is
refused.  The binding that matches is marked as released, which happens to it
once; its ports are free from then on.
-/
import PortPool.Registry
import PortPool.Settings

namespace PortPool

set_option autoImplicit false

namespace Store

/-- The pool requires an owner, and none is named. -/
def checkOwnership (ownership : Ownership) (owner : Option String) : Except Fault Unit :=
  if ownership = .required ∧ owner.isNone then .error (.invalidRequest .ownerMissing) else .ok ()

/-- The named instance is registered. -/
def checkInstance (s : Store) : Option String → Except Fault Unit
  | none => .ok ()
  | some id => do
    let _ ← s.getInstance id

/-- The binding belongs to the named instance, or none is named. -/
def ownedBy (owner : Option String) (b : BindingRow) : Bool := owner.all (· == b.owner)

/-- Mark a binding as released. -/
def finish (s : Store) (b : BindingRow) (now : Time.Instant) : Except Fault (Binding × Store) := do
  let binding ← b.read
  match s.setReleased b.id (some (Time.Rfc3339.stored now)) with
  | .ok (_, t) => pure ({ binding with releasedAt := some now }, t)
  | .error _ => .error .store

/-- Release the active binding that a port belongs to. -/
def releasePort (s : Store) (ownership : Ownership) (number : PortNumber)
    (owner : Option String) (now : Time.Instant) : Except Fault (Binding × Store) := do
  checkOwnership ownership owner
  s.checkInstance owner
  match s.ports.find? number.val with
  | none => .error (.portNotFound number.val)
  | some r =>
    let _ ← s.readPort r
    let matching (b : BindingRow) : Bool :=
      r.holders.contains b.id && b.isActive && ownedBy owner b
    match s.bindings.find? matching with
    | none => .error (.notBound (.port number.val))
    | some b => s.finish b now

/-- Release the active binding of an exact span.  Among the bindings of that span
an active one comes first, then the latest. -/
def releaseSpan (s : Store) (ownership : Ownership) (first last : PortNumber)
    (owner : Option String) (now : Time.Instant) : Except Fault (Binding × Store) := do
  if last < first then .error (.invalidRequest (.spanReversed first.val last.val))
  else
    checkOwnership ownership owner
    s.checkInstance owner
    let spanning := s.bindings.filter fun b =>
      b.first == (first.val : Int) && b.last == (last.val : Int) && ownedBy owner b
    match spanning.find? (·.isActive) <|> spanning.head? with
    | none => .error (.bindingNotFound (.span first.val last.val))
    | some b =>
      let binding ← b.read
      if binding.isActive then s.finish b now
      else .error (.notBound (.span first.val last.val))

/-- Release what a request names: a port, or both ends of a span.  An empty
instance id names none. -/
def release (s : Store) (ownership : Ownership) (r : ReleaseRequest) (now : Time.Instant) :
    Except Fault (Binding × Store) :=
  let owner := r.instanceId.filter fun id => !id.isEmpty
  match r.port, r.first, r.last with
  | some number, none, none => s.releasePort ownership number owner now
  | none, some first, some last => s.releaseSpan ownership first last owner now
  | none, none, none => .error (.invalidRequest .selectorMissing)
  | _, _, _ => .error (.invalidRequest .selectorMixed)

end Store

end PortPool
