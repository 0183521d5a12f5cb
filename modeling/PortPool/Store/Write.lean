/-
# PortPool.Store.Write -- rows with their rules

Whoever writes a row, the service or someone else, is held to the rules of the
store; a write that breaks one changes nothing.  The rules: cells that must be
filled are; an instance id and a port number has one row, a port is linked to a
binding once; a binding ends where it starts or later; a binding refers to an
instance, a link to a binding and a port; a port that belongs to an active
binding is not linked to another; and a release is never changed.
-/
import PortPool.Store.Read

namespace PortPool

set_option autoImplicit false

/-- The rule that a write breaks. -/
inductive Violation where
  | cellMissing (cell : String)
  | duplicate (cells : String)
  | spanReversed
  | referenceMissing
  | portHeld
  | alreadyReleased
deriving DecidableEq, Repr

def Violation.message : Violation → String
  | .cellMissing cell => "NOT NULL constraint failed: " ++ cell
  | .duplicate cells => "UNIQUE constraint failed: " ++ cells
  | .spanReversed => "CHECK constraint failed: end_port >= start_port"
  | .referenceMissing => "FOREIGN KEY constraint failed"
  | .portHeld => "port already has an active binding"
  | .alreadyReleased => "binding already released"

/-- The content of a cell that must be filled. -/
def filled {α : Type} (cell : String) : Option α → Except Violation α
  | some v => .ok v
  | none => .error (.cellMissing cell)

namespace Store

/-- Add an instance. -/
def addInstance (s : Store) (id name description joinedAt : Option String) :
    Except Violation Store := do
  let name ← filled "instances.name" name
  let description ← filled "instances.meta" description
  let joinedAt ← filled "instances.created_at" joinedAt
  if id.isSome && s.instances.any fun r => r.id == id then
    .error (.duplicate "instances.id")
  else
    pure { s with instances := s.instances ++ [⟨id, name, description, joinedAt⟩] }

/-- Add a port. -/
def addPort (s : Store) (number : Option Int) : Except Violation Store := do
  let number ← filled "ports.port_number" number
  if (s.ports.find? number).isSome then .error (.duplicate "ports.port_number")
  else pure (s.fillPorts number 1)

/-- Add a binding, linked to no port yet. -/
def addBinding (s : Store) (owner : Option String) (first last : Option Int)
    (reservedAt releasedAt : Option String) : Except Violation Store := do
  let owner ← filled "port_bindings.instance_id" owner
  let first ← filled "port_bindings.start_port" first
  let last ← filled "port_bindings.end_port" last
  let reservedAt ← filled "port_bindings.created_at" reservedAt
  if last < first then .error .spanReversed
  else if s.instances.any fun r => r.id == some owner then
    pure { s with
      bindings := ⟨s.nextBinding, owner, first, last, reservedAt, releasedAt⟩ :: s.bindings
      nextBinding := s.nextBinding + 1 }
  else .error .referenceMissing

/-- Link a port to a binding. -/
def link (s : Store) (binding port : Option Int) : Except Violation Store := do
  let held := port.bind s.ports.findId?
  if held.any s.isReserved then .error .portHeld
  else
    let binding ← filled "binding_ports.binding_id" binding
    let port ← filled "binding_ports.port_id" port
    if held.any fun r => r.holders.any fun h => (h : Int) == binding then
      .error (.duplicate "binding_ports.binding_id, binding_ports.port_id")
    else
      match s.bindings.find? fun b => (b.id : Int) == binding, held with
      | some b, some _ =>
        pure { s with
          ports := s.ports.mapHolders fun r =>
            if (r.id : Int) == port then b.id :: r.holders else r.holders }
      | _, _ => .error .referenceMissing

/-- Link all ports of a span to a binding. -/
def linkSpan (s : Store) (binding : Nat) (first last : Int) : Except Violation Store :=
  let within (r : PortRow) : Bool := first ≤ r.number && r.number ≤ last
  if s.ports.rows.any fun r => within r && s.isReserved r then .error .portHeld
  else
    .ok { s with
      ports := s.ports.mapHolders fun r => if within r then binding :: r.holders else r.holders }

/-- Set when a binding was released; the number of rows that this changes. -/
def setReleased (s : Store) (binding : Int) (releasedAt : Option String) :
    Except Violation (Nat × Store) :=
  match s.bindings.find? fun b => (b.id : Int) == binding with
  | none => .ok (0, s)
  | some b =>
    if b.isActive then
      .ok (1, { s with
        bindings := s.bindings.map fun c => if c.id = b.id then { c with releasedAt } else c })
    else .error .alreadyReleased

end Store

/-- A row written directly. -/
inductive Write where
  | addInstance (id name description joinedAt : Option String)
  | addPort (number : Option Int)
  | addBinding (owner : Option String) (first last : Option Int)
      (reservedAt releasedAt : Option String)
  | addLink (binding port : Option Int)
  | setReleased (binding : Int) (releasedAt : Option String)
deriving DecidableEq, Repr

/-- Write a row; the number of rows that this changes. -/
def Write.apply (s : Store) : Write → Except Violation (Nat × Store)
  | .addInstance id name description joinedAt =>
    (s.addInstance id name description joinedAt).map ((1, ·))
  | .addPort number => (s.addPort number).map ((1, ·))
  | .addBinding owner first last reservedAt releasedAt =>
    (s.addBinding owner first last reservedAt releasedAt).map ((1, ·))
  | .addLink binding port => (s.link binding port).map ((1, ·))
  | .setReleased binding releasedAt => s.setReleased binding releasedAt

end PortPool
