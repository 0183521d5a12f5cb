/-
# PortPool.Store.Read -- what stored rows say

A row is read when it is asked for.  A row of the service itself can always be
read; one that was written by someone else need not be: a number may be no port,
a description no JSON object, an instant no instant, and an instance may lack its
id.  Such a row is a fault of the store.
-/
import PortPool.Store.Table
import PortPool.Fault

namespace PortPool

set_option autoImplicit false

/-- The value of a readable cell, or a fault of the store. -/
def readable {α : Type} : Option α → Except Fault α
  | some v => .ok v
  | none => .error .store

/-- The port of a row. -/
def Store.readPort (s : Store) (r : PortRow) : Except Fault Port := do
  let number ← readable (PortNumber.ofInt? r.number)
  pure ⟨r.id, number, s.isReserved r⟩

/-- The description in a text. -/
def readDescription (text : String) : Except Fault Json.Members :=
  match Json.decodeText Json.Decoder.members (Text.Utf8.ofString text) with
  | .ok ms => .ok ms
  | .error _ => .error .store

/-- The instance of a row. -/
def InstanceRow.read (r : InstanceRow) : Except Fault Instance := do
  let description ← readDescription r.description
  let id ← readable r.id
  let joinedAt ← readable (Time.Rfc3339.read? r.joinedAt)
  pure ⟨id, r.name, description, joinedAt⟩

/-- The binding of a row. -/
def BindingRow.read (r : BindingRow) : Except Fault Binding := do
  let first ← readable (PortNumber.ofInt? r.first)
  let last ← readable (PortNumber.ofInt? r.last)
  let reservedAt ← readable (Time.Rfc3339.read? r.reservedAt)
  let releasedAt ←
    match r.releasedAt with
    | none => pure none
    | some text => (readable (Time.Rfc3339.read? text)).map some
  pure ⟨r.id, r.owner, first, last, reservedAt, releasedAt⟩

namespace Store

/-- The instance of an id, if one joined. -/
def findInstance (s : Store) (id : String) : Except Fault (Option Instance) :=
  match s.instances.find? fun r => r.id == some id with
  | none => .ok none
  | some r => r.read.map some

/-- The instance of an id, which must have joined. -/
def getInstance (s : Store) (id : String) : Except Fault Instance := do
  match ← s.findInstance id with
  | some i => pure i
  | none => .error (.instanceNotRegistered id)

/-- The port of a number, if the store knows it. -/
def findPort (s : Store) (number : PortNumber) : Except Fault (Option Port) :=
  match s.ports.find? number.val with
  | none => .ok none
  | some r => (s.readPort r).map some

/-- The binding of an id, if there is one. -/
def findBinding (s : Store) (id : Int) : Except Fault (Option Binding) :=
  match s.bindings.find? fun b => (b.id : Int) == id with
  | none => .ok none
  | some b => b.read.map some

/-- The largest number among the ports, which must be a port. -/
def largestPort (s : Store) : Except Fault (Option PortNumber) :=
  match s.ports.largest? with
  | none => .ok none
  | some number => (readable (PortNumber.ofInt? number)).map some

end Store

end PortPool
