/-
# PortPool.Wire.Record -- what is sent and received

The records of the service: ports, instances and bindings as it answers them,
and the requests and filters that it takes.  Each has a schema and the two
conversions between it and the row of its fields; reading and writing come from
`Wire.Schema`.
-/
import PortPool.Wire.Schema
import PortPool.Json.Render

namespace PortPool

set_option autoImplicit false

open PortPool.Json (Members Decoder Value Refusal)
open PortPool.Wire (Field Row Shape)

/-! ## The records -/

/-- A port that the pool knows. -/
structure Port where
  id : Int
  number : PortNumber
  reserved : Bool
deriving DecidableEq, Repr

/-- A registered machine. -/
structure Instance where
  id : String
  name : String
  description : Members
  joinedAt : Time.Instant
deriving Repr, BEq

/-- A span of ports reserved for an instance, active until it is released. -/
structure Binding where
  id : Int
  owner : String
  first : PortNumber
  last : PortNumber
  reservedAt : Time.Instant
  releasedAt : Option Time.Instant
deriving DecidableEq, Repr

namespace Binding

/-- The binding was not released. -/
def isActive (b : Binding) : Bool := b.releasedAt.isNone

/-- The port numbers of the binding, ascending. -/
def numbers (b : Binding) : List Nat :=
  (List.range (b.last.val + 1 - b.first.val)).map (b.first.val + ·)

/-- How many ports the binding covers. -/
def size (b : Binding) : Nat := b.last.val + 1 - b.first.val

/-- The span as text. -/
def text (b : Binding) : String := spanText b.first.val b.last.val

end Binding

/-- A machine asks to be registered. -/
structure JoinRequest where
  instanceId : Option String
  name : Option String
  description : Members
deriving Repr, BEq

/-- An instance asks for a port, or for a number of adjacent ports. -/
structure ReserveRequest where
  instanceId : Option String
  size : Option Int
deriving DecidableEq, Repr

/-- Someone gives back a port, or a span. -/
structure ReleaseRequest where
  instanceId : Option String
  port : Option PortNumber
  first : Option PortNumber
  last : Option PortNumber
deriving DecidableEq, Repr

/-- A host tells which ports are in use on it. -/
structure ObserveRequest where
  ports : List PortNumber
deriving DecidableEq, Repr

/-- Which ports to list. -/
structure PortFilter where
  reserved : Option Bool
  instanceId : Option String
deriving DecidableEq, Repr

/-- Which bindings to list. -/
structure BindingFilter where
  instanceId : Option String
  active : Option Bool
deriving DecidableEq, Repr

/-- What went wrong, for a program and for people. -/
structure ErrorReport where
  kind : String
  message : String
deriving DecidableEq, Repr

/-! ## Their forms -/

namespace Wire

/-- A record with a JSON form. -/
class Record (α : Type) where
  fields : List Field
  toRow : α → Row fields
  ofRow : Row fields → α

/-- Read a record. -/
def decode (α : Type) [Record α] : Decoder α := fun room d =>
  (Row.decode (Record.fields α) room d).map Record.ofRow

/-- The JSON form of a record. -/
def encode {α : Type} [Record α] (v : α) : Value :=
  .object (Row.encode (Record.fields α) (Record.toRow v))

/-- Read a record from a text. -/
def ofText (α : Type) [Record α] (text : List UInt8) : Except Refusal α :=
  Json.decodeText (decode α) text

/-- Read a list of records from a text. -/
def listOfText (α : Type) [Record α] (text : List UInt8) : Except Refusal (List α) :=
  Json.decodeText (Decoder.array (decode α)) text

/-- A record as text. -/
def toText {α : Type} [Record α] (v : α) : List UInt8 := Text.Utf8.encode (encode v).render

/-- A list of records as text. -/
def listToText {α : Type} [Record α] (vs : List α) : List UInt8 :=
  Text.Utf8.encode (Value.array (vs.map encode)).render

instance : Record Port where
  fields := [⟨"id", .integer, false⟩, ⟨"port_number", .port, false⟩, ⟨"is_reserved", .flag, false⟩]
  toRow p := (p.id, p.number, p.reserved, ())
  ofRow | (id, number, reserved, ()) => ⟨id, number, reserved⟩

instance : Record Instance where
  fields :=
    [⟨"id", .text, false⟩, ⟨"name", .text, false⟩, ⟨"meta", .members, false⟩,
      ⟨"created_at", .instant, false⟩]
  toRow i := (i.id, i.name, i.description, i.joinedAt, ())
  ofRow | (id, name, description, joinedAt, ()) => ⟨id, name, description, joinedAt⟩

instance : Record Binding where
  fields :=
    [⟨"id", .integer, false⟩, ⟨"instance_id", .text, false⟩, ⟨"start_port", .port, false⟩,
      ⟨"end_port", .port, false⟩, ⟨"created_at", .instant, false⟩,
      ⟨"released_at", .optional .instant, false⟩]
  toRow b := (b.id, b.owner, b.first, b.last, b.reservedAt, b.releasedAt, ())
  ofRow
    | (id, owner, first, last, reservedAt, releasedAt, ()) =>
      ⟨id, owner, first, last, reservedAt, releasedAt⟩

instance : Record JoinRequest where
  fields :=
    [⟨"instance_id", .optional .text, false⟩, ⟨"name", .optional .text, false⟩,
      ⟨"meta", .members, true⟩]
  toRow r := (r.instanceId, r.name, r.description, ())
  ofRow | (instanceId, name, description, ()) => ⟨instanceId, name, description⟩

instance : Record ReserveRequest where
  fields := [⟨"instance_id", .optional .text, false⟩, ⟨"range", .optional .integer, false⟩]
  toRow r := (r.instanceId, r.size, ())
  ofRow | (instanceId, size, ()) => ⟨instanceId, size⟩

instance : Record ReleaseRequest where
  fields :=
    [⟨"instance_id", .optional .text, false⟩, ⟨"port_number", .optional .port, false⟩,
      ⟨"start_port", .optional .port, false⟩, ⟨"end_port", .optional .port, false⟩]
  toRow r := (r.instanceId, r.port, r.first, r.last, ())
  ofRow | (instanceId, port, first, last, ()) => ⟨instanceId, port, first, last⟩

instance : Record ObserveRequest where
  fields := [⟨"ports", .ports, false⟩]
  toRow r := (r.ports, ())
  ofRow | (ports, ()) => ⟨ports⟩

instance : Record PortFilter where
  fields := [⟨"is_reserved", .optional .flag, false⟩, ⟨"instance_id", .optional .text, false⟩]
  toRow f := (f.reserved, f.instanceId, ())
  ofRow | (reserved, instanceId, ()) => ⟨reserved, instanceId⟩

instance : Record BindingFilter where
  fields := [⟨"instance_id", .optional .text, false⟩, ⟨"active", .optional .flag, false⟩]
  toRow f := (f.instanceId, f.active, ())
  ofRow | (instanceId, active, ()) => ⟨instanceId, active⟩

instance : Record ErrorReport where
  fields := [⟨"error", .text, false⟩, ⟨"message", .text, false⟩]
  toRow r := (r.kind, r.message, ())
  ofRow | (kind, message, ()) => ⟨kind, message⟩

end Wire

end PortPool
