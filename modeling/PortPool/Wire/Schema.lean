/-
# PortPool.Wire.Schema -- records as JSON objects

Every request and every answer is a record with named fields of a few shapes.
A schema lists the fields in order; `decode` and `encode` are written once, for
all schemas.

A record is written as an object with its fields in order.  It is read from an
object, whose members may come in any order: an unknown member is passed over, a
known one given twice is refused, an optional field that is missing is none.  It
is also read from an array that holds the values of all fields in order.
-/
import PortPool.Json.Decode
import PortPool.Time.Rfc3339
import PortPool.Ports

namespace PortPool.Wire

set_option autoImplicit false

open PortPool.Json

/-- The shape of a field. -/
inductive Shape where
  | integer
  | port
  | flag
  | text
  | instant
  | members
  | ports
  | optional (inner : Shape)
deriving DecidableEq, Repr

/-- The values of a shape. -/
abbrev Shape.Carrier : Shape → Type
  | .integer => Int
  | .port => PortNumber
  | .flag => Bool
  | .text => String
  | .instant => Time.Instant
  | .members => Members
  | .ports => List PortNumber
  | .optional inner => Option inner.Carrier

/-- A port number. -/
def portOf : Decoder PortNumber := fun room d => do
  let i ← Decoder.whole 0 65535 room d
  match PortNumber.ofInt? i with
  | some p => .ok p
  | none => .error .mismatched

/-- An instant, as a string. -/
def instantOf : Decoder Time.Instant := fun room d => do
  let s ← Decoder.text room d
  match Time.Rfc3339.readLoosely? s with
  | some t => .ok t
  | none => .error .mismatched

namespace Shape

/-- The decoder of a shape. -/
def decode : (s : Shape) → Decoder s.Carrier
  | .integer => Decoder.whole (-0x8000000000000000) 0x7FFFFFFFFFFFFFFF
  | .port => portOf
  | .flag => Decoder.flag
  | .text => Decoder.text
  | .instant => instantOf
  | .members => Decoder.members
  | .ports => Decoder.array portOf
  | .optional inner => Decoder.optional inner.decode

/-- A port number as a value. -/
def portValue (p : PortNumber) : Value := Value.ofNat p.val

/-- A value of a shape, as JSON. -/
def encode : (s : Shape) → s.Carrier → Value
  | .integer, i => .number (.whole i)
  | .port, p => portValue p
  | .flag, b => .flag b
  | .text, s => .text s
  | .instant, t => .text (Time.Rfc3339.wire t)
  | .members, ms => .object ms
  | .ports, ps => .array (ps.map portValue)
  | .optional inner, v =>
    match v with
    | none => .null
    | some v => inner.encode v

/-- The value of a field that an object lacks. -/
def missing? (defaulted : Bool) : (s : Shape) → Option s.Carrier
  | .optional _ => some none
  | .members => if defaulted then some [] else none
  | _ => none

/-- The value of a field that an array is too short for. -/
def beyond? (defaulted : Bool) : (s : Shape) → Option s.Carrier
  | .members => if defaulted then some [] else none
  | _ => none

end Shape

/-- A field of a record.  A defaulted field may be missing. -/
structure Field where
  name : String
  shape : Shape
  defaulted : Bool := false
deriving DecidableEq, Repr

/-- The values of a list of fields. -/
def Row : List Field → Type
  | [] => Unit
  | f :: fs => f.shape.Carrier × Row fs

/-- The values of a list of fields that were met so far. -/
def Slots : List Field → Type
  | [] => Unit
  | f :: fs => Option f.shape.Carrier × Slots fs

namespace Slots

/-- No value was met. -/
def empty : (fs : List Field) → Slots fs
  | [] => ()
  | _ :: fs => (none, empty fs)

/-- Take the value of a member. -/
def put (room : Nat) (name : String) (d : Draft) :
    (fs : List Field) → Slots fs → Except Refusal (Slots fs)
  | [], slots => do
    d.skip
    pure slots
  | f :: fs, (slot, slots) =>
    if f.name = name then
      match slot with
      | some _ => .error .mismatched
      | none => do
        let v ← f.shape.decode room d
        pure (some v, slots)
    else do
      let slots ← put room name d fs slots
      pure (slot, slots)

/-- Take the members of an object. -/
def putAll (room : Nat) (fs : List Field) (slots : Slots fs) :
    List (List Piece × Draft) → Except Refusal (Slots fs)
  | [] => .ok slots
  | (name, d) :: ms => do
    let name ← textOf name
    let slots ← put room name d fs slots
    putAll room fs slots ms

/-- The values of all fields, once all members are taken. -/
def complete : (fs : List Field) → Slots fs → Except Refusal (Row fs)
  | [], _ => .ok ()
  | f :: fs, (slot, slots) =>
    match slot <|> f.shape.missing? f.defaulted with
    | none => .error .mismatched
    | some v => do
      let vs ← complete fs slots
      pure (v, vs)

end Slots

namespace Row

/-- The values of an array, in order, and what the array holds after them. -/
def ofItems (room : Nat) (ending : Option Tear) :
    (fs : List Field) → List Draft → Except Refusal (Row fs × List Draft)
  | [], ds => .ok ((), ds)
  | f :: fs, [] => do
    Draft.closed ending
    match f.shape.beyond? f.defaulted with
    | none => .error .mismatched
    | some v => do
      let (vs, rest) ← ofItems room ending fs []
      pure ((v, vs), rest)
  | f :: fs, d :: ds => do
    let v ← f.shape.decode room d
    let (vs, rest) ← ofItems room ending fs ds
    pure ((v, vs), rest)

/-- A record, from an object or an array. -/
def decode (fs : List Field) : Decoder (Row fs)
  | 0, .object _ _ | 0, .array _ _ => .error .malformed
  | room + 1, .object ms ending => do
    let slots ← Slots.putAll room fs (Slots.empty fs) ms
    Draft.closed ending
    Slots.complete fs slots
  | room + 1, .array ds ending => do
    let (row, rest) ← ofItems room ending fs ds
    if rest.isEmpty then
      Draft.closed ending
      pure row
    else .error .malformed
  | _, d => .error d.mismatch

/-- The members of a record, in the order of its fields. -/
def encode : (fs : List Field) → Row fs → Members
  | [], _ => []
  | f :: fs, (v, vs) => (f.name, f.shape.encode v) :: encode fs vs

end Row

end PortPool.Wire
