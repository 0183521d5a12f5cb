/-
# PortPool.Proofs.Wire.Schema -- what a record that was read contains

A field of a record that was read, from an object or from an array, holds nothing, or
what its decoder gave, or no members where members may be missing.  So what holds of the
last two holds of all that the record holds (`Row.all_of_decode`).  The case that
matters is what a machine tells of itself when it asks to join: its numbers were read,
it is not too deep, and its names stand in order.
-/
import PortPool.Proofs.Json.Ordered
import PortPool.Proofs.Wire.RoundTrip

namespace PortPool.Wire

set_option autoImplicit false

open PortPool.Json

/-- What a field holds has a property. -/
def Shape.All (p : (s : Shape) → s.Carrier → Prop) : (s : Shape) → s.Carrier → Prop
  | .optional inner, v => ∀ w, v = some w → inner.All p w
  | s, v => p s v

/-- What the fields hold has a property. -/
def Row.All (p : (s : Shape) → s.Carrier → Prop) : (fs : List Field) → Row fs → Prop
  | [], _ => True
  | f :: fs, (v, vs) => f.shape.All p v ∧ Row.All p fs vs

/-- What the fields met so far hold has a property. -/
def Slots.All (p : (s : Shape) → s.Carrier → Prop) : (fs : List Field) → Slots fs → Prop
  | [], _ => True
  | f :: fs, (slot, slots) => (∀ v, slot = some v → f.shape.All p v) ∧ Slots.All p fs slots

/-- No members have the property, and all values have it that are read with so many
levels. -/
structure Readable (p : (s : Shape) → s.Carrier → Prop) (room : Nat) : Prop where
  none : p .members []
  read : ∀ {s : Shape} {d : Draft} {v : s.Carrier}, s.decode room d = .ok v → p s v

variable {p : (s : Shape) → s.Carrier → Prop} {room : Nat}

/-! ## Fields -/

theorem Shape.all_of_decode {s : Shape} (readable : Readable p room) {d : Draft} {v : s.Carrier}
    (decoded : s.decode room d = .ok v) : s.All p v := by
  induction s with
  | optional inner ih =>
    intro w same
    subst same
    simp only [Shape.decode, Decoder.optional] at decoded
    split at decoded
    · cases decoded
    · obtain ⟨u, first, same⟩ := map_eq_ok.mp decoded
      cases same
      exact ih first
  | integer | port | flag | text | instant | members | ports => exact readable.read decoded

/-- A field that is missing holds nothing, or no members. -/
theorem Shape.all_of_empty {f : Field} {v : f.shape.Carrier} (readable : Readable p room)
    (lacking : f.shape.missing? f.defaulted = some v ∨ f.shape.beyond? f.defaulted = some v) :
    f.shape.All p v := by
  obtain ⟨name, s, defaulted⟩ := f
  cases s with
  | members =>
    have none : v = [] := by
      cases defaulted
      · simp [Shape.missing?, Shape.beyond?] at lacking
      · simpa [Shape.missing?, Shape.beyond?, eq_comm] using lacking
    subst none
    exact readable.none
  | optional inner =>
    intro w same
    subst same
    rcases lacking with missing | beyond
    · cases missing
    · cases beyond
  | integer | port | flag | text | instant | ports => rcases lacking with missing | beyond <;> contradiction

/-! ## Objects -/

theorem Slots.all_empty (fs : List Field) : Slots.All p fs (Slots.empty fs) := by
  induction fs with
  | nil => trivial
  | cons f fs ih => exact ⟨fun v same => (by cases same), ih⟩

theorem Slots.all_put {fs : List Field} {slots others : Slots fs} (readable : Readable p room)
    {name : String} {d : Draft} (all : Slots.All p fs slots)
    (taken : Slots.put room name d fs slots = .ok others) : Slots.All p fs others := by
  induction fs with
  | nil => trivial
  | cons f fs ih =>
    obtain ⟨slot, slots⟩ := slots
    simp only [Slots.put] at taken
    split at taken
    · cases slot with
      | some => cases taken
      | none =>
        obtain ⟨v, first, same⟩ := bind_eq_ok.mp taken
        cases same
        refine ⟨fun w same => ?_, all.2⟩
        cases same
        exact Shape.all_of_decode readable first
    · obtain ⟨rest, inner, same⟩ := bind_eq_ok.mp taken
      cases same
      exact ⟨all.1, ih all.2 inner⟩

theorem Slots.all_putAll {fs : List Field} {slots others : Slots fs} (readable : Readable p room)
    {ms : List (List Piece × Draft)} (all : Slots.All p fs slots)
    (taken : Slots.putAll room fs slots ms = .ok others) : Slots.All p fs others := by
  induction ms generalizing slots with
  | nil =>
    cases taken
    exact all
  | cons m ms ih =>
    obtain ⟨name, -, taken⟩ := bind_eq_ok.mp taken
    obtain ⟨slots, one, taken⟩ := bind_eq_ok.mp taken
    exact ih (Slots.all_put readable all one) taken

theorem Slots.all_complete {fs : List Field} {slots : Slots fs} {row : Row fs}
    (readable : Readable p room) (all : Slots.All p fs slots)
    (completed : Slots.complete fs slots = .ok row) : Row.All p fs row := by
  induction fs with
  | nil => trivial
  | cons f fs ih =>
    obtain ⟨slot, slots⟩ := slots
    simp only [Slots.complete] at completed
    cases found : slot <|> f.shape.missing? f.defaulted with
    | none =>
      rw [found] at completed
      cases completed
    | some v =>
      rw [found] at completed
      obtain ⟨vs, rest, same⟩ := bind_eq_ok.mp completed
      cases same
      refine ⟨?_, ih all.2 rest⟩
      cases slot with
      | some w =>
        cases found
        exact all.1 _ rfl
      | none => exact Shape.all_of_empty readable (.inl found)

/-! ## Arrays -/

theorem Row.all_ofItems {fs : List Field} {ds rest : List Draft} {row : Row fs}
    (readable : Readable p room) {ending : Option Tear}
    (taken : Row.ofItems room ending fs ds = .ok (row, rest)) : Row.All p fs row := by
  induction fs generalizing ds rest with
  | nil => trivial
  | cons f fs ih =>
    cases ds with
    | nil =>
      obtain ⟨-, -, taken⟩ := bind_eq_ok.mp taken
      cases found : f.shape.beyond? f.defaulted with
      | none =>
        rw [found] at taken
        cases taken
      | some v =>
        rw [found] at taken
        obtain ⟨⟨vs, rest⟩, others, same⟩ := bind_eq_ok.mp taken
        cases same
        exact ⟨Shape.all_of_empty readable (.inr found), ih others⟩
    | cons d ds =>
      obtain ⟨v, first, taken⟩ := bind_eq_ok.mp taken
      obtain ⟨⟨vs, rest⟩, others, same⟩ := bind_eq_ok.mp taken
      cases same
      exact ⟨Shape.all_of_decode readable first, ih others⟩

/-! ## Records -/

/-- **What a record that was read holds has what all values have that are read.** -/
theorem Row.all_of_decode {fs : List Field} {d : Draft} {row : Row fs} (readable : Readable p room)
    (decoded : Row.decode fs (room + 1) d = .ok row) : Row.All p fs row := by
  cases d with
  | object ms ending =>
    obtain ⟨slots, taken, decoded⟩ := bind_eq_ok.mp decoded
    obtain ⟨-, -, decoded⟩ := bind_eq_ok.mp decoded
    exact Slots.all_complete readable (Slots.all_putAll readable (Slots.all_empty fs) taken) decoded
  | array ds ending =>
    obtain ⟨⟨vs, rest⟩, taken, decoded⟩ := bind_eq_ok.mp decoded
    have all := Row.all_ofItems readable taken
    simp only at decoded
    split at decoded
    · obtain ⟨-, -, same⟩ := bind_eq_ok.mp decoded
      cases same
      exact all
    · cases decoded
  | null | flag | numeral | text | torn => cases decoded

/-- A property that only members have to have. -/
def Shape.OfMembers (p : Members → Prop) : (s : Shape) → s.Carrier → Prop
  | .members, ms => p ms
  | _, _ => True

theorem readable_ofMembers {p : Members → Prop} (none : p [])
    (read : ∀ {d ms}, Decoder.members room d = .ok ms → p ms) :
    Readable (Shape.OfMembers p) room where
  none := none
  read := by
    intro s d v decoded
    cases s with
    | members => exact read decoded
    | integer | port | flag | text | instant | ports | optional => trivial

/-- A record that was read from a text is one that was read with all levels but one. -/
theorem all_of_ofText {α : Type} [Record α] [Record.Lawful α] {text : List UInt8} {v : α}
    (readable : Readable p 126) (read : ofText α text = .ok v) :
    Row.All p (Record.fields α) (Record.toRow v) := by
  obtain ⟨v, decoded, read⟩ := bind_eq_ok.mp read
  split at read
  · cases read
  · cases read
    obtain ⟨row, fields, rfl⟩ := map_eq_ok.mp decoded
    rw [Record.Lawful.back]
    exact Row.all_of_decode readable fields

theorem members_of_joinRequest {p : Members → Prop} (none : p [])
    (read : ∀ {d ms}, Decoder.members 126 d = .ok ms → p ms) {text : List UInt8}
    {request : JoinRequest} (taken : ofText JoinRequest text = .ok request) :
    p request.description :=
  (all_of_ofText (readable_ofMembers none read) taken).2.2.1

/-- What a machine tells of itself was read, if its request was. -/
theorem decoded_of_joinRequest {text : List UInt8} {request : JoinRequest}
    (read : ofText JoinRequest text = .ok request) :
    (Value.object request.description).Decoded 126 :=
  members_of_joinRequest ⟨trivial, by decide⟩ Decoder.decoded_of_members read

/-- Its names stand in order. -/
theorem ordered_of_joinRequest {text : List UInt8} {request : JoinRequest}
    (read : ofText JoinRequest text = .ok request) :
    (Value.object request.description).Ordered :=
  members_of_joinRequest ⟨.nil, trivial⟩ Decoder.ordered_of_members read

end PortPool.Wire
