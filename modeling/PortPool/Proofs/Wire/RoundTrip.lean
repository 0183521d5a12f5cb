/-
# PortPool.Proofs.Wire.RoundTrip -- what a record is read as once it is written

The text of a record is that of an object with its fields in order.  Reading it takes
one member after the other: each goes to the field of its name, which is still free,
and leaves the fields before it as they are (`Slots.putAll_tail`).  So if the fields
have different names, the record is read as its fields are, each by itself
(`Row.decode_encode`), alone in a text (`ofText_toText`) or in a list one level further
down (`listOfText_listToText`).  A record comes back if all its fields do, which
`Row.Returns` says field by field.

Requests to release are a case that is used: whoever writes one and whoever reads it
mean the same (`ofText_releaseRequest`).
-/
import PortPool.Proofs.Json.Decode
import PortPool.Proofs.Time.Rfc3339
import PortPool.Wire.Record

namespace PortPool.Wire

set_option autoImplicit false

open PortPool.Json
open PortPool.Json.Value (memberDrafts itemDrafts)

/-! ## Fields -/

/-- What the value of a field is read as once it is written. -/
def Shape.reread (room : Nat) (s : Shape) (v : s.Carrier) : Except Refusal s.Carrier :=
  s.decode room (s.encode v).draft

/-- The value of a field can be written, and is read back as it was. -/
structure Shape.Returns (room : Nat) (s : Shape) (v : s.Carrier) : Prop where
  plain : (s.encode v).Each Number.Plain
  same : s.reread room v = .ok v

theorem Shape.returns_text (room : Nat) (text : String) : Shape.Returns room .text text where
  plain := trivial
  same := textOf_textPieces text

theorem Shape.returns_flag (room : Nat) (b : Bool) : Shape.Returns room .flag b := ⟨trivial, rfl⟩

/-- A whole number is read back where its bounds are kept. -/
theorem whole_draft {low high i : Int} (room : Nat) (least : low ≤ i) (most : i ≤ high)
    (fits : -0x8000000000000000 ≤ i ∧ i < UInt64.size) :
    Decoder.whole low high room (Value.number (.whole i)).draft = .ok i := by
  have denoted := value?_whole fits.1 fits.2
  simp only [Value.draft, Decoder.whole, denoted]
  exact if_pos ⟨least, most⟩

theorem Shape.returns_integer (room : Nat) {i : Int} (least : -0x8000000000000000 ≤ i)
    (most : i ≤ 0x7FFFFFFFFFFFFFFF) : Shape.Returns room .integer i where
  plain := trivial
  same := by
    have size : (UInt64.size : Int) = 0x10000000000000000 := rfl
    exact whole_draft room least most ⟨least, by omega⟩

theorem portOf_portValue (room : Nat) (p : PortNumber) :
    portOf room (Shape.portValue p).draft = .ok p := by
  have size : (UInt64.size : Int) = 0x10000000000000000 := rfl
  have read : Decoder.whole 0 65535 room (Shape.portValue p).draft = .ok (p.val : Int) :=
    whole_draft room (by omega) (by omega) ⟨by omega, by omega⟩
  have port : PortNumber.ofInt? (p.val : Int) = some p := dif_pos ⟨by omega, by omega⟩
  simp only [portOf, read, bind_ok, port]

theorem Shape.returns_port (room : Nat) (p : PortNumber) : Shape.Returns room .port p where
  plain := trivial
  same := portOf_portValue room p

/-- An instant that can be told is read back. -/
theorem Shape.returns_instant (room : Nat) {t : Time.Instant}
    (told : Time.Instant.inReach t.year = true) : Shape.Returns room .instant t where
  plain := trivial
  same := by
    show instantOf room (.text (textPieces (Time.Rfc3339.wire t))) = _
    simp only [instantOf, Decoder.text, textOf_textPieces, bind_ok,
      Time.Rfc3339.readLoosely?_wire told]

/-- Members are read as any value is, one level further down. -/
theorem Shape.reread_members {room : Nat} {ms : Members} (deep : (Value.object ms).depth ≤ room) :
    Shape.reread room .members ms = readOr (Value.rereadMembers [] ms) := by
  obtain ⟨room, rfl⟩ : ∃ inner, room = inner + 1 := ⟨room - 1, by
    rw [Value.depth] at deep
    omega⟩
  have inner := Decoder.valueMembers_memberDrafts ms [] (Nat.le_of_succ_le_succ deep)
  show Decoder.members (room + 1) (.object (memberDrafts ms) none) = _
  rw [Decoder.members, inner]
  cases Value.rereadMembers [] ms <;> rfl

/-- Members that are too deep are refused. -/
theorem Shape.reread_members_deep {room : Nat} {ms : Members}
    (deep : room < (Value.object ms).depth) :
    Shape.reread room .members ms = .error .malformed := by
  cases room with
  | zero => rfl
  | succ room =>
    have inner := Decoder.valueMembers_memberDrafts_deep ms [] (Nat.lt_of_succ_lt_succ deep)
    show Decoder.members (room + 1) (.object (memberDrafts ms) none) = _
    rw [Decoder.members, inner]
    rfl

theorem Shape.returns_members {room : Nat} {ms : Members} (deep : (Value.object ms).depth ≤ room)
    (kept : Value.EachMember Number.Exact ms) (ordered : (Value.object ms).Ordered) :
    Shape.Returns room .members ms where
  plain := Value.EachMember.imp (fun _ both => both.1) ms kept
  same := by
    have same := Value.rereadMembers_eq_some [] ms kept ordered.2 (by simpa using ordered.1)
    rw [Shape.reread_members deep, same]
    rfl

/-- The items of an array are read one by one. -/
theorem items_map {α β : Type} {inner : Draft → Except Refusal β} {draft : α → Value} (vs : List α)
    (before : List β) : Decoder.items inner before (itemDrafts (vs.map draft)) =
      (vs.mapM fun v => inner (draft v).draft).map (before.reverse ++ ·) := by
  induction vs generalizing before with
  | nil =>
    show Except.ok before.reverse = .ok (before.reverse ++ [])
    rw [List.append_nil]
  | cons v vs ih =>
    rw [List.map_cons, itemDrafts, Decoder.items, List.mapM_cons]
    cases inner (draft v).draft with
    | error => rfl
    | ok w =>
      rw [bind_ok, bind_ok, ih (w :: before)]
      cases vs.mapM fun v => inner (draft v).draft with
      | error => rfl
      | ok ws => simp [map_ok]

theorem array_map {α β : Type} {inner : Decoder β} {draft : α → Value} (room : Nat) (vs : List α) :
    Decoder.array inner (room + 1) (Value.array (vs.map draft)).draft =
      vs.mapM fun v => inner room (draft v).draft := by
  show Decoder.array inner (room + 1) (.array (itemDrafts (vs.map draft)) none) = _
  rw [Decoder.array, items_map]
  cases vs.mapM fun v => inner room (draft v).draft <;> rfl

theorem Shape.returns_ports (room : Nat) (ps : List PortNumber) :
    Shape.Returns (room + 1) .ports ps where
  plain := by
    refine Value.eachItem_iff.mpr fun v member => ?_
    obtain ⟨p, -, rfl⟩ := List.mem_map.mp member
    trivial
  same := by
    show Decoder.array portOf (room + 1) (Value.array (ps.map portValue)).draft = _
    rw [array_map, mapM_of_forall fun p _ => portOf_portValue room p, List.map_id']

/-- A value that is not `null` returns as some value. -/
theorem Shape.returns_optional {room : Nat} {inner : Shape} {v : Option inner.Carrier}
    (returns : ∀ w, v = some w → inner.Returns room w ∧ inner.encode w ≠ .null) :
    Shape.Returns room (.optional inner) v := by
  cases v with
  | none => exact ⟨trivial, rfl⟩
  | some w =>
    obtain ⟨inside, present⟩ := returns w rfl
    refine ⟨inside.plain, ?_⟩
    have notNull : (inner.encode w).draft ≠ .null := by
      intro null
      cases value : inner.encode w with
      | null => exact present value
      | flag | number | text | array | object =>
        rw [value] at null
        cases null
    have taken : Decoder.optional inner.decode room (inner.encode w).draft =
        (inner.decode room (inner.encode w).draft).map some := by
      cases draft : (inner.encode w).draft with
      | null => exact absurd draft notNull
      | flag | numeral | text | array | object | torn => rfl
    show Decoder.optional inner.decode room (inner.encode w).draft = _
    rw [taken, show inner.decode room (inner.encode w).draft = _ from inside.same]
    rfl

/-! ## Rows -/

/-- What the fields are read as once they are written. -/
def Row.reread (room : Nat) : (fs : List Field) → Row fs → Except Refusal (Row fs)
  | [], _ => .ok ()
  | f :: fs, (v, vs) => do
    let w ← f.shape.reread room v
    let ws ← Row.reread room fs vs
    pure (w, ws)

/-- The value of every field returns. -/
def Row.Returns (room : Nat) : (fs : List Field) → Row fs → Prop
  | [], _ => True
  | f :: fs, (v, vs) => f.shape.Returns room v ∧ Row.Returns room fs vs

/-- All values of a row were met. -/
def Slots.full : (fs : List Field) → Row fs → Slots fs
  | [], _ => ()
  | _ :: fs, (v, vs) => (some v, full fs vs)

theorem Slots.complete_full (fs : List Field) (row : Row fs) :
    Slots.complete fs (Slots.full fs row) = .ok row := by
  induction fs with
  | nil => rfl
  | cons f fs ih =>
    obtain ⟨v, vs⟩ := row
    show (Slots.complete fs (Slots.full fs vs) >>= fun vs => _) = _
    rw [ih]
    rfl

theorem mem_encode {fs : List Field} {row : Row fs} {m : String × Value}
    (member : m ∈ Row.encode fs row) : m.1 ∈ fs.map (·.name) := by
  induction fs with
  | nil => cases member
  | cons f fs ih =>
    obtain ⟨v, vs⟩ := row
    rcases List.mem_cons.mp member with rfl | later
    · exact List.mem_cons_self
    · exact List.mem_cons_of_mem _ (ih later)

/-- Members of other names leave the first field as it is. -/
theorem Slots.putAll_tail {room : Nat} {f : Field} {fs : List Field}
    (slot : Option f.shape.Carrier) (slots : Slots fs) (ms : Members)
    (other : ∀ m ∈ ms, m.1 ≠ f.name) :
    Slots.putAll room (f :: fs) (slot, slots) (memberDrafts ms) =
      (Slots.putAll room fs slots (memberDrafts ms)).map (slot, ·) := by
  induction ms generalizing slots with
  | nil => rfl
  | cons m ms ih =>
    obtain ⟨name, v⟩ := m
    have apart : ¬f.name = name := fun same => other _ List.mem_cons_self same.symm
    have rest := fun slots => ih slots fun m later => other m (List.mem_cons_of_mem _ later)
    simp only [memberDrafts, Slots.putAll, textOf_textPieces, bind_ok, Slots.put, if_neg apart]
    cases Slots.put room name v.draft fs slots with
    | error => rfl
    | ok slots => exact rest slots

/-- **Every member finds its field.** -/
theorem Slots.putAll_encode {room : Nat} {fs : List Field}
    (distinct : (fs.map (·.name)).Nodup) (row : Row fs) :
    Slots.putAll room fs (Slots.empty fs) (memberDrafts (Row.encode fs row)) =
      (Row.reread room fs row).map (Slots.full fs) := by
  induction fs with
  | nil => rfl
  | cons f fs ih =>
    obtain ⟨v, vs⟩ := row
    obtain ⟨fresh, distinct⟩ := List.nodup_cons.mp distinct
    have other : ∀ m ∈ Row.encode fs vs, m.1 ≠ f.name := by
      intro m member same
      have named := mem_encode member
      rw [same] at named
      exact fresh named
    simp only [Row.encode, memberDrafts, Slots.putAll, textOf_textPieces, bind_ok, Slots.empty,
      Slots.put, if_true, Row.reread, Shape.reread]
    cases f.shape.decode room (f.shape.encode v).draft with
    | error => rfl
    | ok w =>
      refine (Slots.putAll_tail (some w) (Slots.empty fs) _ other).trans ?_
      rw [ih distinct vs]
      cases Row.reread room fs vs <;> rfl

/-- **A record that is written is read as its fields are.** -/
theorem Row.decode_encode {room : Nat} {fs : List Field} (distinct : (fs.map (·.name)).Nodup)
    (row : Row fs) :
    Row.decode fs (room + 1) (Value.object (Row.encode fs row)).draft = Row.reread room fs row := by
  show Row.decode fs (room + 1) (.object (memberDrafts (Row.encode fs row)) none) = _
  rw [Row.decode, Slots.putAll_encode distinct]
  cases Row.reread room fs row with
  | error => rfl
  | ok row => simp only [map_ok, bind_ok, Draft.closed, Slots.complete_full]

theorem Row.reread_of_returns {room : Nat} {fs : List Field} {row : Row fs}
    (returns : Row.Returns room fs row) : Row.reread room fs row = .ok row := by
  induction fs with
  | nil => rfl
  | cons f fs ih =>
    obtain ⟨v, vs⟩ := row
    rw [Row.reread, returns.1.same, bind_ok, ih returns.2]
    rfl

theorem Row.plain_of_returns {room : Nat} {fs : List Field} {row : Row fs}
    (returns : Row.Returns room fs row) : Value.EachMember Number.Plain (Row.encode fs row) := by
  induction fs with
  | nil => trivial
  | cons f fs ih =>
    obtain ⟨v, vs⟩ := row
    exact ⟨returns.1.plain, ih returns.2⟩

/-! ## Records -/

/-- A field is optional at most once, so that `null` has one meaning. -/
def Shape.once : Shape → Bool
  | .optional (.optional _) => false
  | _ => true

/-- The fields of a record can be told apart, and tell the record. -/
class Record.Lawful (α : Type) [Record α] : Prop where
  distinct : ((Record.fields α).map (·.name)).Nodup
  once : ∀ f ∈ Record.fields α, f.shape.once = true
  same : ∀ v : α, Record.ofRow (Record.toRow v) = v
  back : ∀ row, Record.toRow (Record.ofRow row : α) = row

instance : Record.Lawful Port := ⟨by decide, by decide, fun _ => rfl, fun _ => rfl⟩

instance : Record.Lawful Instance := ⟨by decide, by decide, fun _ => rfl, fun _ => rfl⟩

instance : Record.Lawful Binding := ⟨by decide, by decide, fun _ => rfl, fun _ => rfl⟩

instance : Record.Lawful JoinRequest := ⟨by decide, by decide, fun _ => rfl, fun _ => rfl⟩

instance : Record.Lawful ReserveRequest := ⟨by decide, by decide, fun _ => rfl, fun _ => rfl⟩

instance : Record.Lawful ReleaseRequest := ⟨by decide, by decide, fun _ => rfl, fun _ => rfl⟩

instance : Record.Lawful ObserveRequest := ⟨by decide, by decide, fun _ => rfl, fun _ => rfl⟩

instance : Record.Lawful PortFilter := ⟨by decide, by decide, fun _ => rfl, fun _ => rfl⟩

instance : Record.Lawful BindingFilter := ⟨by decide, by decide, fun _ => rfl, fun _ => rfl⟩

instance : Record.Lawful ErrorReport := ⟨by decide, by decide, fun _ => rfl, fun _ => rfl⟩

variable {α : Type} [Record α] [Record.Lawful α]

theorem decode_encode (room : Nat) (v : α) : decode α (room + 1) (encode v).draft =
    (Row.reread room (Record.fields α) (Record.toRow v)).map Record.ofRow :=
  congrArg (Except.map Record.ofRow) (Row.decode_encode Record.Lawful.distinct _)

/-- **A record that is written as a text is read as its fields are.** -/
theorem ofText_toText {v : α} (plain : (encode v).Each Number.Plain) : ofText α (toText v) =
    (Row.reread 126 (Record.fields α) (Record.toRow v)).map Record.ofRow := by
  rw [ofText, toText, decodeText, ofText_render plain, ← decode_encode 126 v]
  show (decode α 127 (encode v).draft >>= fun v => .ok v) = _
  cases decode α 127 (encode v).draft <;> rfl

omit [Record.Lawful α] in
theorem each_map_encode {vs : List α} (plain : ∀ v ∈ vs, (encode v).Each Number.Plain) :
    (Value.array (vs.map encode)).Each Number.Plain := by
  refine Value.eachItem_iff.mpr fun w member => ?_
  obtain ⟨v, among, rfl⟩ := List.mem_map.mp member
  exact plain v among

/-- In a list there is one level less for each. -/
theorem listOfText_listToText {vs : List α} (plain : ∀ v ∈ vs, (encode v).Each Number.Plain) :
    listOfText α (listToText vs) =
      vs.mapM fun v => (Row.reread 125 (Record.fields α) (Record.toRow v)).map Record.ofRow := by
  rw [listOfText, listToText, decodeText, ofText_render (each_map_encode plain)]
  show (Decoder.array (decode α) (126 + 1) (Value.array (vs.map encode)).draft >>=
    fun vs => .ok vs) = _
  simp only [array_map, decode_encode 125]
  cases vs.mapM fun v => (Row.reread 125 (Record.fields α) (Record.toRow v)).map Record.ofRow <;> rfl

/-- A record is read back from its text, if its fields return. -/
theorem ofText_of_returns {v : α} (returns : Row.Returns 126 (Record.fields α) (Record.toRow v)) :
    ofText α (toText v) = .ok v := by
  have plain : (encode v).Each Number.Plain := Row.plain_of_returns returns
  rw [ofText_toText plain, Row.reread_of_returns returns, map_ok, Record.Lawful.same]

theorem listOfText_of_returns {vs : List α}
    (returns : ∀ v ∈ vs, Row.Returns 125 (Record.fields α) (Record.toRow v)) :
    listOfText α (listToText vs) = .ok vs := by
  rw [listOfText_listToText fun v member => Row.plain_of_returns (returns v member)]
  refine (mapM_of_forall (g := id) fun v member => ?_).trans (by rw [List.map_id])
  rw [Row.reread_of_returns (returns v member), map_ok, Record.Lawful.same]
  rfl

/-- A request to release is read as it was written. -/
theorem ofText_releaseRequest (asked : ReleaseRequest) :
    ofText ReleaseRequest (toText asked) = .ok asked := by
  have port (p : Option PortNumber) : Shape.Returns 126 (.optional .port) p :=
    Shape.returns_optional fun w _ => ⟨Shape.returns_port 126 w, nofun⟩
  have text (t : Option String) : Shape.Returns 126 (.optional .text) t :=
    Shape.returns_optional fun w _ => ⟨Shape.returns_text 126 w, nofun⟩
  refine ofText_of_returns ?_
  exact ⟨text asked.instanceId, port asked.port, port asked.first, port asked.last, trivial⟩

end PortPool.Wire
