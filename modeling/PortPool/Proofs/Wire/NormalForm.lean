/-
# PortPool.Proofs.Wire.NormalForm -- the text of a record is its normal form

Whatever a record holds is read back from the text that is written for it, as long as
that text can tell it: whole numbers, years of four digits, 127 levels
(`RoundTrips.written`).  Many texts say the same record -- members in another order,
`null` or nothing for what is absent, the values in an array, other escapes and blanks.
Whichever of them was read, the one that is written says the same (`RoundTrips.reread`).

Both come from one lemma about fields (`Shape.returns_of_kept`).  For a record that was
read its conditions come from the decoders, which hold what they give to the bounds of
its type (`Shape.Given`): only years and fractions have to be asked for.
-/
import PortPool.Proofs.Wire.Schema

namespace PortPool.Wire

set_option autoImplicit false

open PortPool.Json

/-! ## What a text can tell -/

/-- The value of a field is one of its type, and free of what a text cannot tell: a
whole number has 64 bits, the names of an object stand in order, no number has a
fraction, and no year has more than four digits. -/
def Shape.Sendable : (s : Shape) → s.Carrier → Prop
  | .integer, i => -0x8000000000000000 ≤ i ∧ i ≤ 0x7FFFFFFFFFFFFFFF
  | .instant, t => t.Dated
  | .members, ms => (Value.object ms).Whole ∧ (Value.object ms).Ordered
  | _, _ => True

/-- No year has more than four digits, and no number has a fraction. -/
def Shape.Clear : (s : Shape) → s.Carrier → Prop
  | .instant, t => t.Dated
  | .members, ms => Value.EachMember Number.Integral ms
  | _, _ => True

/-- Records are read back from the texts that are written for them. -/
structure RoundTrips (α : Type) [Record α] : Prop where
  /-- A record that is written is read. -/
  written : ∀ v : α, Row.All Shape.Sendable (Record.fields α) (Record.toRow v) →
    (encode v).depth ≤ deepest → ofText α (toText v) = .ok v
  /-- A record that was read, from whatever text, is written and read again. -/
  reread : ∀ (text : List UInt8) (v : α), ofText α text = .ok v →
    Row.All Shape.Clear (Record.fields α) (Record.toRow v) → ofText α (toText v) = .ok v

/-! ## Fields -/

/-- What the two have in common: the value of a field that returns unless it is too
deep. -/
def Shape.Kept : (s : Shape) → s.Carrier → Prop
  | .integer, i => -0x8000000000000000 ≤ i ∧ i ≤ 0x7FFFFFFFFFFFFFFF
  | .instant, t => Time.Instant.inReach t.year = true
  | .members, ms => Value.EachMember Number.Exact ms ∧ (Value.object ms).Ordered
  | _, _ => True

/-- What the decoder of a field gives. -/
def Shape.Given (room : Nat) : (s : Shape) → s.Carrier → Prop
  | .integer, i => -0x8000000000000000 ≤ i ∧ i ≤ 0x7FFFFFFFFFFFFFFF
  | .members, ms => (Value.object ms).Decoded room ∧ (Value.object ms).Ordered
  | _, _ => True

theorem Shape.kept_of_sendable {s : Shape} {v : s.Carrier} (sendable : s.Sendable v) :
    s.Kept v := by
  cases s with
  | integer => exact sendable
  | instant => exact Time.Instant.Dated.inReach sendable
  | members => exact ⟨Value.exact_of_wholeMembers v sendable.1, sendable.2⟩
  | port | flag | text | ports | optional => trivial

theorem Shape.kept_of_given {room : Nat} {s : Shape} {v : s.Carrier} (given : s.Given room v)
    (clear : s.Clear v) : s.Kept v := by
  cases s with
  | integer => exact given
  | instant => exact Time.Instant.Dated.inReach clear
  | members =>
    obtain ⟨⟨read, -⟩, ordered⟩ := given
    have both := Value.EachMember.and v read clear
    exact ⟨Value.EachMember.imp (fun _ both => exact_of_read both.1 both.2) v both, ordered⟩
  | port | flag | text | ports | optional => trivial

/-- A whole number that was read keeps the bounds that were asked for. -/
theorem bounds_of_whole {room : Nat} {low high i : Int} {d : Draft}
    (read : Decoder.whole low high room d = .ok i) : low ≤ i ∧ i ≤ high := by
  cases d with
  | numeral n =>
    simp only [Decoder.whole] at read
    split at read
    · cases read
    · split at read
      · rename_i within
        cases read
        exact within
      · cases read
    · cases read
  | null | flag | text | array | object | torn => cases read

theorem readable_given (room : Nat) : Readable (Shape.Given (room + 1)) (room + 1) where
  none := ⟨⟨trivial, Nat.succ_le_succ (Nat.zero_le room)⟩, ⟨.nil, trivial⟩⟩
  read := by
    intro s d v decoded
    cases s with
    | integer => exact bounds_of_whole decoded
    | members => exact ⟨Decoder.decoded_of_members decoded, Decoder.ordered_of_members decoded⟩
    | port | flag | text | instant | ports | optional => trivial

/-- A field that holds something does not hold `null`. -/
theorem Shape.encode_ne_null {inner : Shape} (once : (Shape.optional inner).once = true)
    (v : inner.Carrier) : inner.encode v ≠ .null := by
  cases inner with
  | optional => cases once
  | integer | port | flag | text | instant | members | ports => nofun

/-- **A value that is kept returns, unless it is too deep.** -/
theorem Shape.returns_of_kept {room : Nat} {s : Shape} (once : s.once = true) {v : s.Carrier}
    (kept : s.All Shape.Kept v) (shallow : (s.encode v).depth ≤ room) : s.Returns room v := by
  induction s with
  | integer => exact returns_integer room kept.1 kept.2
  | port => exact returns_port room v
  | flag => exact returns_flag room v
  | text => exact returns_text room v
  | instant => exact returns_instant room kept
  | members => exact returns_members shallow kept.1 kept.2
  | ports =>
    obtain ⟨inner, rfl⟩ : ∃ inner, room = inner + 1 := ⟨room - 1, by
      simp only [Shape.encode, Value.depth] at shallow
      omega⟩
    exact returns_ports inner v
  | optional inner ih =>
    have single : inner.once = true := by
      cases inner with
      | optional => cases once
      | integer | port | flag | text | instant | members | ports => rfl
    refine returns_optional fun w same => ⟨?_, encode_ne_null once w⟩
    subst same
    exact ih single (kept w rfl) shallow

/-! ## Rows -/

variable {p q : (s : Shape) → s.Carrier → Prop}

theorem Shape.All.imp (weaker : ∀ s v, p s v → q s v) {s : Shape} {v : s.Carrier}
    (all : s.All p v) : s.All q v := by
  induction s with
  | optional inner ih => exact fun w same => ih (all w same)
  | integer | port | flag | text | instant | members | ports => exact weaker _ v all

theorem Shape.All.and {s : Shape} {v : s.Carrier} (one : s.All p v) (other : s.All q v) :
    s.All (fun s v => p s v ∧ q s v) v := by
  induction s with
  | optional inner ih => exact fun w same => ih (one w same) (other w same)
  | integer | port | flag | text | instant | members | ports => exact ⟨one, other⟩

theorem Row.All.imp (weaker : ∀ s v, p s v → q s v) {fs : List Field} {row : Row fs}
    (all : Row.All p fs row) : Row.All q fs row := by
  induction fs with
  | nil => trivial
  | cons f fs ih => exact ⟨Shape.All.imp weaker all.1, ih all.2⟩

theorem Row.All.and {fs : List Field} {row : Row fs} (one : Row.All p fs row)
    (other : Row.All q fs row) : Row.All (fun s v => p s v ∧ q s v) fs row := by
  induction fs with
  | nil => trivial
  | cons f fs ih => exact ⟨Shape.All.and one.1 other.1, ih one.2 other.2⟩

theorem Row.returns_of_kept {room : Nat} {fs : List Field} {row : Row fs}
    (once : ∀ f ∈ fs, f.shape.once = true) (kept : Row.All Shape.Kept fs row)
    (shallow : Value.depthMembers (Row.encode fs row) ≤ room) : Row.Returns room fs row := by
  induction fs with
  | nil => trivial
  | cons f fs ih =>
    obtain ⟨v, vs⟩ := row
    obtain ⟨first, rest⟩ := Nat.max_le.mp shallow
    exact ⟨Shape.returns_of_kept (once f List.mem_cons_self) kept.1 first,
      ih (fun g later => once g (List.mem_cons_of_mem _ later)) kept.2 rest⟩

/-- What decoders give is not too deep. -/
theorem Shape.depth_of_given {room : Nat} {s : Shape} {v : s.Carrier}
    (given : s.All (Shape.Given (room + 1)) v) : (s.encode v).depth ≤ room + 1 := by
  induction s with
  | members => exact given.1.2
  | ports =>
    have flat : Value.depthItems (v.map portValue) ≤ room := by
      refine Value.depthItems_le_iff.mpr fun w member => ?_
      obtain ⟨p, -, rfl⟩ := List.mem_map.mp member
      exact Nat.zero_le room
    exact Nat.succ_le_succ flat
  | optional inner ih =>
    cases v with
    | none => exact Nat.zero_le _
    | some w => exact ih (given w rfl)
  | integer | port | flag | text | instant => exact Nat.zero_le _

theorem Row.depth_of_given {room : Nat} {fs : List Field} {row : Row fs}
    (given : Row.All (Shape.Given (room + 1)) fs row) :
    Value.depthMembers (Row.encode fs row) ≤ room + 1 := by
  induction fs with
  | nil => exact Nat.zero_le _
  | cons f fs ih =>
    obtain ⟨v, vs⟩ := row
    exact Nat.max_le.mpr ⟨Shape.depth_of_given given.1, ih given.2⟩

/-! ## Records -/

theorem roundTrips (α : Type) [Record α] [Record.Lawful α] : RoundTrips α where
  written := by
    intro v sendable shallow
    have kept := Row.All.imp (fun _ _ => Shape.kept_of_sendable) sendable
    exact ofText_of_returns
      (Row.returns_of_kept Record.Lawful.once kept (Nat.le_of_succ_le_succ shallow))
  reread := by
    intro text v read clear
    have given := all_of_ofText (readable_given 125) read
    have kept := Row.All.imp (fun _ _ both => Shape.kept_of_given both.1 both.2) (given.and clear)
    exact ofText_of_returns
      (Row.returns_of_kept Record.Lawful.once kept (Row.depth_of_given given))

/-- **Every record of the service is read back from its text**, and the text that is
written for a record that was read says what was read. -/
theorem records_round_trip :
    RoundTrips Port ∧ RoundTrips Instance ∧ RoundTrips Binding ∧ RoundTrips JoinRequest ∧
      RoundTrips ReserveRequest ∧ RoundTrips ReleaseRequest ∧ RoundTrips ObserveRequest ∧
      RoundTrips PortFilter ∧ RoundTrips BindingFilter ∧ RoundTrips ErrorReport :=
  ⟨roundTrips _, roundTrips _, roundTrips _, roundTrips _, roundTrips _, roundTrips _,
    roundTrips _, roundTrips _, roundTrips _, roundTrips _⟩

end PortPool.Wire
