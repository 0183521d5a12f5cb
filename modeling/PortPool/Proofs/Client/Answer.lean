/-
# PortPool.Proofs.Client.Answer -- what the client reads

Whatever a store has read from its rows can be told, and comes back: a port and a binding
from any answer, an instance from every answer that leaves enough levels for what its
machine tells of itself.  A record leaves 126 of them, which is what the request to join
had, so an instance that joined comes back (`Console.told_of_read`).  A list leaves 125,
and an instance that needs one more makes the whole list unreadable
(`decodeAnswer_list_deep`).
-/
import PortPool.Proofs.Client.Request
import PortPool.Proofs.History
import PortPool.Proofs.Http.Registration
import PortPool.Proofs.Wire.NormalForm

namespace PortPool

set_option autoImplicit false

open Http (Response answer listing)
open Json (Number Value)
open Wire (Record Row Shape)

/-! ## Records that come back -/

/-- Every id has 63 bits, as the store counts its rows. -/
structure Store.Numbered (s : Store) : Prop where
  ports : ∀ r ∈ s.ports.rows, r.id ≤ 0x7FFFFFFFFFFFFFFF
  bindings : ∀ b ∈ s.bindings, b.id ≤ 0x7FFFFFFFFFFFFFFF

theorem Port.returns_of_read {s t : Store} (numbered : t.Numbered) {r : PortRow}
    (member : r ∈ t.ports.rows) {p : Port} (read : s.readPort r = .ok p) (room : Nat) :
    Row.Returns room (Record.fields Port) (Record.toRow p) := by
  have small := numbered.ports r member
  obtain ⟨number, -, same⟩ := bind_eq_ok.mp read
  cases same
  exact ⟨Shape.returns_integer room (by simp only; omega) (by simp only; omega),
    Shape.returns_port room _, Shape.returns_flag room _, trivial⟩

/-- The id of the binding has 64 bits, and its instants can be told. -/
structure Binding.Tellable (b : Binding) : Prop where
  low : -0x8000000000000000 ≤ b.id
  high : b.id ≤ 0x7FFFFFFFFFFFFFFF
  instants : ∀ t ∈ b.instants, Time.Instant.inReach t.year = true

theorem Binding.Tellable.returns {b : Binding} (tellable : b.Tellable) (room : Nat) :
    Row.Returns room (Record.fields Binding) (Record.toRow b) := by
  have reservedAt := tellable.instants b.reservedAt List.mem_cons_self
  have releasedAt (t : Time.Instant) (released : b.releasedAt = some t) :=
    tellable.instants t (List.mem_cons_of_mem _ (by simp [released]))
  exact ⟨Shape.returns_integer room tellable.low tellable.high, Shape.returns_text room _,
    Shape.returns_port room _, Shape.returns_port room _, Shape.returns_instant room reservedAt,
    Shape.returns_optional fun t released =>
      ⟨Shape.returns_instant room (releasedAt t released), nofun⟩,
    trivial⟩

theorem BindingRow.tellable_of_read {row : BindingRow} {b : Binding} (read : row.read = .ok b)
    (small : row.id ≤ 0x7FFFFFFFFFFFFFFF) : b.Tellable := by
  have told {text : String} {t : Time.Instant} (found : Time.Rfc3339.read? text = some t) :=
    Time.Rfc3339.inReach_of_read? found
  cases ended : row.releasedAt with
  | none =>
    simp only [BindingRow.read, ended, bind_eq_ok, readable_eq_ok, pure_eq_ok, bind_ok] at read
    obtain ⟨first, -, last, -, reservedAt, isReserved, same⟩ := read
    cases same
    refine ⟨by simp only; omega, by simp only; omega, fun t member => ?_⟩
    obtain rfl := List.mem_singleton.mp member
    exact told isReserved
  | some text =>
    simp only [BindingRow.read, ended, bind_eq_ok, readable_eq_ok, pure_eq_ok, map_eq_ok] at read
    obtain ⟨first, -, last, -, reservedAt, isReserved, _, ⟨releasedAt, isReleased, rfl⟩, same⟩ :=
      read
    cases same
    refine ⟨by simp only; omega, by simp only; omega, fun t member => ?_⟩
    simp only [Binding.instants, Option.toList_some, List.mem_cons, List.not_mem_nil,
      or_false] at member
    rcases member with rfl | rfl
    · exact told isReserved
    · exact told isReleased

/-- What the machine tells of itself is written as it is read, and the instant can be
told. -/
structure Instance.Tellable (i : Instance) : Prop where
  kept : Value.EachMember Number.Exact i.description
  ordered : (Value.object i.description).Ordered
  instant : Time.Instant.inReach i.joinedAt.year = true

/-- An instance comes back, if there are levels enough. -/
theorem Instance.Tellable.returns {i : Instance} (tellable : i.Tellable) {room : Nat}
    (shallow : (Value.object i.description).depth ≤ room) :
    Row.Returns room (Record.fields Instance) (Record.toRow i) :=
  ⟨Shape.returns_text room _, Shape.returns_text room _,
    Shape.returns_members shallow tellable.kept tellable.ordered,
    Shape.returns_instant room tellable.instant, trivial⟩

/-- If there are too few, it does not. -/
theorem Instance.depth_of_reread {i : Instance} {room : Nat} {row : Row (Record.fields Instance)}
    (read : Row.reread room (Record.fields Instance) (Record.toRow i) = .ok row) :
    (Value.object i.description).depth ≤ room := by
  obtain ⟨_, -, afterId⟩ := bind_eq_ok.mp read
  obtain ⟨_, named, -⟩ := bind_eq_ok.mp afterId
  obtain ⟨_, -, afterName⟩ := bind_eq_ok.mp named
  obtain ⟨_, described, -⟩ := bind_eq_ok.mp afterName
  obtain ⟨_, members, -⟩ := bind_eq_ok.mp described
  by_contra deep
  have refused := Shape.reread_members_deep (Nat.lt_of_not_le deep)
  cases refused.symm.trans members

section Reached

variable {settings : Settings} {seeded : Bool} {events : List Event} {row : InstanceRow}
  (member : row ∈ (Console.reached settings seeded events).store.instances) {i : Instance}
  (read : row.read = .ok i)

include member read

/-- What is read from the row of an instance has no more levels than a request to join had. -/
theorem Console.decoded_of_read : (Value.object i.description).Decoded 126 ∧
    (Value.object i.description).Ordered ∧ Time.Instant.inReach i.joinedAt.year = true := by
  obtain ⟨r, request, new, now, body, asks, rfl⟩ := exists_request_of_mem_instances member
  have decoded : (Value.object new.description).Decoded 126 := by
    rw [NewInstance.description_of_ofRequest asks]
    exact Wire.decoded_of_joinRequest (Http.ofText_of_readBody body)
  simp only [InstanceRow.read, bind_eq_ok, readable_eq_ok, pure_eq_ok, Except.ok.injEq] at read
  obtain ⟨ms, described, _, -, joinedAt, told, rfl⟩ := read
  have plain := Value.EachMember.imp (fun _ read => (Json.legible_of_read read).1) _ decoded.1
  -- the row and a member of a record are read by the same rounds
  have again : Json.Decoder.members 126 (Value.object new.description).draft = .ok ms := by
    rw [show Json.Decoder.members 126 (Value.object new.description).draft = _ from
        Shape.reread_members decoded.2,
      ← Json.decodeText_render plain (Nat.le_trans decoded.2 (by decide))]
    simp only [readDescription, NewInstance.row, Text.Utf8.ofString, Value.toText,
      String.toList_ofList] at described
    split at described
    · rename_i others found
      cases described
      exact found
    · cases described
  exact ⟨Json.Decoder.decoded_of_members again, Json.Decoder.ordered_of_members again,
    Time.Rfc3339.inReach_of_read? told⟩

/-- **An instance that joined comes back from an answer with one record**, if it was told
without fractions. -/
theorem Console.told_of_read (integral : (Value.object i.description).Each Number.Integral) :
    i.Tellable ∧ (Value.object i.description).depth ≤ 126 := by
  obtain ⟨⟨numbers, shallow⟩, ordered, instant⟩ := decoded_of_read member read
  have both := Value.EachMember.and _ numbers integral
  refine ⟨⟨?_, ordered, instant⟩, shallow⟩
  exact Value.EachMember.imp (fun _ both => Json.exact_of_read both.1 both.2) _ both

end Reached

/-! ## Answers -/

namespace Client

section Answers

variable {α : Type} [Record α] [Record.Lawful α]

theorem decodeAnswer_record {v : α} {status : Nat} (granted : 200 ≤ status ∧ status < 300)
    (returns : Row.Returns 126 (Record.fields α) (Record.toRow v)) :
    decodeAnswer (Wire.ofText α) (.record status v) = .ok v := by
  have read : Wire.ofText α (Response.record status v).body.octets = .ok v :=
    Wire.ofText_of_returns returns
  have success : (200 ≤ (Response.record status v).status &&
      (Response.record status v).status < 300) = true := by
    rw [Bool.and_eq_true, decide_eq_true_eq, decide_eq_true_eq]
    exact granted
  rw [decodeAnswer, if_pos success, read]

theorem decodeAnswer_list {vs : List α}
    (returns : ∀ v ∈ vs, Row.Returns 125 (Record.fields α) (Record.toRow v)) :
    decodeAnswer (Wire.listOfText α) (.list vs) = .ok vs := by
  have read : Wire.listOfText α (Response.list vs).body.octets = .ok vs :=
    Wire.listOfText_of_returns returns
  rw [decodeAnswer, if_pos (by rfl), read]

end Answers

/-- An instance is shown with its id, its name and its instant.  What its machine told of
itself is shown with its fractions as they are read again. -/
theorem decodeAnswer_instance {i : Instance} (decoded : (Value.object i.description).Decoded 126)
    (instant : Time.Instant.inReach i.joinedAt.year = true) :
    ∃ description, decodeAnswer (Wire.ofText Instance) (.record 200 i) =
      .ok { i with description } := by
  have legible := Value.EachMember.imp (fun _ => Json.legible_of_read) _ decoded.1
  have plain : (Wire.encode i).Each Number.Plain :=
    ⟨trivial, trivial, Value.EachMember.imp (fun _ both => both.1) _ legible, trivial, trivial⟩
  obtain ⟨others, again⟩ :=
    Option.isSome_iff_exists.mp (Value.isSome_rereadMembers [] i.description legible)
  have described : Shape.reread 126 .members i.description = .ok others := by
    rw [Shape.reread_members decoded.2, again]
    rfl
  have fields : Row.reread 126 (Record.fields Instance) (Record.toRow i) =
      .ok (Record.toRow { i with description := others }) := by
    have text (t : String) : Shape.reread 126 .text t = .ok t := (Shape.returns_text 126 t).same
    have told := (Shape.returns_instant 126 instant).same
    simp only [Row.reread, Record.toRow, Record.fields]
    rw [text, bind_ok, text, bind_ok, described, bind_ok, told]
    rfl
  have read : Wire.ofText Instance (Response.record 200 i).body.octets =
      .ok { i with description := others } := by
    rw [show (Response.record 200 i).body.octets = Wire.toText i from rfl, Wire.ofText_toText plain,
      fields]
    rfl
  refine ⟨others, ?_⟩
  rw [decodeAnswer, if_pos (by rfl), read]

/-- A list with one instance that needs too many levels cannot be read. -/
theorem decodeAnswer_list_deep {is : List Instance} (tellable : ∀ i ∈ is, i.Tellable)
    {i : Instance} (member : i ∈ is) (deep : 125 < (Value.object i.description).depth) :
    decodeAnswer (Wire.listOfText Instance) (.list is) = .error .undecodable := by
  have plain : ∀ i ∈ is, (Wire.encode i).Each Number.Plain := fun i among =>
    Row.plain_of_returns ((tellable i among).returns (Nat.le_refl _))
  have unread : ∃ refusal,
      Wire.listOfText Instance (Response.list is).body.octets = .error refusal := by
    cases read : Wire.listOfText Instance (Response.list is).body.octets with
    | error refusal => exact ⟨refusal, rfl⟩
    | ok js =>
      have each := (Wire.listOfText_listToText plain).symm.trans read
      obtain ⟨j, -, told⟩ := exists_of_mapM_eq_ok each member
      obtain ⟨row, reread, -⟩ := map_eq_ok.mp told
      exact absurd (Instance.depth_of_reread reread) (Nat.not_le.mpr deep)
  obtain ⟨refusal, unread⟩ := unread
  rw [decodeAnswer, if_pos (by rfl), unread]

/-- A list is no instance, whatever it lists. -/
theorem decodeAnswer_list_no_instance {α : Type} [Record α] {vs : List α}
    (plain : ∀ v ∈ vs, (Wire.encode v).Each Number.Plain) :
    decodeAnswer (Wire.ofText Instance) (.list vs) = .error .undecodable := by
  have unread : ∃ refusal, Wire.ofText Instance (Response.list vs).body.octets = .error refusal := by
    rw [show (Response.list vs).body.octets = Wire.listToText vs from rfl, Wire.ofText,
      Wire.listToText, Json.decodeText, Json.ofText_render (Wire.each_map_encode plain)]
    cases vs with
    | nil => exact ⟨_, rfl⟩
    | cons v vs => exact ⟨_, rfl⟩
  obtain ⟨refusal, unread⟩ := unread
  rw [decodeAnswer, if_pos (by rfl), unread]

/-- What a client makes of a fault of the service. -/
def Failure.ofFault (f : Fault) : Failure := .refused f.report.message f.status

theorem decodeAnswer_fault {β : Type} (read : List UInt8 → Except Json.Refusal β) (f : Fault) :
    decodeAnswer read (.fault f) = .error (.ofFault f) := by
  have report : Wire.ofText ErrorReport (Response.fault f).body.octets = .ok f.report :=
    Wire.ofText_of_returns
      ⟨Shape.returns_text 126 _, Shape.returns_text 126 _, trivial⟩
  have refused : ¬(200 ≤ (Response.fault f).status && (Response.fault f).status < 300) = true := by
    rw [← Response.succeeds, Http.fault_succeeds]
    exact Bool.false_ne_true
  rw [decodeAnswer, if_neg refused, report]
  rfl

/-- A list is read as it was sent, and a fault is told. -/
theorem decodeAnswer_listing {α : Type} [Record α] [Record.Lawful α]
    {result : Except Fault (List α)}
    (returns : ∀ vs, result = .ok vs →
      ∀ v ∈ vs, Row.Returns 125 (Record.fields α) (Record.toRow v)) :
    decodeAnswer (Wire.listOfText α) (listing result) = result.mapError .ofFault := by
  cases result with
  | ok vs => exact decodeAnswer_list (returns vs rfl)
  | error f => exact decodeAnswer_fault _ f

end Client

end PortPool
