/-
# PortPool.Proofs.Effect -- what a granted request does to the bindings

A granted request does one of three things to the bindings (`Effect`).  A reservation
puts the binding that it answers in front of all others (`Store.Reserved`).  A release
marks one active binding and answers what the row of it says, released at this instant
(`Store.Ended`); that binding belongs to whom the release names, and where the policy
asks for a name there is one.  Every other request leaves the bindings alone.

`perform_effect` says that nothing else happens.  What is proved about the history of
bindings, about who may end them and about the numbers that they take rests on these
three cases.
-/
import PortPool.Proofs.Observation

namespace PortPool

set_option autoImplicit false

open Time.Rfc3339 (stored)

/-! ## Bindings and their rows -/

/-- The row that says what a binding says. -/
def Binding.row (b : Binding) : BindingRow :=
  ⟨b.id.toNat, b.owner, b.first.val, b.last.val, stored b.reservedAt, b.releasedAt.map stored⟩

theorem PortNumber.ofInt?_val (p : PortNumber) : PortNumber.ofInt? p.val = some p :=
  dif_pos ⟨by omega, by omega⟩

/-- The spans of different active bindings do not meet. -/
theorem Sound.apart_of_ne {s : Store} (sound : Sound s) {a b : BindingRow}
    (ma : a ∈ s.bindings) (mb : b ∈ s.bindings) (first : a.isActive) (second : b.isActive)
    (different : a ≠ b) : a.last < b.first ∨ b.last < a.first := by
  have : Std.Symm fun a b : BindingRow =>
      a.isActive → b.isActive → a.last < b.first ∨ b.last < a.first :=
    ⟨fun _ _ apart second first => (apart first second).symm⟩
  exact sound.apart.forall ma mb different first second

/-! ## Requests by what they ask for -/

namespace Operation

/-- The request asks for ports. -/
def reserves : Operation → Bool
  | .reserve .. | .reserveSpan .. | .reserveOne .. => true
  | _ => false

/-- The request gives ports back. -/
def releases : Operation → Bool
  | .release .. | .releasePort .. | .releaseSpan .. => true
  | _ => false

/-- The instance in whose name ports are given back, if one is named. -/
def named : Operation → Option String
  | .release request => request.instanceId.filter fun id => !id.isEmpty
  | .releasePort _ owner | .releaseSpan _ _ owner => owner
  | _ => none

end Operation

namespace Store

variable {s t : Store} {range : PortRange} {owner : String} {now : Time.Instant}

/-! ## Reserving -/

/-- The store has one more binding, the latest of all, and it is active. -/
structure Reserved (s : Store) (now : Time.Instant) (b : Binding) (t : Store) : Prop where
  identified : b.id = s.nextBinding
  reserved : b.reservedAt = now
  active : b.releasedAt = none
  bindings : t.bindings = b.row :: s.bindings
  counter : t.nextBinding = s.nextBinding + 1

theorem bind_reserved {b : Binding}
    (granted : s.bind owner b.first.val b.last.val now = .ok (b, t)) : s.Reserved now b t := by
  obtain ⟨-, -, -, same, rfl⟩ := bind_eq_ok_iff.mp granted
  have identified : b.id = s.nextBinding := by rw [← same]
  have owned : b.owner = owner := by rw [← same]
  have reserved : b.reservedAt = now := by rw [← same]
  have active : b.releasedAt = none := by rw [← same]
  refine ⟨identified, reserved, active, ?_, rfl⟩
  simp [bound, withLinks, withBinding, Binding.row, identified, owned, reserved, active]

theorem reserveSpan_reserved {size : Nat} {b : Binding}
    (granted : s.reserveSpan range owner size now = .ok (b, t)) : s.Reserved now b t := by
  obtain ⟨u, prepared, bound⟩ := reserveSpan_bound granted
  have reserved := bind_reserved bound
  -- recording ports touches no binding
  rcases prepared.recorded with rfl | ⟨count, rfl, -⟩
  · exact reserved
  · exact ⟨reserved.identified, reserved.reserved, reserved.active, reserved.bindings,
      reserved.counter⟩

/-! ## The numbers that are taken -/

theorem Reserved.occupied_iff {b : Binding} (reserved : s.Reserved now b t) {n : Int} :
    t.Occupied n ↔ s.Occupied n ∨ b.first.val ≤ n ∧ n ≤ b.last.val := by
  have active : b.row.isActive = true := by
    simp [Binding.row, BindingRow.isActive, reserved.active]
  simp only [Occupied, reserved.bindings, List.mem_cons, exists_eq_or_imp, active, true_and]
  exact or_comm

/-- A release frees the numbers of its span, which no other active binding has. -/
theorem Ended.occupied_iff (sound : Sound s) {ownership : Ownership} {named : Option String}
    {row : BindingRow} {b : Binding} (ended : s.Ended ownership named now row b t) {n : Int} :
    t.Occupied n ↔ s.Occupied n ∧ ¬(b.first.val ≤ n ∧ n ≤ b.last.val) := by
  obtain ⟨shown, told, rfl⟩ := ended.told
  obtain ⟨-, -, starts, ends, -⟩ := BindingRow.of_read told
  simp only [starts, ends, ended.store, Occupied, released, List.mem_map]
  constructor
  · rintro ⟨_, ⟨c, member, rfl⟩, active, low, high⟩
    obtain ⟨active, other⟩ := (BindingRow.isActive_marked ..).mp active
    rw [BindingRow.marked_first] at low
    rw [BindingRow.marked_last] at high
    refine ⟨⟨c, member, active, low, high⟩, fun both => ?_⟩
    have apart := sound.apart_of_ne member ended.present active ended.active
      fun same => other (by rw [same])
    omega
  · rintro ⟨⟨c, member, active, low, high⟩, outside⟩
    have other : c.id ≠ row.id := by
      intro same
      obtain rfl := sound.eq_of_id_eq member ended.present same
      exact outside ⟨low, high⟩
    refine ⟨_, ⟨c, member, rfl⟩, (BindingRow.isActive_marked ..).mpr ⟨active, other⟩, ?_, ?_⟩
    · rwa [BindingRow.marked_first]
    · rwa [BindingRow.marked_last]

/-! ## All other requests -/

theorem join_bindings {new : NewInstance} {i : Instance} (granted : s.join new now = .ok (i, t)) :
    t.bindings = s.bindings ∧ t.nextBinding = s.nextBinding := by
  obtain ⟨-, rfl⟩ := join_inversion granted
  exact ⟨rfl, rfl⟩

theorem observe_bindings {reported : List PortNumber} {ports : List Port}
    (granted : s.observe range reported = .ok (ports, t)) :
    t.bindings = s.bindings ∧ t.nextBinding = s.nextBinding := by
  obtain ⟨_, u, other, recorded⟩ := observe_records s range reported
  rw [granted] at other
  cases other
  exact ⟨recorded.bindings, recorded.nextBinding⟩

end Store

/-! ## Every request -/

/-- What a granted request does to the bindings. -/
inductive Effect (settings : Settings) (now : Time.Instant) (s : Store) (request : Operation) :
    Answer → Store → Prop where
  | reserved {b : Binding} {t : Store} (asks : request.reserves) (granted : s.Reserved now b t) :
      Effect settings now s request (.binding b) t
  | ended {row : BindingRow} {b : Binding} {t : Store} (asks : request.releases)
      (granted : s.Ended settings.ownership request.named now row b t) :
      Effect settings now s request (.binding b) t
  | other {answer : Answer} {t : Store} (reservesNot : request.reserves = false)
      (releasesNot : request.releases = false) (bindings : t.bindings = s.bindings)
      (counter : t.nextBinding = s.nextBinding) : Effect settings now s request answer t

/-- **Every granted request has one of the three effects.** -/
theorem perform_effect {settings : Settings} {now : Time.Instant} {s t : Store}
    {request : Operation} {answer : Answer}
    (performed : request.perform settings now s = .ok (answer, t)) :
    Effect settings now s request answer t := by
  cases request with
  | reserve owner size =>
    obtain ⟨b, granted, rfl⟩ := Operation.changing_eq_ok.mp performed
    obtain ⟨n, granted⟩ := Store.reserve_inversion granted
    exact .reserved rfl (Store.reserveSpan_reserved granted)
  | reserveSpan owner size =>
    obtain ⟨b, granted, rfl⟩ := Operation.changing_eq_ok.mp performed
    exact .reserved rfl (Store.reserveSpan_reserved granted)
  | reserveOne owner =>
    obtain ⟨b, granted, rfl⟩ := Operation.changing_eq_ok.mp performed
    rw [Store.reserveOne_eq_reserveSpan] at granted
    exact .reserved rfl (Store.reserveSpan_reserved granted)
  | release request =>
    obtain ⟨b, granted, rfl⟩ := Operation.changing_eq_ok.mp performed
    obtain ⟨row, ended⟩ := Store.release_ended granted
    exact .ended rfl ended
  | releasePort number named =>
    obtain ⟨b, granted, rfl⟩ := Operation.changing_eq_ok.mp performed
    obtain ⟨row, ended⟩ := Store.releasePort_ended granted
    exact .ended rfl ended
  | releaseSpan first last named =>
    obtain ⟨b, granted, rfl⟩ := Operation.changing_eq_ok.mp performed
    obtain ⟨row, ended⟩ := Store.releaseSpan_ended granted
    exact .ended rfl ended
  | join new =>
    obtain ⟨i, granted, rfl⟩ := Operation.changing_eq_ok.mp performed
    obtain ⟨bindings, counter⟩ := Store.join_bindings granted
    exact .other rfl rfl bindings counter
  | observe reported =>
    obtain ⟨ports, granted, rfl⟩ := Operation.changing_eq_ok.mp performed
    obtain ⟨bindings, counter⟩ := Store.observe_bindings granted
    exact .other rfl rfl bindings counter
  | seed =>
    cases performed
    exact .other rfl rfl rfl rfl
  | getInstance | findInstance | listInstances | listPorts | listBindings | findPort
  | findBinding =>
    obtain ⟨-, rfl⟩ := Operation.reading_eq_ok.mp performed
    exact .other rfl rfl rfl rfl

end PortPool
