/-
# PortPool.Proofs.Registry -- who joined can be looked up

An instance is looked up by reading its row again, and a row that cannot be read is a
fault of the store (`getInstance_of_registered`).  The service can read what it wrote,
as long as its clock shows years of at most four digits and what machines tell of
themselves was read from a text (`Step.Served`): after every run of such steps, whoever
joined can be looked up (`recalls_after`).
-/
import Mathlib.Tactic.ByContra
import PortPool.Proofs.Json.Legible
import PortPool.Proofs.Move
import PortPool.Proofs.Time.Rfc3339
import PortPool.Proofs.Wire.Schema

namespace PortPool

set_option autoImplicit false

namespace Store

variable {s : Store} {owner : String}

/-! ## Looking up -/

/-- The instance of an id can be looked up. -/
def Recalls (s : Store) (id : String) : Prop := ∃ i, s.getInstance id = .ok i

theorem getInstance_of_unregistered (unknown : ¬s.Registered owner) :
    s.getInstance owner = .error (.instanceNotRegistered owner) := by
  have missing : (s.instances.find? fun r => r.id == some owner) = none := by
    rw [List.find?_eq_none]
    intro r member same
    exact unknown ⟨r, member, by simpa using same⟩
  simp [getInstance, findInstance, missing]

theorem error_store_of_read {r : InstanceRow} {fault : Fault} (failed : r.read = .error fault) :
    fault = .store := by
  have text {f : Fault} {t : String} (h : readDescription t = .error f) : f = .store := by
    simp only [readDescription] at h
    split at h <;> cases h
    rfl
  simp only [InstanceRow.read, bind_eq_error] at failed
  rcases failed with failed | ⟨_, -, failed | ⟨_, -, failed | ⟨_, -, failed⟩⟩⟩
  · exact text failed
  · exact (readable_eq_error.mp failed).2
  · exact (readable_eq_error.mp failed).2
  · cases failed

theorem find?_of_registered (joined : s.Registered owner) :
    ∃ r ∈ s.instances, (s.instances.find? fun r => r.id == some owner) = some r := by
  obtain ⟨r, member, same⟩ := joined
  cases found : s.instances.find? fun r => r.id == some owner with
  | none =>
    have := List.find?_eq_none.mp found r member
    simp [same] at this
  | some q => exact ⟨q, List.mem_of_find?_eq_some found, rfl⟩

theorem getInstance_of_find? {r : InstanceRow}
    (found : (s.instances.find? fun r => r.id == some owner) = some r) :
    s.getInstance owner = r.read := by
  cases outcome : r.read <;> simp [getInstance, findInstance, found, outcome]

/-- An instance with a row that cannot be read is a fault of the store. -/
theorem getInstance_of_registered (joined : s.Registered owner) (unread : ¬s.Recalls owner) :
    s.getInstance owner = .error .store := by
  obtain ⟨r, -, found⟩ := find?_of_registered joined
  rw [Recalls, getInstance_of_find? found] at unread
  rw [getInstance_of_find? found]
  cases outcome : r.read with
  | ok i => exact absurd ⟨i, outcome⟩ unread
  | error fault => rw [error_store_of_read outcome]

/-- There is no other cause of such a fault. -/
theorem exists_unread (failed : s.getInstance owner = .error .store) :
    ∃ r ∈ s.instances, r.id = some owner ∧ r.read = .error .store := by
  by_cases joined : s.Registered owner
  · obtain ⟨r, member, found⟩ := find?_of_registered joined
    rw [getInstance_of_find? found] at failed
    exact ⟨r, member, by simpa using List.find?_some found, failed⟩
  · cases failed.symm.trans (getInstance_of_unregistered joined)

theorem findInstance_cases (s : Store) (id : String) :
    s.findInstance id = .ok none ∧ ¬s.Registered id ∨
      s.Registered id ∧ ((∃ i, s.findInstance id = .ok (some i)) ∨
        s.findInstance id = .error .store) := by
  by_cases joined : s.Registered id
  · obtain ⟨r, -, found⟩ := find?_of_registered joined
    right
    cases outcome : r.read with
    | ok i => exact ⟨joined, .inl ⟨i, by simp only [findInstance, found, outcome, map_ok]⟩⟩
    | error fault =>
      rw [error_store_of_read outcome] at outcome
      exact ⟨joined, .inr (by simp only [findInstance, found, outcome, map_error])⟩
  · left
    have missing : (s.instances.find? fun r => r.id == some id) = none := by
      rw [List.find?_eq_none]
      intro r member same
      exact joined ⟨r, member, by simpa using same⟩
    exact ⟨by simp only [findInstance, missing], joined⟩

theorem recalls_of_read (joined : s.Registered owner)
    (readable : ∀ r ∈ s.instances, ∃ i, r.read = .ok i) : s.Recalls owner := by
  obtain ⟨r, member, found⟩ := find?_of_registered joined
  obtain ⟨i, read⟩ := readable r member
  exact ⟨i, (getInstance_of_find? found).trans read⟩

theorem Recalls.registered (recalled : s.Recalls owner) : s.Registered owner := by
  by_contra unknown
  obtain ⟨i, found⟩ := recalled
  rw [getInstance_of_unregistered unknown] at found
  cases found

/-! ## What is registered stays -/

theorem instances_moves {joins : NewInstance → Prop} {range : PortRange} {now : Time.Instant}
    {t : Store} (moves : Moves joins range now s t) : s.instances <+: t.instances := by
  induction moves with
  | refl => exact List.prefix_rfl
  | tail _ move before =>
    cases move with
    | join => exact before.trans (List.prefix_append ..)
    | record | bind | release => exact before

theorem instances_after (s : Store) (steps : List Step) :
    s.instances <+: (s.after steps).instances := by
  refine after_induction (P := fun t => s.instances <+: t.instances) steps List.prefix_rfl ?_
  intro step _ t u moved before
  exact before.trans (instances_moves (.single moved))

/-- Rows that are added are not found before those that were there. -/
theorem findInstance_of_kept {t : Store} {i : Instance} (kept : s.instances <+: t.instances)
    (found : s.findInstance owner = .ok (some i)) : t.findInstance owner = .ok (some i) := by
  obtain ⟨others, whole⟩ := kept
  rw [findInstance] at found ⊢
  split at found
  · cases found
  · rename_i r isRow
    rw [← whole, List.find?_append, isRow]
    exact found

theorem getInstance_eq_ok {i : Instance} :
    s.getInstance owner = .ok i ↔ s.findInstance owner = .ok (some i) := by
  rw [getInstance, bind_eq_ok]
  constructor
  · rintro ⟨found, isFound, same⟩
    cases found with
    | none => cases same
    | some j =>
      cases same
      exact isFound
  · intro found
    exact ⟨some i, found, rfl⟩

theorem getInstance_of_kept {t : Store} {i : Instance} (kept : s.instances <+: t.instances)
    (found : s.getInstance owner = .ok i) : t.getInstance owner = .ok i :=
  getInstance_eq_ok.mpr (findInstance_of_kept kept (getInstance_eq_ok.mp found))

/-- Who can be looked up still can when rows are added. -/
theorem Recalls.kept {t : Store} (recalled : s.Recalls owner)
    (kept : s.instances <+: t.instances) : t.Recalls owner := by
  obtain ⟨i, found⟩ := recalled
  exact ⟨i, getInstance_of_kept kept found⟩

theorem Recalls.after (recalled : s.Recalls owner) (steps : List Step) :
    (s.after steps).Recalls owner :=
  recalled.kept (instances_after s steps)

end Store

/-! ## Rows of the service -/

/-- The step is one of the service: its clock shows a year of at most four digits, and
the description of an instance that joins was read from a text. -/
structure Step.Served (step : Step) : Prop where
  clock : 0 ≤ step.now.year ∧ step.now.year ≤ 9999
  described : ∀ new, step.request = .join new →
    (Json.Value.object new.description).Decoded Json.deepest

/-- A request to join that came in as text makes a step of the service. -/
theorem served_of_joinRequest {text : List UInt8} {request : JoinRequest} {new : NewInstance}
    {now : Time.Instant} (settings : Settings) (clock : 0 ≤ now.year ∧ now.year ≤ 9999)
    (read : Wire.ofText JoinRequest text = .ok request)
    (asks : NewInstance.ofRequest request = .ok new) :
    Step.Served ⟨settings, now, .join new⟩ where
  clock := clock
  described := by
    rintro _ ⟨rfl⟩
    obtain ⟨id, -, asks⟩ := bind_eq_ok.mp asks
    obtain ⟨name, -, asks⟩ := bind_eq_ok.mp asks
    cases asks
    exact (Wire.decoded_of_joinRequest read).mono (by decide)

/-- The row of an instance that joins can be read. -/
theorem NewInstance.read_row {new : NewInstance} {now : Time.Instant} (low : 0 ≤ now.year)
    (high : now.year ≤ 9999) (decoded : (Json.Value.object new.description).Decoded Json.deepest) :
    ∃ i, (new.row now).read = .ok i := by
  obtain ⟨others, reread⟩ := Json.decodeText_render_of_decoded decoded
  have described : readDescription (new.row now).description = .ok others := by
    show readDescription (String.ofList (Json.Value.object new.description).render) = _
    rw [readDescription, Text.Utf8.ofString, String.toList_ofList, reread]
  have joinedAt : Time.Rfc3339.read? (new.row now).joinedAt = some now :=
    Time.Rfc3339.read?_stored low high
  refine ⟨⟨new.id, new.name, others, now⟩, ?_⟩
  rw [InstanceRow.read, described, joinedAt]
  rfl

/-- Every row is that of an instance that joined in some step. -/
theorem exists_join_of_mem_instances {steps : List Step} {r : InstanceRow}
    (member : r ∈ (Store.empty.after steps).instances) :
    ∃ step ∈ steps, ∃ new, step.request = .join new ∧ r = new.row step.now := by
  refine after_induction (P := fun s => ∀ r ∈ s.instances, ∃ step ∈ steps, ∃ new,
    step.request = .join new ∧ r = new.row step.now) steps ?_ ?_ r member
  · intro r member
    cases member
  intro step among t u moved before r mr
  cases moved with
  | join asked fresh =>
    rcases List.mem_append.mp mr with old | new
    · exact before r old
    · exact ⟨step, among, _, asked, List.mem_singleton.mp new⟩
  | record | bind | release => exact before r mr

theorem read_after {steps : List Step} (served : ∀ step ∈ steps, step.Served) :
    ∀ r ∈ (Store.empty.after steps).instances, ∃ i, r.read = .ok i := by
  intro r member
  obtain ⟨step, among, new, asked, rfl⟩ := exists_join_of_mem_instances member
  have served := served step among
  exact NewInstance.read_row served.clock.1 served.clock.2 (served.described _ asked)

/-- **Whoever joined in a run of the service can be looked up after it.** -/
theorem recalls_after {steps : List Step} (served : ∀ step ∈ steps, step.Served) {owner : String}
    (joined : (Store.empty.after steps).Registered owner) :
    (Store.empty.after steps).Recalls owner :=
  Store.recalls_of_read joined (read_after served)

end PortPool
