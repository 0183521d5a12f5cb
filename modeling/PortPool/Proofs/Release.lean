/-
# PortPool.Proofs.Release -- what is active can be given back

An active binding can be released in the name of its owner, by any of its ports or by
its span, and both come to the same (`releasePort_of_active`, `releaseSpan_of_active`).
A port may have belonged to many bindings, and a span may have been bound many times;
but one of them at most is active, and that is the one that both ways find.

The owner is looked up first.  Whoever reserved something could be looked up then, and
since rows of instances stay as they are, can be looked up for good
(`recalls_owner_after`).
-/
import PortPool.Proofs.Lookup
import PortPool.Proofs.Registry

namespace PortPool

set_option autoImplicit false

open Time.Rfc3339 (stored)

/-! ## Owners -/

namespace Store

theorem owner_of_reserveSpan {s t : Store} {range : PortRange} {owner : String} {size : Nat}
    {now : Time.Instant} {b : Binding}
    (granted : s.reserveSpan range owner size now = .ok (b, t)) :
    b.owner = owner ∧ s.Recalls owner := by
  obtain ⟨first, last, u, -, done⟩ := reserveSpan_inversion granted
  obtain ⟨-, -, -, rfl, -⟩ := bind_eq_ok_iff.mp done
  refine ⟨rfl, ?_⟩
  rw [reserveSpan] at granted
  split at granted
  · cases granted
  · obtain ⟨i, found, -⟩ := bind_eq_ok.mp granted
    exact ⟨i, found⟩

end Store

section Owners

variable {settings : Settings} {now : Time.Instant} {s t : Store} {request : Operation}

theorem recalls_of_reserves {b : Binding} (asks : request.reserves)
    (performed : request.perform settings now s = .ok (.binding b, t)) : s.Recalls b.owner := by
  have recalled {owner : String} {size : Nat}
      (granted : s.reserveSpan settings.range owner size now = .ok (b, t)) : s.Recalls b.owner := by
    obtain ⟨rfl, recalled⟩ := Store.owner_of_reserveSpan granted
    exact recalled
  cases request with
  | reserve owner size =>
    obtain ⟨_, granted, same⟩ := Operation.changing_eq_ok.mp performed
    cases same
    obtain ⟨n, granted⟩ := Store.reserve_inversion granted
    exact recalled granted
  | reserveSpan owner size =>
    obtain ⟨_, granted, same⟩ := Operation.changing_eq_ok.mp performed
    cases same
    exact recalled granted
  | reserveOne owner =>
    obtain ⟨_, granted, same⟩ := Operation.changing_eq_ok.mp performed
    cases same
    rw [Store.reserveOne_eq_reserveSpan] at granted
    exact recalled granted
  | _ => cases asks

theorem recalls_owner_next (before : ∀ b ∈ s.bindings, s.Recalls b.owner) :
    ∀ b ∈ (request.next settings now s).bindings,
      (request.next settings now s).Recalls b.owner := by
  have kept := Store.instances_moves (next_moves settings now s request)
  intro b member
  refine Store.Recalls.kept ?_ kept
  simp only [Operation.next] at member
  split at member
  · rename_i answer u performed
    cases perform_effect performed with
    | reserved asks granted =>
      rw [granted.bindings] at member
      rcases List.mem_cons.mp member with rfl | old
      · exact recalls_of_reserves asks performed
      · exact before b old
    | ended asks granted =>
      rw [granted.store] at member
      obtain ⟨c, mc, rfl⟩ := List.mem_map.mp member
      rw [BindingRow.marked_owner]
      exact before c mc
    | other _ _ bindings _ =>
      rw [bindings] at member
      exact before b member
  · exact before b member

end Owners

/-- **The owner of a binding can be looked up.** -/
theorem recalls_owner_after (steps : List Step) :
    ∀ b ∈ (Store.empty.after steps).bindings, (Store.empty.after steps).Recalls b.owner := by
  have kept (s : Store) (before : ∀ b ∈ s.bindings, s.Recalls b.owner) :
      ∀ b ∈ (s.after steps).bindings, (s.after steps).Recalls b.owner := by
    induction steps generalizing s with
    | nil => exact before
    | cons step steps ih =>
      rw [after_cons]
      exact ih _ (recalls_owner_next before)
  exact kept Store.empty fun b member => nomatch member

/-! ## Releasing -/

namespace Sound

variable {s : Store} {row : BindingRow} {b : Binding} {ownership : Ownership}
  {now : Time.Instant} (sound : Sound s) (present : row ∈ s.bindings) (active : row.isActive)
  (told : row.read = .ok b) (recalled : s.Recalls row.owner)

include sound present active told

theorem finish_of_active :
    s.finish row now = .ok ({ b with releasedAt := some now }, s.released row.id (stored now)) := by
  rw [Store.finish_eq_map present active fun c mc same => sound.eq_of_id_eq mc present same, told]
  rfl

include recalled

/-- **By any of its ports.** -/
theorem releasePort_of_active {n : PortNumber} (low : row.first ≤ n.val) (high : n.val ≤ row.last) :
    s.releasePort ownership n (some row.owner) now =
      .ok ({ b with releasedAt := some now }, s.released row.id (stored now)) := by
  obtain ⟨r, member, same⟩ := sound.covered row present n.val low high
  have known : s.ports.find? n.val = some r := PortTable.find?_eq_some.mpr ⟨member, same⟩
  have found : s.bindingOf? (some row.owner) r = some row :=
    (Store.bindingOf?_eq_some sound member).mpr
      ⟨present, ⟨active, by omega, by omega⟩, row.answersTo_owner⟩
  rw [Store.bindingOf?] at found
  obtain ⟨i, isOwner⟩ := recalled
  simp only [Store.releasePort, Store.checkOwnership, Option.isNone_some, Bool.false_eq_true,
    and_false, if_false, Store.checkInstance, isOwner, bind_ok, pure_eq_ok, known,
    Store.readPort_of_number same, found]
  exact sound.finish_of_active present active told

/-- **By its span.** -/
theorem releaseSpan_of_active :
    s.releaseSpan ownership b.first b.last (some row.owner) now =
      .ok ({ b with releasedAt := some now }, s.released row.id (stored now)) := by
  obtain ⟨-, -, starts, ends, stillActive⟩ := BindingRow.of_read told
  have ordered := sound.ordered row present
  have forward : ¬b.last < b.first := by
    rw [Fin.lt_def]
    omega
  have found : s.spanning? (some row.owner) b.first.val b.last.val = some row :=
    Store.spanning?_of_active sound present active ⟨starts.symm, ends.symm, row.answersTo_owner⟩
  rw [Store.spanning?] at found
  obtain ⟨i, isOwner⟩ := recalled
  simp only [Store.releaseSpan, if_neg forward, Store.checkOwnership, Option.isNone_some,
    Bool.false_eq_true, and_false, if_false, Store.checkInstance, isOwner, bind_ok, pure_eq_ok,
    found, told, stillActive, active, if_true]
  exact sound.finish_of_active present active told

end Sound

end PortPool
