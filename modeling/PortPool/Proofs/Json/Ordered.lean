/-
# PortPool.Proofs.Json.Ordered -- what was read comes back as it was

A decoder puts every member in its place, so the names of an object that was read
stand in order, however the text gave them (`Decoder.ordered_of_members`).  That is the
order in which they are written and put in their places again.  So nothing of an object
that was read is lost when it is written and read again, but what rounding may do to its
fractions: without fractions it comes back as it was (`decodeText_render_integral`).
-/
import PortPool.Proofs.Json.Legible

namespace PortPool.Json

set_option autoImplicit false

open PortPool.Text (Utf8.encode)

/-! ## Members in their places -/

theorem ascending_insertMember {name : String} {v : Value} {ms : Members}
    (ascends : (ms.map (·.1)).Pairwise (· < ·)) :
    ((insertMember name v ms).map (·.1)).Pairwise (· < ·) := by
  induction ms with
  | nil => exact List.pairwise_singleton _ _
  | cons m rest ih =>
    obtain ⟨other, old⟩ := m
    obtain ⟨first, others⟩ := List.pairwise_cons.mp ascends
    rw [insertMember]
    split
    · rename_i before
      refine List.pairwise_cons.mpr ⟨?_, ascends⟩
      intro later member
      rcases List.mem_cons.mp member with rfl | member
      · exact before
      · exact String.lt_trans before (first later member)
    split
    · rename_i same
      subst same
      exact ascends
    · rename_i notBefore differs
      refine List.pairwise_cons.mpr ⟨?_, ih others⟩
      intro later member
      obtain ⟨m, among, rfl⟩ := List.mem_map.mp member
      rcases mem_insertMember among with rfl | old
      · exact Std.lt_of_le_of_ne (String.not_lt.mp notBefore) (Ne.symm differs)
      · exact first _ (List.mem_map_of_mem old)

namespace Value

theorem orderedItems_iff {vs : List Value} : OrderedItems vs ↔ ∀ v ∈ vs, v.Ordered := by
  induction vs with
  | nil => simp [OrderedItems]
  | cons v vs ih => rw [OrderedItems, ih, List.forall_mem_cons]

theorem orderedMembers_iff {ms : List (String × Value)} :
    OrderedMembers ms ↔ ∀ m ∈ ms, m.2.Ordered := by
  induction ms with
  | nil => simp [OrderedMembers]
  | cons m ms ih => rw [OrderedMembers, ih, List.forall_mem_cons]

theorem ordered_insertMember {name : String} {v : Value} {ms : Members} (new : v.Ordered)
    (ordered : (object ms).Ordered) : (object (insertMember name v ms)).Ordered := by
  refine ⟨ascending_insertMember ordered.1, orderedMembers_iff.mpr fun m member => ?_⟩
  rcases mem_insertMember member with rfl | old
  · exact new
  · exact orderedMembers_iff.mp ordered.2 m old

end Value

/-! ## What a decoder gives -/

namespace Decoder

open Value

theorem passes_ordered : Passes (fun _ v => v.Ordered) fun _ ms => (object ms).Ordered where
  null := trivial
  flag _ := trivial
  number _ := trivial
  text _ := trivial
  array each := orderedItems_iff.mpr each
  empty := ⟨.nil, trivial⟩
  insert := ordered_insertMember
  object all := all

/-- **The names of an object that was read stand in order.** -/
theorem ordered_of_members {d : Draft} {room : Nat} {ms : Members}
    (read : members room d = .ok ms) : (object ms).Ordered :=
  passes_ordered.of_members read

end Decoder

/-! ## What is not lost -/

/-- The number is no fraction. -/
def Number.Integral : Number → Prop
  | .whole _ => True
  | .real _ => False

/-- A whole number that was read is read back. -/
theorem exact_of_read {n : Number} (read : n.Read) (integral : n.Integral) : n.Exact := by
  cases n with
  | whole i =>
    obtain ⟨low, high⟩ := sized_of_read read
    exact ⟨trivial, value?_whole low high⟩
  | real x => exact integral.elim

/-- **An object that was read comes back as it was**, if it has no fractions. -/
theorem decodeText_render_integral {ms : Members} (decoded : (Value.object ms).Decoded deepest)
    (ordered : (Value.object ms).Ordered) (integral : (Value.object ms).Each Number.Integral) :
    decodeText Decoder.members (Utf8.encode (Value.object ms).render) = .ok ms := by
  have both := Value.EachMember.and ms decoded.1 integral
  have kept := Value.EachMember.imp (fun _ both => exact_of_read both.1 both.2) ms both
  exact decodeText_render_exact kept ordered decoded.2

end PortPool.Json
