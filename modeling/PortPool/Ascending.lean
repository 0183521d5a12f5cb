/-
# PortPool.Ascending -- a set of numbers as an ascending list

Ports that are reported or found listening come in any order and may repeat;
`ascending` lists each of them once, the smallest first.
-/
namespace PortPool

set_option autoImplicit false

/-- The list without entries equal to the one before. -/
def dropRepeats : List Nat → List Nat
  | [] => []
  | [n] => [n]
  | n :: m :: ns => if n = m then dropRepeats (m :: ns) else n :: dropRepeats (m :: ns)

/-- Each number of the list once, in ascending order. -/
def ascending (ns : List Nat) : List Nat := dropRepeats (ns.mergeSort fun a b => a ≤ b)

theorem mem_dropRepeats {ns : List Nat} {k : Nat} : k ∈ dropRepeats ns ↔ k ∈ ns := by
  induction ns with
  | nil => simp [dropRepeats]
  | cons n ns ih =>
    cases ns with
    | nil => simp [dropRepeats]
    | cons m ns =>
      simp only [dropRepeats]
      split
      · rename_i same
        subst same
        simp [ih]
      · simp [ih]

theorem pairwise_dropRepeats {ns : List Nat} (sorted : ns.Pairwise (· ≤ ·)) :
    (dropRepeats ns).Pairwise (· < ·) := by
  induction ns with
  | nil => exact List.Pairwise.nil
  | cons n ns ih =>
    cases ns with
    | nil => exact List.pairwise_singleton ..
    | cons m ns =>
      obtain ⟨above, sortedRest⟩ := List.pairwise_cons.mp sorted
      simp only [dropRepeats]
      split
      · exact ih sortedRest
      · rename_i different
        refine List.pairwise_cons.mpr ⟨fun k member => ?_, ih sortedRest⟩
        have := above m List.mem_cons_self
        rcases List.mem_cons.mp (mem_dropRepeats.mp member) with rfl | later
        · omega
        · have := (List.pairwise_cons.mp sortedRest).1 k later
          omega

theorem mem_ascending {ns : List Nat} {k : Nat} : k ∈ ascending ns ↔ k ∈ ns := by
  rw [ascending, mem_dropRepeats, List.mem_mergeSort]

theorem pairwise_ascending (ns : List Nat) : (ascending ns).Pairwise (· < ·) := by
  refine pairwise_dropRepeats ((List.pairwise_mergeSort ?_ ?_ ns).imp fun h => by simpa using h)
  · intro a b c
    simp only [decide_eq_true_eq]
    omega
  · intro a b
    simp only [Bool.or_eq_true, decide_eq_true_eq]
    omega

end PortPool
