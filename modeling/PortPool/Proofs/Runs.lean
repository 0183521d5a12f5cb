/-
# PortPool.Proofs.Runs -- maximal runs, and how many windows fit in them

An ascending list of numbers falls into maximal runs of adjacent numbers
(`exists_of_mem_maximalRuns`).  Windows of one size that do not meet fit into each run as often as
its length allows (`fit`), and what first fit does to the list is taking the lowest
window out of it.  That window stands at the lower end of its run, so the run is
shortened from below and merges with no other: one window less fits than before
(`fit_remove`).
-/
import Mathlib.Algebra.Order.BigOperators.Group.List
import Mathlib.Algebra.Order.Ring.Nat
import Mathlib.Data.List.Range
import Mathlib.Data.List.SplitBy
import PortPool.Proofs.Soundness

namespace PortPool

set_option autoImplicit false

/-! ## Maximal runs -/

/-- The maximal runs of adjacent numbers of an ascending list. -/
def maximalRuns (numbers : List Int) : List (List Int) :=
  numbers.splitBy fun a b => b == a + 1

/-- How many windows of one size fit into the runs. -/
def fit (size : Nat) (numbers : List Int) : Nat :=
  ((maximalRuns numbers).map (·.length / size)).sum

theorem length_numbersFrom (first last : Int) :
    (numbersFrom first last).length = (last + 1 - first).toNat := by
  simp [numbersFrom]

theorem numbersFrom_eq_cons {first last : Int} (ordered : first ≤ last) :
    numbersFrom first last = first :: numbersFrom (first + 1) last := by
  have width : (last + 1 - first).toNat = (last + 1 - (first + 1)).toNat + 1 := by omega
  simp only [numbersFrom, width, List.range_succ_eq_map, List.map_cons, List.map_map]
  congr 1
  · omega
  · apply List.map_congr_left
    intro i _
    simp only [Function.comp_apply]
    omega

theorem numbersFrom_self (n : Int) : numbersFrom n n = [n] := by
  simp [numbersFrom]

/-- A list in which each number is followed by the next is an interval. -/
theorem eq_numbersFrom_of_isChain {a : Int} {run : List Int}
    (chain : (a :: run).IsChain fun x y => (y == x + 1) = true) :
    a :: run = numbersFrom a (a + run.length) := by
  induction run generalizing a with
  | nil => rw [List.length_nil, Int.natCast_zero, Int.add_zero, numbersFrom_self]
  | cons b run ih =>
    obtain ⟨next, rest⟩ := List.isChain_cons_cons.mp chain
    obtain rfl : b = a + 1 := by simpa using next
    rw [List.length_cons, numbersFrom_eq_cons (by omega), ih rest]
    congr 2
    omega

theorem isChain_numbersFrom (first last : Int) :
    (numbersFrom first last).IsChain fun x y => (y == x + 1) = true := by
  simp only [numbersFrom, List.isChain_map, List.isChain_range]
  intro i _
  simp only [beq_iff_eq]
  omega

theorem getLast?_numbersFrom {first last : Int} (ordered : first ≤ last) :
    (numbersFrom first last).getLast? = some last := by
  obtain ⟨n, count⟩ := Int.eq_ofNat_of_zero_le (show 0 ≤ last - first by omega)
  have width : (last + 1 - first).toNat = n + 1 := by omega
  simp only [numbersFrom, width, List.range_succ, List.map_append, List.map_cons, List.map_nil,
    List.getLast?_concat, Option.some.injEq]
  omega

/-- No run starts right above the end of the one before. -/
theorem head_ne_of_maximalRuns {numbers : List Int} {left right : List (List Int)} {x y : Int}
    (parts : maximalRuns numbers = left ++ right) (isLast : left.flatten.getLast? = some x)
    (isHead : right.flatten.head? = some y) : y ≠ x + 1 := by
  have nonempty : ∀ run ∈ maximalRuns numbers, run ≠ [] := fun _ => List.ne_nil_of_mem_splitBy
  have apart := List.isChain_getLast_head_splitBy (fun a b : Int => b == a + 1) numbers
  rw [← maximalRuns, parts] at apart
  rw [parts] at nonempty
  cases left using List.reverseRecOn with
  | nil => cases isLast
  | append_singleton earlier run =>
    cases right with
    | nil => cases isHead
    | cons next later =>
      obtain ⟨full, fullNext, gap⟩ := (List.isChain_append.mp apart).2.2 run
        List.getLast?_concat next rfl
      rw [List.flatten_append, List.flatten_singleton, List.getLast?_append_of_ne_nil _ full,
        List.getLast?_eq_some_getLast full] at isLast
      rw [List.flatten_cons, List.head?_append_of_ne_nil _ fullNext,
        List.head?_eq_some_head fullNext] at isHead
      cases isLast
      cases isHead
      simpa using gap

section Ascending

variable {numbers : List Int} (sorted : numbers.Pairwise (· < ·))

include sorted

theorem exists_getLast?_of_mem {n : Int} (member : n ∈ numbers) :
    ∃ x, numbers.getLast? = some x ∧ n ≤ x := by
  cases numbers using List.reverseRecOn with
  | nil => cases member
  | append_singleton before x =>
    refine ⟨x, List.getLast?_concat, ?_⟩
    rcases List.mem_append.mp member with earlier | last
    · exact Int.le_of_lt ((List.pairwise_append.mp sorted).2.2 n earlier x List.mem_cons_self)
    · exact Int.le_of_eq (List.mem_singleton.mp last)

theorem exists_head?_of_mem {n : Int} (member : n ∈ numbers) :
    ∃ x, numbers.head? = some x ∧ x ≤ n := by
  cases numbers with
  | nil => cases member
  | cons x after =>
    refine ⟨x, rfl, ?_⟩
    rcases List.mem_cons.mp member with rfl | later
    · exact Int.le_refl _
    · exact Int.le_of_lt ((List.pairwise_cons.mp sorted).1 n later)

/-- A run is an interval of numbers of the list, with neither neighbour in it. -/
theorem exists_of_mem_maximalRuns {run : List Int} (member : run ∈ maximalRuns numbers) :
    ∃ first last, first ≤ last ∧ run = numbersFrom first last ∧
      (∀ n, first ≤ n → n ≤ last → n ∈ numbers) ∧ first - 1 ∉ numbers ∧ last + 1 ∉ numbers := by
  have chain := List.isChain_of_mem_splitBy member
  obtain ⟨first, tail, rfl⟩ := List.exists_cons_of_ne_nil (List.ne_nil_of_mem_splitBy member)
  have interval := eq_numbersFrom_of_isChain chain
  generalize isLast : first + (tail.length : Int) = last at interval
  have ordered : first ≤ last := by omega
  rw [interval] at member ⊢
  obtain ⟨before, after, parts⟩ := List.append_of_mem member
  have whole : numbers = before.flatten ++ (numbersFrom first last ++ after.flatten) := by
    rw [← List.flatten_splitBy (fun a b : Int => b == a + 1) numbers, ← maximalRuns, parts]
    simp
  rw [whole] at sorted
  obtain ⟨sortedBefore, sortedRest, cross⟩ := List.pairwise_append.mp sorted
  obtain ⟨-, sortedAfter, beyond⟩ := List.pairwise_append.mp sortedRest
  have isFirst : first ∈ numbersFrom first last := mem_numbersFrom.mpr ⟨Int.le_refl _, ordered⟩
  have isLast : last ∈ numbersFrom first last := mem_numbersFrom.mpr ⟨ordered, Int.le_refl _⟩
  refine ⟨first, last, ordered, rfl, ?_, ?_, ?_⟩
  · intro n low high
    rw [whole]
    exact List.mem_append_right _ (List.mem_append_left _ (mem_numbersFrom.mpr ⟨low, high⟩))
  · intro neighbour
    rw [whole, List.mem_append, List.mem_append, mem_numbersFrom] at neighbour
    rcases neighbour with lower | inside | upper
    · -- it is then the last number of all that stand before
      obtain ⟨x, isX, above⟩ := exists_getLast?_of_mem sortedBefore lower
      have : x < first := cross x (List.mem_of_getLast? isX) first (List.mem_append_left _ isFirst)
      refine head_ne_of_maximalRuns parts isX (y := first) ?_ (by omega)
      rw [List.flatten_cons, numbersFrom_eq_cons ordered, List.cons_append, List.head?_cons]
    · omega
    · have := beyond first isFirst (first - 1) upper
      omega
  · intro neighbour
    rw [whole, List.mem_append, List.mem_append, mem_numbersFrom] at neighbour
    rcases neighbour with lower | inside | upper
    · have := cross (last + 1) lower last (List.mem_append_left _ isLast)
      omega
    · omega
    · obtain ⟨y, isY, below⟩ := exists_head?_of_mem sortedAfter upper
      have : last < y := beyond last isLast y (List.mem_of_head? isY)
      have partsToo : maximalRuns numbers = (before ++ [numbersFrom first last]) ++ after := by
        rw [parts, List.append_assoc, List.singleton_append]
      refine head_ne_of_maximalRuns partsToo (x := last) ?_ isY (by omega)
      rw [List.flatten_append, List.flatten_singleton, List.getLast?_append,
        getLast?_numbersFrom ordered, Option.some_or]

end Ascending

/-! ## How many windows fit -/

variable {size : Nat}

theorem fit_le_length (size : Nat) (numbers : List Int) : fit size numbers ≤ numbers.length :=
  calc fit size numbers
    _ ≤ ((maximalRuns numbers).map List.length).sum :=
        List.sum_le_sum fun run _ => Nat.div_le_self run.length size
    _ = numbers.length := by rw [← List.length_flatten, maximalRuns, List.flatten_splitBy]

theorem fit_append {before after : List Int}
    (apart : ∀ x ∈ before.getLast?, ∀ y ∈ after.head?, y ≠ x + 1) :
    fit size (before ++ after) = fit size before + fit size after := by
  have split : maximalRuns (before ++ after) = maximalRuns before ++ maximalRuns after :=
    List.splitBy_append (by simpa using apart)
  simp only [fit, split, List.map_append, List.sum_append]

/-- An interval that ends right below a list becomes part of its first run. -/
theorem maximalRuns_numbersFrom_append {first last : Int} (ordered : first ≤ last)
    {after : List Int} (adjoins : after.head? = some (last + 1)) :
    ∃ run later, maximalRuns after = run :: later ∧
      maximalRuns (numbersFrom first last ++ after) = (numbersFrom first last ++ run) :: later := by
  obtain ⟨whole, nonempty, chains, apart⟩ := List.splitBy_eq_iff.mp (Eq.refl (maximalRuns after))
  cases parts : maximalRuns after with
  | nil =>
    rw [parts] at whole
    rw [whole] at adjoins
    cases adjoins
  | cons run later =>
    rw [parts] at whole nonempty chains apart
    refine ⟨run, later, rfl, ?_⟩
    have full : run ≠ [] := fun empty => nonempty (empty ▸ List.mem_cons_self)
    have isHead : run.head? = some (last + 1) := by
      rwa [whole, List.flatten_cons, List.head?_append_of_ne_nil _ full] at adjoins
    refine List.splitBy_eq_iff.mpr ⟨?_, ?_, ?_, ?_⟩
    · rw [whole, List.flatten_cons, List.flatten_cons, List.append_assoc]
    · simp only [List.mem_cons, not_or] at nonempty ⊢
      exact ⟨fun empty => full (List.append_eq_nil_iff.mp empty.symm).2, nonempty.2⟩
    · intro other member
      rcases List.mem_cons.mp member with rfl | old
      · refine List.isChain_append.mpr ⟨isChain_numbersFrom .., chains run List.mem_cons_self, ?_⟩
        intro x isX y isY
        rw [getLast?_numbersFrom ordered] at isX
        rw [isHead] at isY
        cases isX
        cases isY
        exact beq_self_eq_true _
      · exact chains other (List.mem_cons_of_mem _ old)
    · cases later with
      | nil => exact .singleton _
      | cons next later =>
        obtain ⟨⟨_, fullNext, gap⟩, rest⟩ := List.isChain_cons_cons.mp apart
        refine List.isChain_cons_cons.mpr ⟨⟨List.append_ne_nil_of_right_ne_nil _ full, fullNext, ?_⟩,
          rest⟩
        rwa [List.getLast_append_of_ne_nil]

/-- A window makes the run that follows it longer by its size, or is a run of its own. -/
theorem fit_window_append (positive : 0 < size) {first last : Int} (width : first + size = last + 1)
    (after : List Int) : fit size (numbersFrom first last ++ after) = fit size after + 1 := by
  have ordered : first ≤ last := by omega
  have length : (numbersFrom first last).length = size := by
    rw [length_numbersFrom]
    omega
  by_cases adjoins : after.head? = some (last + 1)
  · obtain ⟨run, later, parts, merged⟩ := maximalRuns_numbersFrom_append ordered adjoins
    simp only [fit, parts, merged, List.map_cons, List.sum_cons, List.length_append, length,
      Nat.add_div_left _ positive]
    omega
  · have alone : fit size (numbersFrom first last) = 1 := by
      have full : numbersFrom first last ≠ [] := by
        rw [numbersFrom_eq_cons ordered]
        exact List.cons_ne_nil _ _
      have whole : maximalRuns (numbersFrom first last) = [numbersFrom first last] :=
        List.splitBy_of_isChain full (isChain_numbersFrom first last)
      simp [fit, whole, length, Nat.div_self positive]
    rw [fit_append, alone, Nat.add_comm]
    intro x isX y isY meet
    rw [getLast?_numbersFrom ordered] at isX
    cases isX
    exact adjoins (meet ▸ isY)

section Ascending

variable {numbers : List Int} (sorted : numbers.Pairwise (· < ·))

include sorted

/-- Without a run of its size no window fits. -/
theorem fit_eq_zero (noRun : ∀ first, ¬IsRun (· ∈ numbers) size first) :
    fit size numbers = 0 := by
  rw [fit, List.sum_eq_zero_iff_forall_eq_nat, List.forall_mem_map]
  intro run member
  obtain ⟨first, last, ordered, rfl, within, -⟩ := exists_of_mem_maximalRuns sorted member
  rw [length_numbersFrom]
  refine Nat.div_eq_of_lt ?_
  by_contra long
  exact noRun first (isRun_iff_forall.mpr fun n low high => within n low (by omega))

/-- **Taking out the lowest window leaves room for one less.** -/
theorem fit_remove (positive : 0 < size) {first : Int}
    (lowest : IsLowestRun (· ∈ numbers) size first) :
    fit size (numbers.filter fun n => decide (n < first ∨ first + size ≤ n)) + 1 =
      fit size numbers := by
  have inside := isRun_iff_forall.mp lowest.run
  generalize isBefore : numbers.filter (fun n => decide (n < first)) = before
  generalize isAfter : numbers.filter (fun n => decide (first + size ≤ n)) = after
  have mem_before (n : Int) : n ∈ before ↔ n ∈ numbers ∧ n < first := by simp [← isBefore]
  have mem_after (n : Int) : n ∈ after ↔ n ∈ numbers ∧ first + size ≤ n := by simp [← isAfter]
  have sortedBefore : before.Pairwise (· < ·) := isBefore ▸ sorted.filter _
  have sortedAfter : after.Pairwise (· < ·) := isAfter ▸ sorted.filter _
  have whole : numbers = before ++ (numbersFrom first (first + size - 1) ++ after) := by
    refine eq_of_ascending id sorted ?_ fun n => ?_
    · simp only [id_eq, List.pairwise_append, List.mem_append, mem_numbersFrom, mem_before,
        mem_after]
      refine ⟨sortedBefore, ⟨numbersFrom_ascending .., sortedAfter, ?_⟩, ?_⟩ <;> intros <;> omega
    · simp only [List.mem_append, mem_numbersFrom, mem_before, mem_after]
      constructor
      · intro member
        rcases Int.lt_or_le n first with below | above
        · exact .inl ⟨member, below⟩
        · rcases Int.lt_or_le n (first + size) with within | beyond
          · exact .inr (.inl ⟨above, by omega⟩)
          · exact .inr (.inr ⟨member, beyond⟩)
      · rintro (⟨member, -⟩ | ⟨low, high⟩ | ⟨member, -⟩)
        · exact member
        · exact inside n low (by omega)
        · exact member
  have rest : numbers.filter (fun n => decide (n < first ∨ first + size ≤ n)) =
      before ++ after := by
    refine eq_of_ascending id (sorted.filter _) ?_ fun n => ?_
    · simp only [id_eq, List.pairwise_append, mem_before, mem_after]
      refine ⟨sortedBefore, sortedAfter, ?_⟩
      intros
      omega
    · simp [mem_before, mem_after, and_or_left]
  -- the number right below the window is missing: a run from there would be lower
  have notBelow : first - 1 ∉ numbers := by
    intro neighbour
    apply lowest.lowest (first - 1) (by omega)
    rw [isRun_iff_forall]
    intro n low high
    rcases Int.lt_or_le n first with below | above
    · rwa [show n = first - 1 by omega]
    · exact inside n above (by omega)
  have apart (next : Int) (above : first ≤ next) : ∀ x ∈ before.getLast?, next ≠ x + 1 := by
    intro x isX meet
    obtain ⟨member, below⟩ := (mem_before x).mp (List.mem_of_getLast? isX)
    exact notBelow (by rwa [show first - 1 = x by omega])
  rw [rest, whole, fit_append, fit_append, fit_window_append positive (by omega), Nat.add_assoc]
  · intro x isX y isY
    refine apart y ?_ x isX
    rw [numbersFrom_eq_cons (by omega)] at isY
    cases isY
    exact Int.le_refl _
  · intro x isX y isY
    refine apart y ?_ x isX
    have := ((mem_after y).mp (List.mem_of_head? isY)).2
    omega

end Ascending

end PortPool
