/-
# PortPool.Proofs.Window -- the window found is the lowest run

`findWindow` compares the two ends of each window only.  In a strictly ascending
list of whole numbers every step adds at least one (`add_le_getElem`), so ends
that lie exactly as far apart as their offsets leave no room for a gap between
them (`isWindow_iff_ends`), and the offset found is that of the first window
(`findWindow_eq_some`).

Stated about the numbers instead of their offsets, the window found starts the
lowest run of adjacent numbers of the list (`findWindowStart_eq_some`), and none
is found only if there is no such run (`findWindowStart_eq_none`).

`SearchLaw` says what any search for a window has to answer, whatever it compares;
`findWindow` does (`searchLaw`).
-/
import Mathlib.Data.Nat.Find
import PortPool.Window

namespace PortPool

set_option autoImplicit false

/-! ## Runs of numbers -/

/-- The `size` numbers from `first` on all satisfy `free`. -/
def IsRun (free : Int → Prop) (size : Nat) (first : Int) : Prop :=
  ∀ i : Nat, i < size → free (first + i)

instance (free : Int → Prop) [DecidablePred free] (size : Nat) (first : Int) :
    Decidable (IsRun free size first) :=
  inferInstanceAs (Decidable (∀ i : Nat, i < size → free (first + i)))

/-- No run of `size` numbers that satisfy `free` starts below this one. -/
structure IsLowestRun (free : Int → Prop) (size : Nat) (first : Int) : Prop where
  run : IsRun free size first
  lowest : ∀ other, other < first → ¬IsRun free size other

theorem IsRun.mono {free wider : Int → Prop} {size : Nat} {first : Int}
    (run : IsRun free size first) (weaker : ∀ n, free n → wider n) : IsRun wider size first :=
  fun i below => weaker _ (run i below)

theorem isRun_iff_forall {free : Int → Prop} {size : Nat} {first : Int} :
    IsRun free size first ↔ ∀ n, first ≤ n → n < first + size → free n := by
  constructor
  · intro run n low high
    have := run (n - first).toNat (by omega)
    rwa [show first + ((n - first).toNat : Int) = n by omega] at this
  · intro all i below
    exact all _ (by omega) (by omega)

/-! ## Windows of a list -/

/-- The `size` entries from `offset` on are adjacent numbers. -/
def IsWindow (numbers : List Int) (size offset : Nat) : Prop :=
  ∃ first : Int, ∀ j : Nat, j < size → numbers[offset + j]? = some (first + j)

/-- A window of `size` entries stands at an offset: it fits into the list, and each of its
numbers is as far above the first as its place is behind it. -/
structure WindowAt (numbers : List Int) (size offset : Nat) : Prop where
  inside : offset + size ≤ numbers.length
  adjacent : ∀ j, (below : j < size) → numbers[offset + j] = numbers[offset] + j

/-- What is answered to whoever looks for `size` adjacent numbers: the offset of the first
window, and nothing exactly if none is asked for or there is none.  To look at the ends of a
window is as good as to look at every step in it. -/
structure SearchLaw (numbers : List Int) (size : Nat) (found : Option Nat) : Prop where
  found_iff : ∀ offset, found = some offset ↔
    1 ≤ size ∧ WindowAt numbers size offset ∧
      ∀ other, other < offset → ¬WindowAt numbers size other
  none_iff : found = none ↔ size = 0 ∨ ∀ offset, ¬WindowAt numbers size offset
  ends_iff : ∀ offset, (positive : 1 ≤ size) → (inside : offset + size ≤ numbers.length) →
    (numbers[offset + (size - 1)] = numbers[offset] + (size - 1 : Nat) ↔
      ∀ j, (below : j + 1 < size) → numbers[offset + j + 1] = numbers[offset + j] + 1)

section Ascending

variable {numbers : List Int} (sorted : numbers.Pairwise (· < ·))

include sorted

/-- Entries of an ascending list are at least as far apart as their offsets. -/
theorem add_le_getElem (offset d : Nat) {a b : Int} (first : numbers[offset]? = some a)
    (last : numbers[offset + d]? = some b) : a + d ≤ b := by
  induction d generalizing b with
  | zero =>
    have : a = b := by simpa [first] using last
    omega
  | succ d ih =>
    obtain ⟨inside, rfl⟩ := List.getElem?_eq_some_iff.mp last
    have before : offset + d < numbers.length := by omega
    have := ih (List.getElem?_eq_getElem before)
    have := List.pairwise_iff_getElem.mp sorted (offset + d) (offset + (d + 1)) before inside
      (by omega)
    omega

theorem isWindow_iff_ends {size offset : Nat} (positive : 0 < size) :
    IsWindow numbers size offset ↔
      ∃ a : Int, numbers[offset]? = some a ∧
        numbers[offset + (size - 1)]? = some (a + (size - 1 : Nat)) := by
  constructor
  · rintro ⟨first, entries⟩
    exact ⟨first, by simpa using entries 0 positive, entries (size - 1) (by omega)⟩
  · rintro ⟨a, first, last⟩
    refine ⟨a, fun j below => ?_⟩
    obtain ⟨inside, -⟩ := List.getElem?_eq_some_iff.mp last
    have present : numbers[offset + j]? = some numbers[offset + j] :=
      List.getElem?_eq_getElem (by omega)
    rw [present]
    have low := add_le_getElem sorted offset j first present
    -- the rest of the window has to fit between this entry and the last
    have high := add_le_getElem sorted (offset + j) (size - 1 - j) present
      (by rw [show offset + j + (size - 1 - j) = offset + (size - 1) by omega]; exact last)
    congr 1
    omega

/-- **The offset found is that of the first window.** -/
theorem findWindow_eq_some {size offset : Nat} :
    findWindow numbers size = some offset ↔
      0 < size ∧ IsWindow numbers size offset ∧
        ∀ other, other < offset → ¬IsWindow numbers size other := by
  rcases Nat.eq_zero_or_pos size with rfl | positive
  · simp [findWindow]
  have ends (i : Nat) (inside : i < (numbers.zip (numbers.drop (size - 1))).length) :
      ((numbers.zip (numbers.drop (size - 1)))[i].2 ==
          (numbers.zip (numbers.drop (size - 1)))[i].1 + (size - 1 : Nat)) = true ↔
        IsWindow numbers size i := by
    rw [isWindow_iff_ends sorted positive]
    simp only [List.length_zip, List.length_drop] at inside
    have first : numbers[i]? = some numbers[i] := List.getElem?_eq_getElem (by omega)
    have last : numbers[i + (size - 1)]? = some numbers[i + (size - 1)] :=
      List.getElem?_eq_getElem (by omega)
    simp [first, last, Nat.add_comm]
  have within {i : Nat} (window : IsWindow numbers size i) :
      i < (numbers.zip (numbers.drop (size - 1))).length := by
    obtain ⟨a, -, last⟩ := (isWindow_iff_ends sorted positive).mp window
    obtain ⟨inside, -⟩ := List.getElem?_eq_some_iff.mp last
    simp only [List.length_zip, List.length_drop]
    omega
  simp only [findWindow, if_neg (Nat.ne_of_gt positive), List.findIdx?_eq_some_iff_getElem]
  constructor
  · rintro ⟨inside, hit, earlier⟩
    refine ⟨positive, (ends offset inside).mp hit, fun other below window => ?_⟩
    exact earlier other below ((ends other (within window)).mpr window)
  · rintro ⟨-, window, earlier⟩
    refine ⟨within window, (ends offset (within window)).mpr window, fun other below => ?_⟩
    intro hit
    exact earlier other below ((ends other (by have := within window; omega)).mp hit)

theorem findWindow_eq_none {size : Nat} (positive : 0 < size) :
    findWindow numbers size = none ↔ ∀ offset, ¬IsWindow numbers size offset := by
  constructor
  · intro missing offset window
    -- the least offset with a window would have been found
    classical
    have any : ∃ i, IsWindow numbers size i := ⟨offset, window⟩
    have := (findWindow_eq_some sorted).mpr
      ⟨positive, Nat.find_spec any, fun _ below => Nat.find_min any below⟩
    rw [missing] at this
    cases this
  · intro noWindow
    cases found : findWindow numbers size with
    | none => rfl
    | some i => exact absurd ((findWindow_eq_some sorted).mp found).2.1 (noWindow i)

/-! ## Windows as runs of numbers -/

/-- A run of numbers of the list is a window, at the offset of its first number. -/
theorem isWindow_of_isRun {size offset : Nat} {first : Int}
    (run : IsRun (· ∈ numbers) size first) (start : numbers[offset]? = some first) :
    ∀ j : Nat, j < size → numbers[offset + j]? = some (first + j) := by
  intro j
  induction j with
  | zero => intro _; simpa using start
  | succ j ih =>
    intro below
    have present := ih (by omega)
    obtain ⟨m, isNext⟩ := List.getElem?_of_mem (run (j + 1) below)
    -- the next number of the run stands behind this one, with nothing between them
    have behind : offset + j < m := by
      by_contra notBehind
      have := add_le_getElem sorted m (offset + j - m) isNext
        (by rw [show m + (offset + j - m) = offset + j by omega]; exact present)
      omega
    obtain ⟨inside, -⟩ := List.getElem?_eq_some_iff.mp isNext
    have entry : numbers[offset + (j + 1)]? = some numbers[offset + (j + 1)] :=
      List.getElem?_eq_getElem (by omega)
    have low := add_le_getElem sorted (offset + j) 1 present entry
    have high := add_le_getElem sorted (offset + (j + 1)) (m - (offset + (j + 1))) entry
      (by rw [show offset + (j + 1) + (m - (offset + (j + 1))) = m by omega]; exact isNext)
    rw [entry]
    congr 1
    omega

omit sorted in
theorem isRun_of_isWindow {size offset : Nat} {first : Int} (positive : 0 < size)
    (window : IsWindow numbers size offset) (start : numbers[offset]? = some first) :
    IsRun (· ∈ numbers) size first := by
  obtain ⟨a, entries⟩ := window
  have same : a = first := by
    have := entries 0 positive
    simp only [Nat.add_zero, start, Option.some.injEq] at this
    omega
  subst same
  exact fun i below => List.mem_of_getElem? (entries i below)

/-- **The window found starts the lowest run.** -/
theorem findWindowStart_eq_some {size : Nat} {first : Int} (positive : 0 < size) :
    findWindowStart numbers size = some first ↔ IsLowestRun (· ∈ numbers) size first := by
  simp only [findWindowStart, Option.bind_eq_some_iff, findWindow_eq_some sorted]
  constructor
  · rintro ⟨offset, ⟨-, window, earlier⟩, start⟩
    refine ⟨isRun_of_isWindow positive window start, fun other below run => ?_⟩
    obtain ⟨m, otherStart⟩ := List.getElem?_of_mem (run 0 positive)
    simp only [Int.natCast_zero, Int.add_zero] at otherStart
    refine earlier m ?_ ⟨other, isWindow_of_isRun sorted run otherStart⟩
    by_contra notEarlier
    have := add_le_getElem sorted offset (m - offset) start
      (by rw [show offset + (m - offset) = m by omega]; exact otherStart)
    omega
  · rintro ⟨run, lowest⟩
    obtain ⟨offset, start⟩ := List.getElem?_of_mem (run 0 positive)
    simp only [Int.natCast_zero, Int.add_zero] at start
    refine ⟨offset, ⟨positive, ⟨first, isWindow_of_isRun sorted run start⟩, ?_⟩, start⟩
    intro other below window
    obtain ⟨a, otherStart, -⟩ := (isWindow_iff_ends sorted positive).mp window
    refine lowest a ?_ (isRun_of_isWindow positive window otherStart)
    have := add_le_getElem sorted other (offset - other) otherStart
      (by rw [show other + (offset - other) = offset by omega]; exact start)
    omega

theorem findWindowStart_eq_none {size : Nat} (positive : 0 < size) :
    findWindowStart numbers size = none ↔ ∀ first, ¬IsRun (· ∈ numbers) size first := by
  constructor
  · intro missing first run
    obtain ⟨offset, start⟩ := List.getElem?_of_mem (run 0 positive)
    simp only [Int.natCast_zero, Int.add_zero] at start
    have window : IsWindow numbers size offset := ⟨first, isWindow_of_isRun sorted run start⟩
    cases found : findWindow numbers size with
    | none => exact (findWindow_eq_none sorted positive).mp found offset window
    | some i =>
      obtain ⟨-, isWindow, -⟩ := (findWindow_eq_some sorted).mp found
      obtain ⟨a, entry, -⟩ := (isWindow_iff_ends sorted positive).mp isWindow
      simp [findWindowStart, found, entry] at missing
  · intro noRun
    cases found : findWindowStart numbers size with
    | none => rfl
    | some first =>
      exact absurd ((findWindowStart_eq_some sorted positive).mp found).run (noRun first)

/-! ## The law of the search -/

omit sorted in
theorem isWindow_iff_windowAt {size offset : Nat} (positive : 0 < size) :
    IsWindow numbers size offset ↔ WindowAt numbers size offset := by
  constructor
  · rintro ⟨first, entries⟩
    obtain ⟨inside, -⟩ := List.getElem?_eq_some_iff.mp (entries (size - 1) (by omega))
    refine ⟨by omega, fun j below => ?_⟩
    obtain ⟨_, start⟩ := List.getElem?_eq_some_iff.mp (entries 0 positive)
    obtain ⟨_, entry⟩ := List.getElem?_eq_some_iff.mp (entries j below)
    simp only [Nat.add_zero, Int.natCast_zero, Int.add_zero] at start
    rw [entry, start]
  · intro window
    have inside := window.inside
    refine ⟨numbers[offset], fun j below => ?_⟩
    rw [List.getElem?_eq_getElem (by omega), window.adjacent j below]

omit sorted in
/-- A window is made of steps of one. -/
theorem windowAt_iff_steps {size offset : Nat} (inside : offset + size ≤ numbers.length) :
    WindowAt numbers size offset ↔
      ∀ j, (below : j + 1 < size) → numbers[offset + j + 1] = numbers[offset + j] + 1 := by
  constructor
  · intro window j below
    have here := window.adjacent j (by omega)
    have next := window.adjacent (j + 1) below
    simp only [← Nat.add_assoc] at next
    rw [next, here]
    omega
  · intro steps
    refine ⟨inside, fun j => ?_⟩
    induction j with
    | zero => simp
    | succ j ih =>
      intro below
      have here := ih (by omega)
      have next := steps j below
      simp only [← Nat.add_assoc]
      rw [next, here]
      omega

/-- **The ends of a window tell of all that is between them.** -/
theorem ends_iff_steps {size offset : Nat} (positive : 0 < size)
    (inside : offset + size ≤ numbers.length) :
    numbers[offset + (size - 1)] = numbers[offset] + (size - 1 : Nat) ↔
      ∀ j, (below : j + 1 < size) → numbers[offset + j + 1] = numbers[offset + j] + 1 := by
  rw [← windowAt_iff_steps inside, ← isWindow_iff_windowAt positive,
    isWindow_iff_ends sorted positive, List.getElem?_eq_getElem (by omega),
    List.getElem?_eq_getElem (by omega)]
  simp

/-- **The search finds the first window**, and misses none. -/
theorem searchLaw (size : Nat) : SearchLaw numbers size (findWindow numbers size) where
  found_iff offset := by
    rw [findWindow_eq_some sorted]
    refine and_congr_right fun positive => ?_
    simp only [isWindow_iff_windowAt positive]
  none_iff := by
    rcases Nat.eq_zero_or_pos size with rfl | positive
    · simp [findWindow]
    · rw [findWindow_eq_none sorted positive]
      simp only [isWindow_iff_windowAt positive]
      constructor
      · exact .inr
      · rintro (rfl | none)
        · exact absurd positive (Nat.lt_irrefl 0)
        · exact none
  ends_iff _ positive inside := ends_iff_steps sorted positive inside

end Ascending

/-! ## Searching from the front -/

/-- The first window stands at the beginning, or among the entries after it. -/
theorem findWindow_cons {n : Int} {numbers : List Int} {size : Nat} (positive : 0 < size) :
    findWindow (n :: numbers) size =
      if (n :: numbers)[size - 1]? = some (n + (size - 1 : Nat)) then some 0
      else (findWindow numbers size).map (· + 1) := by
  simp only [findWindow, if_neg (Nat.ne_of_gt positive)]
  generalize size - 1 = back
  cases rest : (n :: numbers).drop back with
  | nil =>
    have short : (n :: numbers).length ≤ back := List.drop_eq_nil_iff.mp rest
    have noMore : numbers.drop back = [] :=
      List.drop_eq_nil_iff.mpr (Nat.le_of_succ_le short)
    simp [List.getElem?_eq_none short, noMore]
  | cons m others =>
    have entry : (n :: numbers)[back]? = some m := by
      rw [← List.head?_drop, rest, List.head?_cons]
    have same : others = numbers.drop back := by simpa using (congrArg List.tail rest).symm
    rw [List.zip_cons_cons, List.findIdx?_cons, entry, same]
    simp

theorem findWindow_of_short {numbers : List Int} {size : Nat} (short : numbers.length < size) :
    findWindow numbers size = none := by
  have noMore : numbers.drop (size - 1) = [] := List.drop_eq_nil_iff.mpr (by omega)
  simp [findWindow, noMore]

end PortPool
