/-
# PortPool.Proofs.Text.Blank -- trimming

Trimming leaves a text alone that neither begins nor ends with a blank
(`trim_eq_self`).  So it leaves every trimmed text alone, and a text without blanks, whatever
blanks stand around it (`trim_around`).
-/
import Mathlib.Data.List.DropRight
import PortPool.Text.Blank

namespace PortPool.Text

set_option autoImplicit false

/-! ## Trimming -/

/-- Nothing is dropped from what begins with something else. -/
theorem dropWhile_eq_self {α : Type} {p : α → Bool} {s : List α}
    (first : ∀ a ∈ s.head?, p a = false) : s.dropWhile p = s := by
  cases s with
  | nil => rfl
  | cons a s => rw [List.dropWhile_cons, first a rfl, if_neg Bool.false_ne_true]

theorem trim_eq_self {s : List Char} (first : ∀ c ∈ s.head?, isBlank c = false)
    (last : ∀ c ∈ s.getLast?, isBlank c = false) : trim s = s := by
  have backwards : s.reverse.dropWhile isBlank = s.reverse :=
    dropWhile_eq_self (by rwa [List.head?_reverse])
  rw [trim, trimStart, dropWhile_eq_self first, trimEnd, backwards, List.reverse_reverse]

theorem trim_of_forall {s : List Char} (plain : ∀ c ∈ s, isBlank c = false) : trim s = s :=
  trim_eq_self (fun c isFirst => plain c (List.mem_of_head? isFirst))
    fun c isLast => plain c (List.mem_of_getLast? isLast)

theorem trim_trim (s : List Char) : trim (trim s) = trim s := by
  apply trim_eq_self
  · intro c isFirst
    -- trimming the end leaves the beginning
    have kept : (trim s).head? = (trimStart s).head? := by
      obtain ⟨rest, whole⟩ : trim s <+: trimStart s := List.rdropWhile_prefix isBlank _
      rw [← whole, List.head?_append, isFirst]
      rfl
    rw [kept] at isFirst
    have := List.head?_dropWhile_not isBlank s
    rw [show s.dropWhile isBlank = trimStart s from rfl, Option.mem_def.mp isFirst] at this
    simpa using this
  · intro c isLast
    have nonempty := List.ne_nil_of_mem (List.mem_of_getLast? isLast)
    have final := List.rdropWhile_last_not isBlank (trimStart s) nonempty
    rw [List.getLast?_eq_some_getLast nonempty] at isLast
    cases isLast
    exact Bool.eq_false_iff.mpr final

/-- Nothing is left of a text that is blank, and of no other. -/
theorem trim_eq_nil_iff {s : List Char} : trim s = [] ↔ ∀ c ∈ s, isBlank c = true := by
  rw [trim, trimEnd, List.reverse_eq_nil_iff, List.dropWhile_eq_nil_iff]
  constructor
  · intro rest
    -- what is left of the beginning does not begin with a blank, so it is nothing
    have empty : s.dropWhile isBlank = [] := by
      by_contra left
      have first := List.head_dropWhile_not isBlank left
      rw [rest _ (List.mem_reverse.mpr (List.head_mem left))] at first
      cases first
    exact List.dropWhile_eq_nil_iff.mp empty
  · intro blank c member
    exact blank c ((List.dropWhile_sublist isBlank).subset (List.mem_reverse.mp member))

theorem trimmed_isEmpty (s : String) : (trimmed s).isEmpty = s.toList.all isBlank := by
  rw [Bool.eq_iff_iff, String.isEmpty_iff, List.all_eq_true, trimmed, String.ofList_eq_empty_iff]
  exact trim_eq_nil_iff

/-- **Trimming twice is trimming once.** -/
theorem trimmed_trimmed (s : String) : trimmed (trimmed s) = trimmed s := by
  rw [trimmed, trimmed, String.toList_ofList, trim_trim]

/-! ## What is trimmed off -/

/-- Nothing but blanks stands around a trimmed text. -/
theorem exists_trim (s : List Char) : ∃ before after, s = before ++ trim s ++ after ∧
    (∀ c ∈ before, isBlank c = true) ∧ ∀ c ∈ after, isBlank c = true := by
  have front : s.takeWhile isBlank ++ trimStart s = s := List.takeWhile_append_dropWhile
  have back : trim s ++ (trimStart s).rtakeWhile isBlank = trimStart s :=
    List.rdropWhile_append_rtakeWhile
  refine ⟨s.takeWhile isBlank, (trimStart s).rtakeWhile isBlank, ?_, ?_, ?_⟩
  · rw [List.append_assoc, back, front]
  · exact fun c member => List.mem_takeWhile_imp member
  · exact fun c member => List.mem_rtakeWhile_imp member

theorem trimStart_append {before s : List Char} (blank : ∀ c ∈ before, isBlank c = true) :
    trimStart (before ++ s) = trimStart s :=
  List.dropWhile_append_of_pos blank

theorem trimEnd_append {s after : List Char} (blank : ∀ c ∈ after, isBlank c = true) :
    trimEnd (s ++ after) = trimEnd s := by
  rw [trimEnd, List.reverse_append, List.dropWhile_append_of_pos, trimEnd]
  exact fun c member => blank c (List.mem_reverse.mp member)

/-- A text without blanks is what is left of it with blanks around it. -/
theorem trim_around {before s after : List Char} (blankBefore : ∀ c ∈ before, isBlank c = true)
    (plain : ∀ c ∈ s, isBlank c = false) (blankAfter : ∀ c ∈ after, isBlank c = true) :
    trim (before ++ s ++ after) = s := by
  rw [trim, List.append_assoc, trimStart_append blankBefore]
  cases s with
  | nil =>
    rw [List.nil_append, trimStart, List.dropWhile_eq_nil_iff.mpr blankAfter]
    rfl
  | cons c s =>
    have first (rest : List Char) : trimStart (c :: s ++ rest) = c :: s ++ rest :=
      dropWhile_eq_self fun d isFirst => by
        obtain rfl := Option.some.inj isFirst
        exact plain c List.mem_cons_self
    have whole : trimEnd (c :: s) = c :: s := by
      have kept := trim_of_forall plain
      have start := first []
      rw [List.append_nil] at start
      rwa [trim, start] at kept
    rw [first, trimEnd_append blankAfter, whole]

end PortPool.Text
