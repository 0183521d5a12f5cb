/-
# PortPool.Proofs.Text.Spacing -- words and lines

`Spaced` says of which words a text consists, whatever blanks stand around and between them,
and `words` finds exactly these (`words_eq_iff`).  Lines that are written one after the other
are the lines that come back (`filterMap_lines`), save that an empty last one is none.
-/
import Mathlib.Data.List.TakeWhile
import PortPool.Text.Blank

namespace PortPool.Text

set_option autoImplicit false

/-! ## Words -/

/-- The text consists of these words, in order.  A word has no blanks in it, and a blank or
nothing behind it. -/
inductive Spaced : List (List Char) → List Char → Prop
  | nil : Spaced [] []
  | blank {ws : List (List Char)} {c : Char} {s : List Char} (blank : isBlank c = true)
    (rest : Spaced ws s) : Spaced ws (c :: s)
  | word {w s : List Char} {ws : List (List Char)} (some_ : w ≠ [])
    (plain : ∀ c ∈ w, isBlank c = false) (apart : ∀ c ∈ s.head?, isBlank c = true)
    (rest : Spaced ws s) : Spaced (w :: ws) (w ++ s)

theorem words_blank {c : Char} (blank : isBlank c = true) (s : List Char) :
    words (c :: s) = words s := by
  rw [words.eq_def]
  exact if_pos blank

/-- A character that is no blank begins a word, or goes on with the one behind it. -/
theorem words_single {c : Char} (plain : isBlank c = false) {s : List Char}
    (apart : ∀ d ∈ s.head?, isBlank d = true) : words (c :: s) = [c] :: words s := by
  rw [words.eq_def]
  cases s with
  | nil =>
    simp only [plain, Bool.false_eq_true, if_false]
    rfl
  | cons d s => simp only [plain, apart d rfl, Bool.false_eq_true, if_false, if_true]

theorem words_more {c d : Char} (plain : isBlank c = false) (next : isBlank d = false)
    {s w : List Char} {ws : List (List Char)} (rest : words (d :: s) = w :: ws) :
    words (c :: d :: s) = (c :: w) :: ws := by
  rw [words.eq_def]
  simp only [plain, next, rest, Bool.false_eq_true, if_false]

theorem words_append {w s : List Char} (some_ : w ≠ []) (plain : ∀ c ∈ w, isBlank c = false)
    (apart : ∀ c ∈ s.head?, isBlank c = true) : words (w ++ s) = w :: words s := by
  induction w with
  | nil => exact absurd rfl some_
  | cons c w ih =>
    obtain ⟨first, others⟩ := List.forall_mem_cons.mp plain
    cases w with
    | nil => exact words_single first apart
    | cons d w => exact words_more first (others d List.mem_cons_self) (ih (by simp) others)

theorem words_of_spaced {ws : List (List Char)} {s : List Char} (spaced : Spaced ws s) :
    words s = ws := by
  induction spaced with
  | nil => rfl
  | blank blank _ ih => rw [words_blank blank, ih]
  | word some_ plain apart _ ih => rw [words_append some_ plain apart, ih]

theorem spaced_words (s : List Char) : Spaced (words s) s := by
  induction long : s.length using Nat.strongRecOn generalizing s with
  | ind n ih =>
    subst long
    cases s with
    | nil => exact .nil
    | cons c s =>
      by_cases blank : isBlank c = true
      · rw [words_blank blank]
        exact .blank blank (ih s.length (Nat.lt_succ_self _) s rfl)
      -- the first word is what stands before the first blank
      have split := List.takeWhile_append_dropWhile (p := fun d => !isBlank d) (l := c :: s)
      have plain : ∀ d ∈ (c :: s).takeWhile (fun d => !isBlank d), isBlank d = false :=
        fun d member => by simpa using List.mem_takeWhile_imp member
      have some_ : (c :: s).takeWhile (fun d => !isBlank d) ≠ [] := by
        simp [blank]
      have apart : ∀ d ∈ ((c :: s).dropWhile fun d => !isBlank d).head?, isBlank d = true :=
        fun d isFirst => by
          have := List.head?_dropWhile_not (fun d => !isBlank d) (c :: s)
          simpa [Option.mem_def.mp isFirst] using this
      have shorter : ((c :: s).dropWhile fun d => !isBlank d).length < (c :: s).length := by
        have := congrArg List.length split
        have := List.length_pos_iff.mpr some_
        rw [List.length_append] at *
        omega
      rw [← split, words_append some_ plain apart]
      exact .word some_ plain apart (ih _ shorter _ rfl)

/-- **The words of a text are those of which it consists.** -/
theorem words_eq_iff {ws : List (List Char)} {s : List Char} : words s = ws ↔ Spaced ws s := by
  constructor
  · rintro rfl
    exact spaced_words s
  · exact words_of_spaced

/-! ## Lines -/

/-- Lines one after the other, with a line feed behind the last one or not. -/
def joined (first : List Char) (others : List (List Char)) (ended : Bool) : List Char :=
  first ++ others.flatMap (fun l => '\n' :: l) ++ if ended then ['\n'] else []

theorem joined_cons (first next : List Char) (others : List (List Char)) (ended : Bool) :
    joined first (next :: others) ended = first ++ '\n' :: joined next others ended := by
  simp [joined]

theorem lines_append {l : List Char} (single : '\n' ∉ l) (s : List Char) :
    lines (l ++ '\n' :: s) = l :: lines s := by
  induction l with
  | nil => rw [List.nil_append, lines, if_pos rfl]
  | cons c l ih =>
    rw [List.mem_cons, not_or] at single
    rw [List.cons_append, lines, if_neg (Ne.symm single.1), ih single.2]

theorem lines_eq_singleton {l : List Char} (some_ : l ≠ []) (single : '\n' ∉ l) :
    lines l = [l] := by
  induction l with
  | nil => exact absurd rfl some_
  | cons c l ih =>
    rw [List.mem_cons, not_or] at single
    rw [lines, if_neg (Ne.symm single.1)]
    by_cases last : l = []
    · subst last
      rfl
    · rw [ih last single.2]

/-- The lines that were written come back, save for an empty last one. -/
theorem lines_joined {first : List Char} {others : List (List Char)}
    (single : ∀ l ∈ first :: others, '\n' ∉ l) (ended : Bool) :
    lines (joined first others ended) = first :: others ∨
      ∃ front, first :: others = front ++ [[]] ∧ lines (joined first others ended) = front := by
  induction others generalizing first with
  | nil =>
    have whole := single first List.mem_cons_self
    cases ended with
    | true =>
      have feed : joined first [] true = first ++ '\n' :: [] := by simp [joined]
      exact .inl (by rw [feed, lines_append whole, lines])
    | false =>
      have bare : joined first [] false = first := by simp [joined]
      rw [bare]
      by_cases empty : first = []
      · subst empty
        exact .inr ⟨[], rfl, rfl⟩
      · exact .inl (lines_eq_singleton empty whole)
  | cons next others ih =>
    obtain ⟨whole, rest⟩ := List.forall_mem_cons.mp single
    rw [joined_cons, lines_append whole]
    rcases ih rest with same | ⟨front, split, same⟩
    · exact .inl (by rw [same])
    · exact .inr ⟨first :: front, by rw [split, List.cons_append], by rw [same]⟩

/-- What is found line by line behind the first one is found in the lines that were written,
for there is nothing in an empty one. -/
theorem filterMap_lines {α : Type} {f : List Char → Option α} (none_ : f [] = none)
    {first : List Char} {others : List (List Char)} (single : ∀ l ∈ first :: others, '\n' ∉ l)
    (ended : Bool) :
    ((lines (joined first others ended)).drop 1).filterMap f = others.filterMap f := by
  rcases lines_joined single ended with same | ⟨front, split, same⟩
  · rw [same, List.drop_one, List.tail_cons]
  · rw [same]
    cases front with
    | nil =>
      obtain ⟨-, rfl⟩ := List.cons.inj split
      rfl
    | cons head front =>
      obtain ⟨-, rfl⟩ := List.cons.inj split
      simp [none_]

end PortPool.Text
