/-
# PortPool.Proofs.Text.Split -- cutting a list at a mark

Cutting at the first mark finds nothing in a list without it, and passes over such a
list in front of another (`cutFirst_of_append`); cutting at the last one passes over whatever
stands before it (`cutLast_append`).  Parts without the mark that were put
together with it are the pieces that come back (`pieces_intercalate`), and the last of them
is the end of the list (`exists_last_piece`).  A pattern occurs in a list that has it as a
part (`occursIn_iff`).
-/
import PortPool.Text.Split

namespace PortPool.Text

set_option autoImplicit false

/-- None of the marks is in the list. -/
def Lacks {α : Type} (s marks : List α) : Prop := ∀ a ∈ s, a ∉ marks

instance {α : Type} [DecidableEq α] (s marks : List α) : Decidable (Lacks s marks) :=
  List.decidableBAll _ s

namespace Lacks

variable {α : Type} {s marks : List α} (lacks : Lacks s marks)

include lacks

theorem ne {a mark : α} (member : a ∈ s) (among : mark ∈ marks) : a ≠ mark := by
  rintro rfl
  exact lacks a member among

theorem mono {few : List α} (within : ∀ a ∈ few, a ∈ marks) : Lacks s few :=
  fun a member among => lacks a member (within a among)

end Lacks

variable {α : Type} [BEq α] [LawfulBEq α] {mark : α} {s : List α}

/-! ## At the first mark -/

theorem cutFirst_of_append (absent : ∀ a ∈ s, a ≠ mark) (rest : List α) :
    cutFirst mark (s ++ rest) = (s ++ (cutFirst mark rest).1, (cutFirst mark rest).2) := by
  induction s with
  | nil => rfl
  | cons a s ih =>
    have other : ¬(a == mark) = true := by simpa using absent a List.mem_cons_self
    simp only [List.cons_append, cutFirst, if_neg other,
      ih fun b member => absent b (List.mem_cons_of_mem _ member)]

theorem cutFirst_of_forall (absent : ∀ a ∈ s, a ≠ mark) : cutFirst mark s = (s, none) := by
  have cut := cutFirst_of_append absent []
  simpa [cutFirst] using cut

theorem cutFirst_append (absent : ∀ a ∈ s, a ≠ mark) (rest : List α) :
    cutFirst mark (s ++ mark :: rest) = (s, some rest) := by
  rw [cutFirst_of_append absent]
  simp [cutFirst]

/-- A list either has no mark, or is cut at its first one. -/
theorem cutFirst_cases (mark : α) (s : List α) :
    mark ∉ s ∧ cutFirst mark s = (s, none) ∨
      ∃ before after, s = before ++ mark :: after ∧ mark ∉ before ∧
        cutFirst mark s = (before, some after) := by
  by_cases member : mark ∈ s
  · obtain ⟨before, after, rfl, absent⟩ := List.eq_append_cons_of_mem member
    refine .inr ⟨before, after, rfl, absent, cutFirst_append ?_ after⟩
    rintro a among rfl
    exact absent among
  · refine .inl ⟨member, cutFirst_of_forall ?_⟩
    rintro a among rfl
    exact member among

omit [LawfulBEq α] in
theorem cutFirst_isPrefix (mark : α) (s : List α) : (cutFirst mark s).1 <+: s := by
  induction s with
  | nil => exact List.nil_prefix
  | cons a s ih =>
    rw [cutFirst]
    split
    · exact List.nil_prefix
    · exact List.cons_prefix_cons.mpr ⟨rfl, ih⟩

theorem absent_of_cutFirst_eq (whole : (cutFirst mark s).1 = s) : ∀ a ∈ s, a ≠ mark := by
  induction s with
  | nil => exact nofun
  | cons a s ih =>
    rw [cutFirst] at whole
    split at whole
    · cases whole
    · rename_i other
      have apart : a ≠ mark := by simpa using other
      exact List.forall_mem_cons.mpr ⟨apart, ih (List.cons.inj whole).2⟩

omit [BEq α] [LawfulBEq α] in
/-- What stands behind the last mark is the same in the same list. -/
theorem eq_of_append_mark {before others rest : List α} (first : mark ∉ s) (second : mark ∉ rest)
    (same : before ++ mark :: s = others ++ mark :: rest) : s = rest := by
  rcases List.append_eq_append_iff.mp same with ⟨more, -, split⟩ | ⟨more, -, split⟩
  · cases more with
    | nil => exact (List.cons.inj split).2
    | cons a more =>
      rw [(List.cons.inj split).2] at first
      exact absurd (List.mem_append_right _ List.mem_cons_self) first
  · cases more with
    | nil => exact (List.cons.inj split).2.symm
    | cons a more =>
      rw [(List.cons.inj split).2] at second
      exact absurd (List.mem_append_right _ List.mem_cons_self) second

/-- What ends with a mark can be told from what stands behind it. -/
theorem append_mark_inj {rest others t : List α} (first : mark ∉ s) (second : mark ∉ t)
    (same : s ++ mark :: rest = t ++ mark :: others) : s = t ∧ rest = others := by
  have cut := congrArg (cutFirst mark) same
  rw [cutFirst_append fun a member => ne_of_mem_of_not_mem member first,
    cutFirst_append fun a member => ne_of_mem_of_not_mem member second] at cut
  simpa using cut

/-! ## At the last mark -/

theorem cutLast_of_notMem (absent : mark ∉ s) : cutLast mark s = none := by
  induction s with
  | nil => rfl
  | cons a s ih =>
    rw [List.mem_cons, not_or] at absent
    have other : ¬(a == mark) = true := by simpa using Ne.symm absent.1
    rw [cutLast, ih absent.2]
    exact if_neg other

theorem cutLast_append (before : List α) (absent : mark ∉ s) :
    cutLast mark (before ++ mark :: s) = some (before, s) := by
  induction before with
  | nil => simp [cutLast, cutLast_of_notMem absent]
  | cons a before ih => rw [List.cons_append, cutLast, ih]

/-! ## At every mark -/

theorem pieces_of_forall (absent : ∀ a ∈ s, a ≠ mark) : pieces mark s = [s] := by
  induction s with
  | nil => rfl
  | cons a s ih =>
    have other : ¬(a == mark) = true := by simpa using absent a List.mem_cons_self
    simp only [pieces, ih fun b member => absent b (List.mem_cons_of_mem _ member), if_neg other]

omit [LawfulBEq α] in
theorem pieces_ne_nil (mark : α) (s : List α) : pieces mark s ≠ [] := by
  cases s with
  | nil => simp [pieces]
  | cons a s =>
    rw [pieces]
    split
    · simp
    · split <;> simp

/-- The pieces of a list that is parted by a mark are those of both parts. -/
theorem pieces_append_pieces (s rest : List α) :
    pieces mark (s ++ mark :: rest) = pieces mark s ++ pieces mark rest := by
  induction s with
  | nil =>
    obtain ⟨p, ps, split⟩ := List.exists_cons_of_ne_nil (pieces_ne_nil mark rest)
    simp [pieces, split]
  | cons a s ih =>
    obtain ⟨p, ps, split⟩ := List.exists_cons_of_ne_nil (pieces_ne_nil mark s)
    rw [List.cons_append, pieces, pieces, ih, split]
    by_cases same : a = mark
    · simp [same]
    · simp [same]

theorem pieces_append (absent : ∀ a ∈ s, a ≠ mark) (rest : List α) :
    pieces mark (s ++ mark :: rest) = s :: pieces mark rest := by
  rw [pieces_append_pieces, pieces_of_forall absent, List.singleton_append]

/-- The last piece is the end of the list, and there is no mark in it.  If there is no
other piece, there is no mark in the list. -/
theorem exists_last_piece (mark : α) (s : List α) :
    ∃ front last, pieces mark s = front ++ [last] ∧ last <:+ s ∧ mark ∉ last ∧
      (front = [] → last = s) := by
  have single {last : List α} (absent : mark ∉ last) : pieces mark last = [last] :=
    pieces_of_forall fun a member => ne_of_mem_of_not_mem member absent
  by_cases member : mark ∈ s
  · obtain ⟨after, before, split, absent⟩ :=
      List.eq_append_cons_of_mem (List.mem_reverse.mpr member)
    obtain rfl : s = before.reverse ++ mark :: after.reverse := by
      rw [← List.reverse_reverse s, split]
      simp
    have absent : mark ∉ after.reverse := mt List.mem_reverse.mp absent
    refine ⟨pieces mark before.reverse, after.reverse, ?_, ?_, absent, ?_⟩
    · rw [pieces_append_pieces, single absent]
    · exact (List.suffix_cons mark _).trans (List.suffix_append _ _)
    · intro none
      exact absurd none (pieces_ne_nil mark _)
  · exact ⟨[], s, single member, List.suffix_rfl, member, fun _ => rfl⟩

/-- **The parts between the marks come back.** -/
theorem pieces_intercalate {parts : List (List α)} (some_ : parts ≠ [])
    (absent : ∀ part ∈ parts, ∀ a ∈ part, a ≠ mark) :
    pieces mark (List.intercalate [mark] parts) = parts := by
  induction parts with
  | nil => exact absurd rfl some_
  | cons part parts ih =>
    have first := absent part List.mem_cons_self
    cases parts with
    | nil => simpa [List.intercalate] using pieces_of_forall first
    | cons next parts =>
      have rest := ih (by simp) fun p member => absent p (List.mem_cons_of_mem _ member)
      rw [List.intercalate_cons_cons, List.append_assoc, List.singleton_append,
        pieces_append first, rest]

/-! ## Anywhere -/

/-- A pattern occurs in a text that has it as a part. -/
theorem occursIn_iff {pattern : List α} : occursIn pattern s ↔ pattern <:+: s := by
  induction s with
  | nil => simp [occursIn]
  | cons a s ih =>
    rw [occursIn, Bool.or_eq_true, List.isPrefixOf_iff_prefix, ih, List.infix_cons_iff]

end PortPool.Text
