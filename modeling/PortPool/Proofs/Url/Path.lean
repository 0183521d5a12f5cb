/-
# PortPool.Proofs.Url.Path -- the last segment of a path

A path that is put in order ends in what its last segment is written as, or in nothing if
that names a level (`exists_pathOf`).  Whatever stands in a segment is escaped or may stand
in a path, so no slash comes in, and neither does what would end the path
(`apart_of_mem_escaped`).
-/
import PortPool.Proofs.Text.Percent
import PortPool.Proofs.Text.Split
import PortPool.Url.Path

namespace PortPool.Url

set_option autoImplicit false

open PortPool.Text

/-! ## Escapes -/

theorem inPath_ascii {octet : UInt8} (kept : inPath octet = true) : octet.toNat < 0x80 := by
  simp only [inPath, visibleBut, Bool.and_eq_true, decide_eq_true_eq] at kept
  omega

/-- A percent sign is kept in a path, and so are the digits behind it. -/
theorem keeps_inPath : Percent.Keeps inPath where
  ascii _ := inPath_ascii
  percent := by decide
  digits octet digit := by
    have each : ∀ n < 256, (Percent.hexValue? (.ofNat n)).isSome = true →
        inPath (.ofNat n) = true := by decide +kernel
    have read := each octet.toNat octet.toNat_lt
    rw [UInt8.ofNat_toNat] at read
    exact read digit

/-- Nothing that is written in a segment ends a path, and no slash is that was not in it. -/
theorem apart_of_mem_escaped {segment : List Char} {c : Char}
    (member : c ∈ escaped inPath segment) : c ≠ '?' ∧ c ≠ '#' ∧ (c = '/' → '/' ∈ segment) := by
  obtain ⟨octet, among, written⟩ := List.mem_flatMap.mp member
  split at written
  · rename_i kept
    obtain rfl := List.mem_singleton.mp written
    have each : ∀ n < 0x80, inPath (.ofNat n) = true →
        Char.ofNat n ≠ '?' ∧ Char.ofNat n ≠ '#' ∧ (Char.ofNat n = '/' → n = 0x2F) := by
      decide +kernel
    have apart := each octet.toNat (inPath_ascii kept)
    rw [UInt8.ofNat_toNat] at apart
    obtain ⟨notQuery, notHash, slash⟩ := apart kept
    refine ⟨notQuery, notHash, fun same => ?_⟩
    have octetIs : octet = UInt8.ofNat '/'.toNat := by
      rw [← UInt8.ofNat_toNat (x := octet), slash same]
      rfl
    exact Utf8.ofNat_mem_encode (by decide) (octetIs ▸ among)
  · have digits : ∀ n < 16,
        Percent.digit n ≠ '?' ∧ Percent.digit n ≠ '#' ∧ Percent.digit n ≠ '/' := by decide
    have small := octet.toNat_lt
    have high := digits (octet.toNat / 16) (by omega)
    have low := digits (octet.toNat % 16) (by omega)
    have escape : Percent.escape octet =
        ['%', Percent.digit (octet.toNat / 16), Percent.digit (octet.toNat % 16)] := rfl
    simp only [escape, List.mem_cons, List.not_mem_nil, or_false] at written
    rcases written with rfl | rfl | rfl
    · exact ⟨by decide, by decide, nofun⟩
    · exact ⟨high.1, high.2.1, fun slash => absurd slash high.2.2⟩
    · exact ⟨low.1, low.2.1, fun slash => absurd slash low.2.2⟩

/-! ## Segments -/

/-- What the last segment of a path is written as. -/
def lastSegment (segment : List Char) : List Char :=
  if isAbove segment || isHere segment then [] else escaped inPath segment

/-- Segments that name no level stay. -/
theorem resolve_of_forall {segments : List (List Char)} (before : List (List Char))
    (ordinary : ∀ segment ∈ segments, isAbove segment = false ∧ isHere segment = false) :
    resolve before segments = before.reverse ++ segments.map (escaped inPath) := by
  induction segments generalizing before with
  | nil => rw [resolve, List.map_nil, List.append_nil]
  | cons first segments ih =>
    obtain ⟨⟨notAbove, notHere⟩, others⟩ := List.forall_mem_cons.mp ordinary
    rw [resolve, notAbove, notHere, if_neg Bool.false_ne_true, if_neg Bool.false_ne_true, ih _ others]
    simp

theorem exists_resolve (segment : List Char) (segments before : List (List Char)) :
    ∃ front, resolve before (segments ++ [segment]) = front ++ [lastSegment segment] := by
  induction segments generalizing before with
  | nil =>
    rw [List.nil_append, resolve, lastSegment]
    by_cases above : isAbove segment = true
    · exact ⟨(goUp before).reverse, by simp [above, resolve]⟩
    · by_cases here : isHere segment = true
      · exact ⟨before.reverse, by simp [above, here, resolve]⟩
      · exact ⟨before.reverse, by simp [above, here, resolve]⟩
  | cons first segments ih =>
    rw [List.cons_append, resolve]
    split
    · exact ih _
    · split
      · exact ih _
      · exact ih _

theorem goUp_sublist (before : List (List Char)) : (goUp before).Sublist before := by
  cases before with
  | nil => exact .slnil
  | cons top below =>
    rw [goUp]
    split
    · exact .refl _
    · exact List.sublist_cons_self top below

/-- What holds of nothing and of every escaped text holds of every segment. -/
theorem resolve_forall {p : List Char → Prop} (none : p [])
    (each : ∀ segment, p (escaped inPath segment)) {segments before : List (List Char)}
    (all : ∀ segment ∈ before, p segment) : ∀ segment ∈ resolve before segments, p segment := by
  induction segments generalizing before with
  | nil => simpa [resolve] using all
  | cons first segments ih =>
    have close {b : List (List Char)} (all : ∀ segment ∈ b, p segment) :
        ∀ segment ∈ if segments.isEmpty then [] :: b else b, p segment := by
      split
      · exact List.forall_mem_cons.mpr ⟨none, all⟩
      · exact all
    have up : ∀ segment ∈ goUp before, p segment := fun segment member =>
      all segment ((goUp_sublist before).subset member)
    rw [resolve]
    split
    · exact ih (close up)
    · split
      · exact ih (close all)
      · exact ih (List.forall_mem_cons.mpr ⟨each first, all⟩)

/-! ## Paths -/

theorem exists_intercalate (mark : Char) (parts : List (List Char)) (last : List Char) :
    ∃ front, mark :: List.intercalate [mark] (parts ++ [last]) = front ++ mark :: last := by
  induction parts with
  | nil => exact ⟨[], by rw [List.nil_append, List.intercalate_singleton, List.nil_append]⟩
  | cons part parts ih =>
    obtain ⟨front, same⟩ := ih
    refine ⟨mark :: part ++ front, ?_⟩
    rw [List.cons_append, List.intercalate_cons_of_ne_nil (by simp), List.append_assoc,
      List.singleton_append, same]
    simp

theorem mem_intercalate {mark c : Char} {parts : List (List Char)}
    (member : c ∈ List.intercalate [mark] parts) : c = mark ∨ ∃ part ∈ parts, c ∈ part := by
  induction parts with
  | nil => cases member
  | cons part parts ih =>
    by_cases none : parts = []
    · rw [none, List.intercalate_singleton] at member
      exact .inr ⟨part, List.mem_cons_self, member⟩
    · rw [List.intercalate_cons_of_ne_nil none, List.append_assoc, List.singleton_append,
        List.mem_append, List.mem_cons] at member
      rcases member with here | between | later
      · exact .inr ⟨part, List.mem_cons_self, here⟩
      · exact .inl between
      · rcases ih later with between | ⟨other, among, within⟩
        · exact .inl between
        · exact .inr ⟨other, List.mem_cons_of_mem _ among, within⟩

/-- **A path in order ends in its last segment.** -/
theorem exists_pathOf {s segment : List Char} {segments : List (List Char)}
    (split : pieces '/' (dropSlash s) = segments ++ [segment]) :
    ∃ front, pathOf s = front ++ '/' :: lastSegment segment := by
  obtain ⟨parts, resolved⟩ := exists_resolve segment segments []
  rw [pathOf, segmentsOf, split, resolved]
  exact exists_intercalate '/' parts _

/-- Nothing in a path in order ends it. -/
theorem lacks_pathOf (s : List Char) : Lacks (pathOf s) ['?', '#'] := by
  have each : ∀ segment ∈ segmentsOf (dropSlash s), Lacks segment ['?', '#'] := by
    refine resolve_forall nofun (fun segment c member => ?_) nofun
    obtain ⟨notQuery, notHash, -⟩ := apart_of_mem_escaped member
    simp [notQuery, notHash]
  intro c member
  rw [pathOf] at member
  rcases List.mem_cons.mp member with rfl | member
  · decide
  · rcases mem_intercalate member with rfl | ⟨segment, among, within⟩
    · decide
    · exact each segment among c within

end PortPool.Url
