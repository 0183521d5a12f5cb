/-
# PortPool.Proofs.Url.Origin -- a path behind an origin

An origin is a scheme and an authority with nothing behind them.  A text that goes on
with a slash is read in two parts that do not meet: the authority as it is read alone,
and the rest, from which blanks at its end, tabs and line ends, a query and a fragment
are taken before the path is put in order (`parse?_origin`).

A path without any of these, which is in order already, stays as it is
(`parse?_settled`).
-/
import Mathlib.Data.List.TakeWhile
import PortPool.Proofs.Text.Split
import PortPool.Url.Reader

namespace PortPool.Url

set_option autoImplicit false

open PortPool.Text

/-- The text is `http://` and this authority. -/
structure Origin (base : List Char) (a : Authority) : Prop where
  written : ∃ place behind, base = "http://".toList ++ place ∧
    Lacks place ['/', '\\', '?', '#'] ∧ place.any isDropped = false ∧
    authority? Host.domain? (some 80) place = some (a, behind)
  named : a.host.isSome = true

/-- What is left of the end of a text. -/
def tidied (s : List Char) : List Char :=
  (s.reverse.dropWhile isOuter).reverse.filter fun c => !isDropped c

/-! ## What stands in front -/

theorem filter_of_kept {s : List Char} (kept : s.any isDropped = false) :
    s.filter (fun c => !isDropped c) = s :=
  List.filter_eq_self.mpr fun c member => by simpa using List.any_eq_false.mp kept c member

theorem cleaned_append {base tail : List Char} (first : ∃ c ∈ base.head?, isOuter c = false)
    (kept : base.any isDropped = false) (some_ : ∃ c ∈ tail, isOuter c = false) :
    cleaned (base ++ tail) = base ++ tidied tail := by
  obtain ⟨c, isFirst, notOuter⟩ := first
  obtain ⟨rest, rfl⟩ : ∃ rest, base = c :: rest := by
    cases base with
    | nil => cases isFirst
    | cons d rest => exact ⟨rest, by rw [Option.some.inj isFirst]⟩
  have front : (c :: rest ++ tail).dropWhile isOuter = c :: rest ++ tail := by
    rw [List.cons_append, List.dropWhile_cons_of_neg (by simp [notOuter])]
  have back : ((c :: rest ++ tail).reverse.dropWhile isOuter) =
      tail.reverse.dropWhile isOuter ++ (c :: rest).reverse := by
    have nonempty : (tail.reverse.dropWhile isOuter).isEmpty = false := by
      rw [List.isEmpty_eq_false_iff, Ne, List.dropWhile_eq_nil_iff]
      obtain ⟨d, member, notOuter⟩ := some_
      intro all
      have outer := all d (List.mem_reverse.mpr member)
      rw [notOuter] at outer
      cases outer
    rw [List.reverse_append, List.dropWhile_append, nonempty, if_neg Bool.false_ne_true]
  have whole := filter_of_kept kept
  rw [cleaned, front, back, List.reverse_append, List.reverse_reverse, List.filter_append, whole,
    tidied]

theorem splitTail_append (front : List Char) (plain : Lacks front ['?', '#'])
    (s : List Char) :
    splitTail (front ++ s) = (front ++ (splitTail s).1, (splitTail s).2) := by
  have hash : cutFirst '#' (front ++ s) = _ :=
    cutFirst_of_append (fun c member => plain.ne member (by decide)) s
  have query : cutFirst '?' (front ++ (cutFirst '#' s).1) = _ :=
    cutFirst_of_append (fun c member => plain.ne member (by decide)) _
  simp only [splitTail, hash, query]

/-- The slash that the rest begins with stays in front. -/
theorem splitTail_slash (s : List Char) :
    splitTail ('/' :: s) = ('/' :: (splitTail s).1, (splitTail s).2) :=
  splitTail_append ['/'] (by decide) s

/-- What ends in a visible character stays as it is in front of what is tidied. -/
theorem tidied_append (front : List Char) (kept : front.any isDropped = false)
    (ends : ∃ c ∈ front.reverse.head?, isOuter c = false) (s : List Char) :
    tidied (front ++ s) = front ++ tidied s := by
  obtain ⟨c, isLast, notOuter⟩ := ends
  have back : (front ++ s).reverse.dropWhile isOuter =
      s.reverse.dropWhile isOuter ++ front.reverse := by
    rw [List.reverse_append, List.dropWhile_append]
    split
    · rename_i none
      rw [List.isEmpty_iff.mp none, List.nil_append]
      cases reversed : front.reverse with
      | nil =>
        rw [reversed] at isLast
        cases isLast
      | cons d rest =>
        rw [reversed] at isLast
        obtain rfl := Option.some.inj isLast
        rw [List.dropWhile_cons_of_neg (by simp [notOuter])]
    · rfl
  rw [tidied, back, List.reverse_append, List.reverse_reverse, List.filter_append,
    filter_of_kept kept, tidied]

theorem tidied_slash (s : List Char) : tidied ('/' :: s) = '/' :: tidied s :=
  tidied_append ['/'] (by decide) ⟨'/', rfl, by decide⟩ s

/-! ## What is left -/

theorem tidied_sublist (s : List Char) : (tidied s).Sublist s := by
  have back : ((s.reverse.dropWhile isOuter).reverse).Sublist s := by
    simpa using (List.dropWhile_sublist (p := isOuter) (l := s.reverse)).reverse
  exact List.filter_sublist.trans back

theorem splitTail_isPrefix (s : List Char) : (splitTail s).1 <+: s :=
  (cutFirst_isPrefix '?' _).trans (cutFirst_isPrefix '#' s)

/-- Only a text without a query and a fragment is left as it is. -/
theorem lacks_of_splitTail_eq {s : List Char} (whole : (splitTail s).1 = s) :
    Lacks s ['?', '#'] := by
  have long : (splitTail s).1.length ≤ (cutFirst '#' s).1.length :=
    (cutFirst_isPrefix '?' _).length_le
  rw [whole] at long
  have noHash : (cutFirst '#' s).1 = s :=
    (cutFirst_isPrefix '#' s).eq_of_length_le long
  have noQuery : (cutFirst '?' s).1 = s := by
    simpa only [splitTail, noHash] using whole
  intro c member
  have notQuery := absent_of_cutFirst_eq noQuery c member
  have notHash := absent_of_cutFirst_eq noHash c member
  simp [notQuery, notHash]

theorem splitTail_of_lacks {s : List Char} (plain : Lacks s ['?', '#']) :
    splitTail s = (s, none, none) := by
  have noHash : cutFirst '#' s = (s, none) :=
    cutFirst_of_forall fun c member => plain.ne member (by decide)
  have noQuery : cutFirst '?' s = (s, none) :=
    cutFirst_of_forall fun c member => plain.ne member (by decide)
  simp only [splitTail, noHash, noQuery]

theorem withSlashes_of_forall {s : List Char} (plain : ∀ c ∈ s, c ≠ '\\') : withSlashes s = s := by
  refine (List.map_congr_left fun c member => if_neg (plain c member)).trans ?_
  exact List.map_id _

/-! ## Server and path -/

theorem webPlace?_origin {place behind : List Char} {a : Authority}
    (plain : Lacks place ['/', '\\', '?', '#'])
    (read : authority? Host.domain? (some 80) place = some (a, behind))
    (named : a.host.isSome = true) (s : List Char) :
    webPlace? (some 80) ('/' :: '/' :: place ++ '/' :: s) =
      some (some a, pathOf (withSlashes ('/' :: s))) := by
  have noSlash : ∀ c ∈ place, c ≠ '/' := fun c member => plain.ne member (by decide)
  have unchanged : place.map (fun c => if c = '\\' then '/' else c) = place :=
    withSlashes_of_forall fun c member => plain.ne member (by decide)
  have slashes : withSlashes ('/' :: '/' :: place ++ '/' :: s) =
      '/' :: '/' :: (place ++ withSlashes ('/' :: s)) := by
    rw [withSlashes, List.map_append, List.map_cons, List.map_cons, unchanged]
    rfl
  obtain ⟨c, rest, split⟩ : ∃ c rest, place = c :: rest := by
    cases place with
    | nil =>
      cases read
      cases named
    | cons c rest => exact ⟨c, rest, rfl⟩
  have server : ('/' :: '/' :: (place ++ withSlashes ('/' :: s))).dropWhile (· = '/') =
      place ++ withSlashes ('/' :: s) := by
    have first : ¬decide (c = '/') = true := by
      simpa using noSlash c (by rw [split]; exact List.mem_cons_self)
    rw [split, List.cons_append]
    simp [first]
  have cut : splitSlash (place ++ withSlashes ('/' :: s)) = (place, withSlashes ('/' :: s)) := by
    have before : ∀ c ∈ place, decide (c ≠ '/') = true := fun c member => by
      simpa using noSlash c member
    have opened : withSlashes ('/' :: s) = '/' :: withSlashes s := rfl
    rw [splitSlash, List.takeWhile_append_of_pos before, List.dropWhile_append_of_pos before, opened]
    simp
  rw [webPlace?, slashes, server, cut]
  simp only [read, Option.bind_eq_bind, Option.bind_some]
  rw [if_neg (by simpa [Option.isNone_iff_eq_none, Option.isSome_iff_ne_none] using named)]

/-- **A text that begins with an origin is read in two parts.** -/
theorem parse?_origin {base : List Char} {a : Authority} (origin : Origin base a)
    (s : List Char) : parse? (String.ofList (base ++ '/' :: s)) =
      let parts := splitTail (tidied ('/' :: s))
      some ⟨"http".toList, some a, pathOf (withSlashes parts.1),
        parts.2.1.map (escaped (inQuery true)), parts.2.2.map (escaped inFragment)⟩ := by
  obtain ⟨⟨place, behind, rfl, plain, undropped, read⟩, named⟩ := origin
  have kept : ("http://".toList ++ place).any isDropped = false := by
    rw [List.any_append, undropped]
    rfl
  have clean : cleaned ("http://".toList ++ place ++ '/' :: s) = _ :=
    cleaned_append ⟨'h', rfl, by decide⟩ kept ⟨'/', List.mem_cons_self (l := s), by decide⟩
  obtain ⟨rest, begins⟩ : ∃ rest, tidied ('/' :: s) = '/' :: rest := ⟨_, tidied_slash s⟩
  have scheme : cutScheme ("http://".toList ++ place ++ '/' :: rest) =
      some ("http".toList, '/' :: '/' :: place ++ '/' :: rest) := rfl
  have tail : splitTail ('/' :: '/' :: place ++ '/' :: rest) =
      ('/' :: '/' :: place ++ (splitTail ('/' :: rest)).1, (splitTail ('/' :: rest)).2) := by
    refine splitTail_append ('/' :: '/' :: place) (fun c member => ?_) _
    simp only [List.mem_cons] at member
    rcases member with rfl | rfl | inPlace
    · decide
    · decide
    · exact fun among =>
        plain c inPlace (List.mem_cons_of_mem _ (List.mem_cons_of_mem _ among))
  have web : kindOf "http".toList = .web := by decide
  have usual : usualPort? "http".toList = some 80 := by decide
  rw [parse?, String.toList_ofList, clean, begins, scheme]
  simp only [Option.bind_eq_bind, Option.bind_some, tail, web, usual, splitTail_slash]
  rw [webPlace?_origin plain read named]
  rfl

/-! ## Paths in order -/

/-- The path stays as it is wherever it stands behind an origin. -/
structure Settled (path : List Char) : Prop where
  begins : path.head? = some '/'
  tidy : tidied path = path
  plain : Lacks path ['\\', '?', '#']
  resolved : pathOf path = path

instance (path : List Char) : Decidable (Settled path) :=
  decidable_of_iff (path.head? = some '/' ∧ tidied path = path ∧
      Lacks path ['\\', '?', '#'] ∧ pathOf path = path)
    ⟨fun h => ⟨h.1, h.2.1, h.2.2.1, h.2.2.2⟩, fun h => ⟨h.begins, h.tidy, h.plain, h.resolved⟩⟩

theorem Settled.ends {path : List Char} (settled : Settled path) : Lacks path ['?', '#'] :=
  settled.plain.mono fun _ => List.mem_cons_of_mem _

theorem parse?_settled {base path : List Char} {a : Authority} (origin : Origin base a)
    (settled : Settled path) :
    parse? (String.ofList (base ++ path)) = some ⟨"http".toList, some a, path, none, none⟩ := by
  have slashes := withSlashes_of_forall fun c member => settled.plain.ne member (by decide)
  have alone := splitTail_of_lacks settled.ends
  cases path with
  | nil => cases settled.begins
  | cons c s =>
    obtain rfl : c = '/' := Option.some.inj settled.begins
    rw [parse?_origin origin, settled.tidy, alone]
    simp only [slashes, settled.resolved, Option.map_none]

end PortPool.Url
