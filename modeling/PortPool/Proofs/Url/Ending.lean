/-
# PortPool.Proofs.Url.Ending -- what a text ends in

A word of small letters and digits stands for itself in every part of a URL: it is not
escaped, parts nothing, names no level and no drive.  So a text that ends in such a word
behind a slash is, whatever stands in front, no URL or one that ends in the same way
(`Tail.suffix_lastPart`).  This takes one more word in front of the slash: the first word
behind the scheme may be the server.
-/
import Mathlib.Data.List.DropRight
import PortPool.Proofs.Text.Blank
import PortPool.Proofs.Url.Path
import PortPool.Url.Reader

namespace PortPool.Url

set_option autoImplicit false

open PortPool.Text

/-! ## Words -/

/-- A small letter or a digit. -/
def isOrdinary (c : Char) : Bool :=
  let n := c.toNat
  (0x61 ≤ n && n ≤ 0x7A) || (0x30 ≤ n && n ≤ 0x39)

theorem ascii_of_isOrdinary {c : Char} (ordinary : isOrdinary c = true) : c.toNat < 0x80 := by
  simp only [isOrdinary, Bool.or_eq_true, Bool.and_eq_true, decide_eq_true_eq] at ordinary
  omega

/-- What holds of the small letters and the digits of ASCII holds of all. -/
theorem forall_isOrdinary {p : Char → Prop}
    (each : ∀ n < 0x80, isOrdinary (Char.ofNat n) = true → p (Char.ofNat n)) {c : Char}
    (ordinary : isOrdinary c = true) : p c := by
  have known := each c.toNat (ascii_of_isOrdinary ordinary)
  rw [Char.ofNat_toNat] at known
  exact known ordinary

/-- No control and no blank, no tab and no line end. -/
theorem visible_of_isOrdinary {c : Char} (ordinary : isOrdinary c = true) :
    isOuter c = false ∧ isDropped c = false :=
  forall_isOrdinary (p := fun c => isOuter c = false ∧ isDropped c = false) (by decide +kernel)
    ordinary

/-- The characters that part a URL, name a level or a drive, or begin an escape. -/
def signs : List Char := ['/', '\\', '?', '#', ':', '|', '.', '%']

theorem notMem_signs_of_isOrdinary {c : Char} (ordinary : isOrdinary c = true) : c ∉ signs :=
  forall_isOrdinary (p := (· ∉ signs)) (by decide +kernel) ordinary

/-- Small letters, digits and slashes stand for themselves. -/
def Lasting (keep : UInt8 → Bool) : Prop :=
  ∀ c, isOrdinary c = true ∨ c = '/' → c.toNat < 0x80 ∧ keep (UInt8.ofNat c.toNat) = true

theorem lasting {keep : UInt8 → Bool} (slash : keep 0x2F = true)
    (each : ∀ n < 0x80, isOrdinary (Char.ofNat n) = true →
      keep (UInt8.ofNat (Char.ofNat n).toNat) = true) : Lasting keep := by
  rintro c (ordinary | rfl)
  · exact ⟨ascii_of_isOrdinary ordinary,
      forall_isOrdinary (p := fun c => keep (UInt8.ofNat c.toNat) = true) each ordinary⟩
  · exact ⟨by decide, slash⟩

theorem lasting_inPath : Lasting inPath := lasting (by decide) (by decide +kernel)

theorem lasting_inQuery (special : Bool) : Lasting (inQuery special) := by
  cases special
  · exact lasting (by decide) (by decide +kernel)
  · exact lasting (by decide) (by decide +kernel)

theorem lasting_inFragment : Lasting inFragment := lasting (by decide) (by decide +kernel)

theorem lasting_inOpaque : Lasting inOpaque := lasting (by decide) (by decide +kernel)

/-! ## Escaping -/

theorem escaped_append (keep : UInt8 → Bool) (s t : List Char) :
    escaped keep (s ++ t) = escaped keep s ++ escaped keep t := by
  rw [escaped, Utf8.encode_append, Percent.encode, List.flatMap_append]
  rfl

theorem escaped_of_forall {keep : UInt8 → Bool} (lasting : Lasting keep) {s : List Char}
    (plain : ∀ c ∈ s, isOrdinary c = true ∨ c = '/') : escaped keep s = s := by
  induction s with
  | nil => rfl
  | cons c s ih =>
    obtain ⟨first, others⟩ := List.forall_mem_cons.mp plain
    obtain ⟨ascii, kept⟩ := lasting c first
    have single : escaped keep [c] = [c] := by
      have octets := Utf8.encode_ascii ascii
      rw [Char.ofNat_toNat] at octets
      rw [escaped, octets, Percent.encode, List.flatMap_singleton, if_pos kept,
        Utf8.toNat_ofNat (by omega), Char.ofNat_toNat]
    rw [← List.singleton_append, escaped_append, single, ih others]

/-! ## Ends of lists -/

section Ends

variable {α : Type} {s t rest : List α} {a : α}

/-- What has no mark stands behind every mark. -/
theorem suffix_of_append_mark (absent : a ∉ t) (ends : t <:+ s ++ a :: rest) : t <:+ rest := by
  induction s with
  | nil =>
    rcases List.suffix_cons_iff.mp ends with whole | later
    · exact absurd (whole ▸ List.mem_cons_self) absent
    · exact later
  | cons b s ih =>
    rcases List.suffix_cons_iff.mp ends with whole | later
    · exact absurd (whole ▸ List.mem_append_right (b :: s) List.mem_cons_self) absent
    · exact ih later

/-- What begins with something else is not touched when the beginning is dropped. -/
theorem suffix_dropWhile {p : α → Bool} (first : ∀ a ∈ t.head?, p a = false) (ends : t <:+ s) :
    t <:+ s.dropWhile p := by
  obtain ⟨front, rfl⟩ := ends
  rw [List.dropWhile_append]
  split
  · exact ⟨[], (dropWhile_eq_self first).symm⟩
  · exact List.suffix_append _ t

theorem suffix_of_cons (first : t.head? ≠ some a) (ends : t <:+ a :: s) : t <:+ s := by
  rcases List.suffix_cons_iff.mp ends with rfl | later
  · exact absurd rfl first
  · exact later

/-- Cutting at a mark that it lacks leaves the end of a list the end of the last part. -/
theorem suffix_of_cutFirst [BEq α] [LawfulBEq α] (absent : a ∉ t) (ends : t <:+ s) :
    cutFirst a s = (s, none) ∨ ∃ before after, cutFirst a s = (before, some after) ∧ t <:+ after := by
  rcases cutFirst_cases a s with ⟨-, whole⟩ | ⟨before, after, rfl, -, cut⟩
  · exact .inl whole
  · exact .inr ⟨before, after, cut, suffix_of_append_mark absent ends⟩

end Ends

/-! ## The last segment -/

/-- A word of small letters and digits. -/
structure Word (w : List Char) : Prop where
  some_ : w ≠ []
  ordinary : ∀ c ∈ w, isOrdinary c = true

/-- The last piece between slashes. -/
def EndsIn (w s : List Char) : Prop := s = w ∨ '/' :: w <:+ s

namespace Word

variable {w : List Char} (word : Word w)

include word

theorem apart {c sign : Char} (member : c ∈ w) (among : sign ∈ signs) : c ≠ sign := by
  rintro rfl
  exact notMem_signs_of_isOrdinary (word.ordinary c member) among

theorem lacks {marks : List Char} (among : ∀ c ∈ marks, c ∈ signs) : Lacks w marks :=
  fun _ member mark => word.apart member (among _ mark) rfl

theorem notLevel : isAbove w = false ∧ isHere w = false := by
  have lower : w.map Char.toLower = w := by
    refine (List.map_congr_left fun c member => ?_).trans (List.map_id w)
    exact forall_isOrdinary (p := fun c => c.toLower = c) (by decide +kernel)
      (word.ordinary c member)
  have differ {name : String} (sign : name.toList.any signs.contains = true) :
      String.ofList w ≠ name := by
    rintro rfl
    obtain ⟨c, member, among⟩ := List.any_eq_true.mp sign
    rw [String.toList_ofList] at member
    exact word.apart member (List.contains_iff_mem.mp among) rfl
  simp only [isAbove, isHere, lower, Bool.or_eq_false_iff, decide_eq_false_iff_not]
  refine ⟨⟨⟨⟨?_, ?_⟩, ?_⟩, ?_⟩, ?_, ?_⟩
  all_goals exact differ (by decide)

theorem notDrive : driveOf? w = none := by
  unfold driveOf?
  split
  · rename_i c mark rest
    have noColon : mark ≠ ':' := word.apart (by simp) (by decide)
    have noBar : mark ≠ '|' := word.apart (by simp) (by decide)
    simp [noColon, noBar]
  · rfl

theorem lastSegment_eq : lastSegment w = w := by
  obtain ⟨notAbove, notHere⟩ := word.notLevel
  rw [lastSegment, notAbove, notHere, if_neg (by decide)]
  exact escaped_of_forall lasting_inPath fun c member => .inl (word.ordinary c member)

theorem endsIn_tail {s : List Char} (ends : EndsIn w ('/' :: s)) : EndsIn w s := by
  rcases ends with rfl | ends
  · exact absurd rfl (word.apart List.mem_cons_self (by decide))
  · rcases List.suffix_cons_iff.mp ends with same | later
    · exact .inl (List.cons.inj same).2.symm
    · exact .inr later

theorem endsIn_dropSlash {s : List Char} (ends : EndsIn w s) : EndsIn w (dropSlash s) := by
  unfold dropSlash
  split
  · exact word.endsIn_tail ends
  · exact ends

theorem exists_pieces {s : List Char} (ends : EndsIn w s) :
    ∃ front, pieces '/' s = front ++ [w] := by
  have single : pieces '/' w = [w] :=
    pieces_of_forall fun c member => word.apart member (by decide)
  rcases ends with rfl | ⟨front, rfl⟩
  · exact ⟨[], single⟩
  · exact ⟨pieces '/' front, by rw [pieces_append_pieces, single]⟩

theorem suffix_pathOf {s : List Char} (ends : EndsIn w s) : '/' :: w <:+ pathOf s := by
  obtain ⟨front, split⟩ := word.exists_pieces (word.endsIn_dropSlash ends)
  obtain ⟨before, written⟩ := exists_pathOf split
  rw [written, word.lastSegment_eq]
  exact List.suffix_append before _

/-- The slash that a path begins with is there for the last segment if it is the only one. -/
theorem suffix_cons_dropWhile {s : List Char} (ends : EndsIn w s) :
    '/' :: w <:+ '/' :: s.dropWhile (· == '/') := by
  have kept : w.dropWhile (· == '/') = w := dropWhile_eq_self fun c isFirst => by
    simpa using word.apart (List.mem_of_head? isFirst) (by decide)
  rcases ends with rfl | ⟨front, rfl⟩
  · exact ⟨[], congrArg ('/' :: ·) kept.symm⟩
  · rw [List.dropWhile_append]
    split
    · rw [List.dropWhile_cons_of_pos (by simp)]
      exact ⟨[], congrArg ('/' :: ·) kept.symm⟩
    · exact (List.suffix_append _ _).trans (List.suffix_cons _ _)

theorem suffix_intercalate (before : List (List Char)) :
    '/' :: w <:+ '/' :: (List.intercalate ['/'] (before ++ [w])).dropWhile (· == '/') := by
  obtain ⟨beginning, written⟩ := exists_intercalate '/' before w
  have last : EndsIn w ('/' :: List.intercalate ['/'] (before ++ [w])) := by
    rw [written]
    exact .inr (List.suffix_append beginning _)
  exact word.suffix_cons_dropWhile (word.endsIn_tail last)

theorem suffix_filePath {s : List Char} (ends : EndsIn w s) :
    '/' :: w <:+ filePath (segmentsOf s) := by
  obtain ⟨pieces, split⟩ := word.exists_pieces ends
  obtain ⟨front, resolved⟩ := exists_resolve w pieces []
  rw [word.lastSegment_eq] at resolved
  rw [segmentsOf, split, resolved]
  cases drive : firstDrive? (front ++ [w]) with
  | none =>
    simp only [filePath, drive]
    exact word.suffix_intercalate front
  | some letter =>
    simp only [filePath, drive]
    cases front with
    | nil =>
      rw [firstDrive?, List.nil_append, List.head?_cons, Option.bind_some, word.notDrive] at drive
      cases drive
    | cons first front => exact word.suffix_intercalate ([letter, ':'] :: front)

end Word

/-! ## Places -/

/-- The text ends in a word behind a slash, and in front of this slash stands a word, too. -/
structure Tail (w t : List Char) : Prop where
  word : Word w
  first : ∀ c ∈ t.head?, isOrdinary c = true
  plain : ∀ c ∈ t, isOrdinary c = true ∨ c = '/'
  last : '/' :: w <:+ t

namespace Tail

variable {w t s : List Char} (tail : Tail w t)

include tail

theorem notMem {sign : Char} (among : sign ∈ signs) (other : sign ≠ '/') : sign ∉ t := by
  intro member
  rcases tail.plain sign member with ordinary | slash
  · exact notMem_signs_of_isOrdinary ordinary among
  · exact other slash

theorem visible {c : Char} (member : c ∈ t) : isOuter c = false ∧ isDropped c = false := by
  rcases tail.plain c member with ordinary | rfl
  · exact visible_of_isOrdinary ordinary
  · decide

theorem first_notSlash {c : Char} (isFirst : c ∈ t.head?) : c ≠ '/' := by
  rintro rfl
  cases tail.first '/' isFirst

theorem suffix_of_slash (ends : t <:+ '/' :: s) : t <:+ s :=
  suffix_of_cons (fun slash => tail.first_notSlash slash rfl) ends

theorem suffix_cleaned (ends : t <:+ s) : t <:+ cleaned s := by
  have front : t <:+ s.dropWhile isOuter := by
    refine suffix_dropWhile (fun c isFirst => ?_) ends
    exact (visible_of_isOrdinary (tail.first c isFirst)).1
  have back : t <:+ (s.dropWhile isOuter).rdropWhile isOuter := by
    obtain ⟨before, whole⟩ := front
    have kept : (before ++ t).rdropWhile isOuter = before ++ t := by
      rw [List.rdropWhile_eq_self_iff]
      intro some_
      have nonempty : t ≠ [] := by
        rintro rfl
        cases List.suffix_nil.mp tail.last
      rw [List.getLast_append_of_ne_nil _ nonempty, (tail.visible (List.getLast_mem nonempty)).1]
      exact Bool.false_ne_true
    rw [← whole, kept]
    exact List.suffix_append before t
  have same : t.filter (fun c => !isDropped c) = t :=
    List.filter_eq_self.mpr fun c member => by simp [(tail.visible member).2]
  rw [← same]
  exact back.filter _

theorem suffix_withSlashes (ends : t <:+ s) : t <:+ withSlashes s := by
  have same : withSlashes t = t := by
    refine (List.map_congr_left fun c member => if_neg ?_).trans (List.map_id t)
    rintro rfl
    exact tail.notMem (by decide) (by decide) member
  rw [← same]
  exact ends.map _

/-- The word is not part of what stands before the first slash. -/
theorem suffix_splitSlash (ends : t <:+ s) : '/' :: w <:+ (splitSlash s).2 :=
  suffix_dropWhile (by simp) (tail.last.trans ends)

theorem suffix_webPlace? {usual : Option Nat} {a : Option Authority} {path : List Char}
    (ends : t <:+ s) (placed : webPlace? usual s = some (a, path)) : '/' :: w <:+ path := by
  have server : t <:+ (withSlashes s).dropWhile (· = '/') := by
    refine suffix_dropWhile (fun c isFirst => ?_) (tail.suffix_withSlashes ends)
    simpa using tail.first_notSlash isFirst
  simp only [webPlace?, Option.bind_eq_bind, Option.bind_eq_some_iff] at placed
  obtain ⟨⟨b, behind⟩, -, placed⟩ := placed
  split at placed
  · cases placed
  · cases placed
    exact tail.word.suffix_pathOf (.inr (tail.suffix_splitSlash server))

theorem suffix_filePlace? {a : Option Authority} {path : List Char} (ends : t <:+ s)
    (placed : filePlace? s = some (a, path)) : '/' :: w <:+ path := by
  have slashes := tail.suffix_withSlashes ends
  unfold filePlace? at placed
  split at placed
  · rename_i rest written
    rw [written] at slashes
    have behind := tail.suffix_of_slash (tail.suffix_of_slash slashes)
    have path : EndsIn w (splitSlash rest).2 := .inr (tail.suffix_splitSlash behind)
    dsimp only at placed
    split at placed
    · cases placed
      exact tail.word.suffix_filePath (.inr (tail.last.trans behind))
    · simp only [Option.bind_eq_bind, Option.bind_eq_some_iff] at placed
      obtain ⟨host, -, placed⟩ := placed
      split at placed
      · cases placed
        exact tail.word.suffix_filePath path
      · cases placed
        exact tail.word.suffix_filePath (tail.word.endsIn_dropSlash path)
  · cases placed
    exact tail.word.suffix_filePath
      (tail.word.endsIn_dropSlash (.inr (tail.last.trans slashes)))

theorem suffix_escaped {keep : UInt8 → Bool} (lasting : Lasting keep) (ends : t <:+ s) :
    '/' :: w <:+ escaped keep s := by
  obtain ⟨front, rfl⟩ := ends
  rw [escaped_append, escaped_of_forall lasting tail.plain]
  exact tail.last.trans (List.suffix_append _ t)

theorem suffix_generalPlace? {a : Option Authority} {path : List Char} (ends : t <:+ s)
    (placed : generalPlace? s = some (a, path)) : '/' :: w <:+ path := by
  unfold generalPlace? at placed
  split at placed
  · rename_i rest
    have behind := tail.suffix_of_slash (tail.suffix_of_slash ends)
    simp only [Option.bind_eq_bind, Option.bind_eq_some_iff] at placed
    obtain ⟨⟨b, more⟩, -, placed⟩ := placed
    have path := (tail.suffix_splitSlash behind).trans (List.suffix_append more _)
    split at placed
    · rename_i empty
      rw [List.isEmpty_iff.mp empty] at path
      cases List.suffix_nil.mp path
    · cases placed
      exact tail.word.suffix_pathOf (.inr path)
  · cases placed
    exact tail.word.suffix_pathOf (.inr (tail.last.trans (tail.suffix_of_slash ends)))
  · cases placed
    exact tail.suffix_escaped lasting_inOpaque ends

/-! ## The whole -/

theorem suffix_cutScheme {scheme rest : List Char} (ends : t <:+ s)
    (cut : cutScheme s = some (scheme, rest)) : t <:+ rest := by
  simp only [cutScheme] at cut
  split at cut
  · rename_i behind drop
    split at cut
    · cases cut
      rw [← List.take_append_drop _ s, drop] at ends
      exact suffix_of_append_mark (tail.notMem (by decide) (by decide)) ends
    · cases cut
  · cases cut

/-- The query or the fragment ends in the word if there is one, and else what stands in
front of them does. -/
theorem suffix_splitTail (ends : t <:+ s) :
    (∃ front query fragment, splitTail s = (front, query, some fragment) ∧ t <:+ fragment) ∨
      (∃ front query, splitTail s = (front, some query, none) ∧ t <:+ query) ∨
        splitTail s = (s, none, none) := by
  have noHash : '#' ∉ t := tail.notMem (by decide) (by decide)
  have noQuestion : '?' ∉ t := tail.notMem (by decide) (by decide)
  rcases suffix_of_cutFirst noHash ends with whole | ⟨before, fragment, cut, later⟩
  · rcases suffix_of_cutFirst noQuestion ends with alone | ⟨front, query, cut, later⟩
    · refine .inr (.inr ?_)
      simp only [splitTail, whole, alone]
    · refine .inr (.inl ⟨front, query, ?_, later⟩)
      simp only [splitTail, whole, cut]
  · refine .inl ⟨(cutFirst '?' before).1, (cutFirst '?' before).2, fragment, ?_, later⟩
    simp only [splitTail, cut]

end Tail

/-- The part that a URL ends in: its fragment, or else its query, or else its path. -/
def lastPart (u : Url) : List Char := (u.fragment.or u.query).getD u.path

theorem lastPart_withoutCredentials (u : Url) : u.withoutCredentials.lastPart = u.lastPart := rfl

theorem suffix_place (u : Url) : u.path <:+ u.place := by
  rw [place]
  split
  · exact List.suffix_append _ _
  · split
    · exact (List.suffix_cons _ _).trans (List.suffix_cons _ _)
    · exact List.suffix_rfl

theorem suffix_text (u : Url) : u.lastPart <:+ u.text.toList := by
  obtain ⟨scheme, authority, path, query, fragment⟩ := u
  rw [text, String.toList_ofList]
  cases fragment with
  | some fragment => exact (List.suffix_cons '#' fragment).trans (List.suffix_append _ _)
  | none =>
    rw [Authority.marked, List.append_nil]
    cases query with
    | some query => exact (List.suffix_cons '?' query).trans (List.suffix_append _ _)
    | none =>
      rw [Authority.marked, List.append_nil]
      have path := suffix_place ⟨scheme, authority, path, none, none⟩
      exact (path.trans (List.suffix_cons ':' _)).trans (List.suffix_append scheme _)

/-- **Wherever a text ends in a word behind a slash, its URL does**, if it has one. -/
theorem Tail.suffix_lastPart {w t : List Char} (tail : Tail w t) {text : String} {u : Url}
    (ends : t <:+ text.toList) (parsed : parse? text = some u) : '/' :: w <:+ u.lastPart := by
  simp only [parse?, Option.bind_eq_bind, Option.bind_eq_some_iff] at parsed
  obtain ⟨⟨scheme, rest⟩, cut, parsed⟩ := parsed
  have behindScheme := tail.suffix_cutScheme (tail.suffix_cleaned ends) cut
  -- of the path it does by each of the three rules, if the word is not behind it
  obtain ⟨authority, path, placed, rfl⟩ : ∃ authority path,
      (t <:+ (splitTail rest).1 → '/' :: w <:+ path) ∧
        u = ⟨scheme, authority, path,
          (splitTail rest).2.1.map (escaped (inQuery (kindOf scheme != .general))),
          (splitTail rest).2.2.map (escaped inFragment)⟩ := by
    dsimp only at parsed
    split at parsed
    all_goals
      simp only [Option.bind_eq_some_iff, Option.some.injEq] at parsed
      obtain ⟨⟨authority, path⟩, placed, rfl⟩ := parsed
      refine ⟨authority, path, fun front => ?_, rfl⟩
    · exact tail.suffix_webPlace? front placed
    · exact tail.suffix_filePlace? front placed
    · exact tail.suffix_generalPlace? front placed
  rcases tail.suffix_splitTail behindScheme with
    ⟨front, query, fragment, split, later⟩ | ⟨front, query, split, later⟩ | whole
  · rw [split]
    exact tail.suffix_escaped lasting_inFragment later
  · rw [split]
    exact tail.suffix_escaped (lasting_inQuery _) later
  · rw [whole] at placed ⊢
    exact placed behindScheme

end PortPool.Url
