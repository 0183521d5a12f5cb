/-
# PortPool.Proofs.Client.TargetGrammar -- what is a target

A target is typed as one port or as two with a colon between them, the first not above the
last.  A port is a numeral of at most 65535 with blanks around it; the numeral may have a
plus sign and zeros in front (`IsPort`).  `Typed` and `Flawed` say of which texts which
target is meant, and what is told of all others; between them they leave no text out
(`typed_or_flawed`), and the parser does what they say (`parse_grammar`).
-/
import PortPool.Client.Target
import PortPool.Proofs.Except
import PortPool.Proofs.Text.Blank
import PortPool.Proofs.Text.Numeral
import PortPool.Proofs.Text.Split

namespace PortPool.Client

set_option autoImplicit false

open Text (Numeral.Unsigned Numeral.decimal Numeral.digits isBlank)

/-! ## The grammar -/

/-- The text is a port: blanks, a numeral of it, and blanks again. -/
def IsPort (text : List Char) (p : PortNumber) : Prop :=
  ∃ before numeral after, text = before ++ numeral ++ after ∧ Numeral.Unsigned numeral p.val ∧
    (∀ c ∈ before, isBlank c = true) ∧ ∀ c ∈ after, isBlank c = true

/-- A text and the target that it means. -/
inductive Typed : List Char → Target → Prop
  | port {s : List Char} {p : PortNumber} (unparted : ':' ∉ s) (number : IsPort s p) :
    Typed s (.port p)
  | span {s t : List Char} {p q : PortNumber} (unparted : ':' ∉ s) (single : ':' ∉ t)
    (first : IsPort s p) (last : IsPort t q) (ordered : p ≤ q) :
    Typed (s ++ ':' :: t) (.span p q)

/-- A text that means none, and what is told of it: the first part that is no port, or the
two ports, which stand the wrong way round. -/
inductive Flawed : List Char → TargetFlaw → Prop
  | port {s : List Char} (unparted : ':' ∉ s) (bad : ∀ p, ¬IsPort s p) :
    Flawed s (.noPort (String.ofList s))
  | first {s t : List Char} (unparted : ':' ∉ s) (bad : ∀ p, ¬IsPort s p) :
    Flawed (s ++ ':' :: t) (.noPort (String.ofList s))
  | last {s t : List Char} {p : PortNumber} (unparted : ':' ∉ s) (first : IsPort s p)
    (bad : ∀ q, ¬IsPort t q) : Flawed (s ++ ':' :: t) (.noPort (String.ofList t))
  | reversed {s t : List Char} {p q : PortNumber} (unparted : ':' ∉ s) (first : IsPort s p)
    (last : IsPort t q) (reversed : q < p) : Flawed (s ++ ':' :: t) (.reversed p.val q.val)

/-! ## Ports -/

theorem plain_of_mem_unsigned {s : List Char} {n : Nat} (numeral : Numeral.Unsigned s n) {c : Char}
    (member : c ∈ s) : isBlank c = false ∧ c ≠ ':' := by
  have digit : ∀ d < 10, isBlank (Nat.digitChar d) = false ∧ Nat.digitChar d ≠ ':' := by decide
  cases numeral with
  | plain numeral =>
    obtain ⟨d, small, rfl⟩ := numeral.isDigit member
    exact digit d small
  | plus numeral =>
    rcases List.mem_cons.mp member with rfl | member
    · decide
    · obtain ⟨d, small, rfl⟩ := numeral.isDigit member
      exact digit d small

theorem IsPort.unparted {s : List Char} {p : PortNumber} (port : IsPort s p) : ':' ∉ s := by
  obtain ⟨before, numeral, after, rfl, isNumeral, blankBefore, blankAfter⟩ := port
  have visible : isBlank ':' = false := by decide
  intro member
  rw [List.mem_append, List.mem_append] at member
  rcases member with (member | member) | member
  · exact absurd (blankBefore _ member) (by simp [visible])
  · exact (plain_of_mem_unsigned isNumeral member).2 rfl
  · exact absurd (blankAfter _ member) (by simp [visible])

/-- A text is a port if what is left of it without the blanks around it is a numeral. -/
theorem isPort_iff {s : List Char} {p : PortNumber} :
    IsPort s p ↔ Numeral.Unsigned (Text.trim s) p.val := by
  constructor
  · rintro ⟨before, numeral, after, rfl, isNumeral, blankBefore, blankAfter⟩
    have plain : ∀ c ∈ numeral, isBlank c = false := fun c member =>
      (plain_of_mem_unsigned isNumeral member).1
    rwa [Text.trim_around blankBefore plain blankAfter]
  · intro isNumeral
    obtain ⟨before, after, split, blankBefore, blankAfter⟩ := Text.exists_trim s
    exact ⟨before, Text.trim s, after, split, isNumeral, blankBefore, blankAfter⟩

theorem isPort_digits (p : PortNumber) : IsPort (Numeral.digits p.val) p :=
  ⟨[], Numeral.digits p.val, [], by simp,
    Text.Numeral.unsigned?_eq_some_iff.mp (Text.Numeral.unsigned?_digits p.val), nofun, nofun⟩

namespace Target

theorem portOf_eq_ok_iff {s : List Char} {p : PortNumber} : portOf s = .ok p ↔ IsPort s p := by
  rw [isPort_iff, ← Text.Numeral.unsigned?_eq_some_iff, portOf]
  cases Text.Numeral.unsigned? 10 (Text.trim s) with
  | none => simp
  | some n =>
    by_cases small : n < 65536
    · simp [small, Fin.ext_iff]
    · have other : n ≠ p.val := by
        have := p.isLt
        omega
      simp [small, other]

theorem portOf_of_bad {s : List Char} (bad : ∀ p, ¬IsPort s p) :
    portOf s = .error (.noPort (String.ofList s)) := by
  cases read : portOf s with
  | ok p => exact absurd (portOf_eq_ok_iff.mp read) (bad p)
  | error flaw =>
    -- there is one thing only that can be told of what is no port
    unfold portOf at read
    split at read
    · split at read <;> cases read
      rfl
    · cases read
      rfl

/-! ## Targets -/

variable {input : String}

theorem parse_of_unparted (unparted : ':' ∉ input.toList) :
    parse input = (portOf input.toList).map .port := by
  have whole : Text.cutFirst ':' input.toList = (input.toList, none) :=
    Text.cutFirst_of_forall fun c member => by
      rintro rfl
      exact unparted member
  rw [parse, whole]

theorem parse_of_parted {s t : List Char} (split : input.toList = s ++ ':' :: t)
    (unparted : ':' ∉ s) : parse input = (do
      let first ← portOf s
      let last ← portOf t
      if last < first then .error (.reversed first.val last.val) else pure (.span first last)) := by
  have parts : Text.cutFirst ':' input.toList = (s, some t) := by
    rw [split]
    refine Text.cutFirst_append (fun c member => ?_) t
    rintro rfl
    exact unparted member
  rw [parse, parts]

theorem parse_of_typed {target : Target} {s : List Char} (typed : Typed s target)
    (same : input.toList = s) : parse input = .ok target := by
  cases typed with
  | port unparted number =>
    subst same
    rw [parse_of_unparted unparted, portOf_eq_ok_iff.mpr number, map_ok]
  | span unparted _ first last ordered =>
    rw [parse_of_parted same unparted, portOf_eq_ok_iff.mpr first, portOf_eq_ok_iff.mpr last]
    simp only [bind_ok, pure_eq_ok, if_neg (Fin.not_lt.mpr ordered)]

theorem parse_of_flawed {flaw : TargetFlaw} {s : List Char} (flawed : Flawed s flaw)
    (same : input.toList = s) : parse input = .error flaw := by
  cases flawed with
  | port unparted bad =>
    subst same
    rw [parse_of_unparted unparted, portOf_of_bad bad, map_error]
  | first unparted bad => rw [parse_of_parted same unparted, portOf_of_bad bad, bind_error]
  | last unparted first bad =>
    rw [parse_of_parted same unparted, portOf_eq_ok_iff.mpr first, portOf_of_bad bad, bind_ok,
      bind_error]
  | reversed unparted first last reversed =>
    rw [parse_of_parted same unparted, portOf_eq_ok_iff.mpr first, portOf_eq_ok_iff.mpr last]
    simp only [bind_ok, if_pos reversed]

/-- Every text means a target or has a flaw. -/
theorem typed_or_flawed (s : List Char) :
    (∃ target, Typed s target) ∨ ∃ flaw, Flawed s flaw := by
  rcases Text.cutFirst_cases ':' s with ⟨unparted, -⟩ | ⟨first, last, rfl, unparted, -⟩
  · by_cases number : ∃ p, IsPort s p
    · obtain ⟨p, number⟩ := number
      exact .inl ⟨_, .port unparted number⟩
    · exact .inr ⟨_, .port unparted (not_exists.mp number)⟩
  · by_cases isFirst : ∃ p, IsPort first p
    · obtain ⟨p, isFirst⟩ := isFirst
      by_cases isLast : ∃ q, IsPort last q
      · obtain ⟨q, isLast⟩ := isLast
        by_cases ordered : p ≤ q
        · exact .inl ⟨_, .span unparted isLast.unparted isFirst isLast ordered⟩
        · exact .inr ⟨_, .reversed unparted isFirst isLast (Fin.not_le.mp ordered)⟩
      · exact .inr ⟨_, .last unparted isFirst (not_exists.mp isLast)⟩
    · exact .inr ⟨_, .first unparted (not_exists.mp isFirst)⟩

theorem parse_eq_ok_iff {target : Target} : parse input = .ok target ↔ Typed input.toList target := by
  constructor
  · intro parsed
    rcases typed_or_flawed input.toList with ⟨other, typed⟩ | ⟨flaw, flawed⟩
    · obtain ⟨⟩ := parsed.symm.trans (parse_of_typed typed rfl)
      exact typed
    · cases parsed.symm.trans (parse_of_flawed flawed rfl)
  · exact fun typed => parse_of_typed typed rfl

theorem parse_eq_error_iff {flaw : TargetFlaw} :
    parse input = .error flaw ↔ Flawed input.toList flaw := by
  constructor
  · intro parsed
    rcases typed_or_flawed input.toList with ⟨target, typed⟩ | ⟨other, flawed⟩
    · cases parsed.symm.trans (parse_of_typed typed rfl)
    · obtain ⟨⟩ := parsed.symm.trans (parse_of_flawed flawed rfl)
      exact flawed
  · exact fun flawed => parse_of_flawed flawed rfl

/-! ## Texts of targets -/

/-- The shortest text of a target. -/
def text : Target → String
  | .port p => Numeral.decimal p.val
  | .span p q => Numeral.decimal p.val ++ ":" ++ Numeral.decimal q.val

/-- A span does not end before it begins. -/
def Ordered : Target → Prop
  | .port _ => True
  | .span p q => p ≤ q

theorem typed_text {target : Target} (ordered : target.Ordered) :
    Typed target.text.toList target := by
  have digits (p : PortNumber) : (Numeral.decimal p.val).toList = Numeral.digits p.val :=
    String.toList_ofList
  cases target with
  | port p =>
    rw [text, digits]
    exact .port (isPort_digits p).unparted (isPort_digits p)
  | span p q =>
    have colon : ":".toList = [':'] := rfl
    rw [text, String.toList_append, String.toList_append, digits, digits, colon, List.append_assoc,
      List.singleton_append]
    exact .span (isPort_digits p).unparted (isPort_digits q).unparted (isPort_digits p)
      (isPort_digits q) ordered

theorem Ordered.of_typed {target : Target} {s : List Char} (typed : Typed s target) :
    target.Ordered := by
  cases typed with
  | port => exact trivial
  | span _ _ _ _ ordered => exact ordered

/-- What is made of a text that is to be a target. -/
structure Grammar (text : List Char) (answer : Except TargetFlaw Target) : Prop where
  ok_iff : ∀ target, answer = .ok target ↔ Typed text target
  error_iff : (∃ flaw, answer = .error flaw) ↔ ∀ target, ¬Typed text target
  flaw_iff : ∀ flaw, answer = .error flaw ↔ Flawed text flaw

/-- **Exactly what the grammar says is a target is read as one**, whatever else is refused for
the flaw that it has, and a target comes back from its text unless it ends before it begins. -/
theorem parse_grammar :
    (∀ text : String, Grammar text.toList (parse text)) ∧
      ∀ target : Target, parse target.text = .ok target ↔ target.Ordered := by
  constructor
  · intro text
    refine ⟨fun _ => parse_eq_ok_iff, ?_, fun _ => parse_eq_error_iff⟩
    constructor
    · rintro ⟨flaw, refused⟩ target typed
      cases refused.symm.trans (parse_of_typed typed rfl)
    · intro none
      rcases typed_or_flawed text.toList with ⟨target, typed⟩ | ⟨flaw, flawed⟩
      · exact absurd typed (none target)
      · exact ⟨flaw, parse_of_flawed flawed rfl⟩
  · intro target
    constructor
    · intro parsed
      exact .of_typed (parse_eq_ok_iff.mp parsed)
    · intro ordered
      exact parse_of_typed (typed_text ordered) rfl

example : parse " +08000 :8002" = .ok (.span 8000 8002) := by decide

example : parse "8002:8000" = .error (.reversed 8002 8000) := by decide

end Target

end PortPool.Client
