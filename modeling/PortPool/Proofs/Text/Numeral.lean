/-
# PortPool.Proofs.Text.Numeral -- decimal digits

A number and its decimal digits determine each other.  The digits are taken as
values here (`digitValues`), because readers meet them as characters, as octets and
as entries of a numeral; `digits_eq` is the way back to characters.  Zeros in front
change nothing, zeros behind multiply by ten.

What is read at all is said by a grammar: `Denotes` for one or more digits, `Unsigned` for
those behind a plus sign as well (`natOf?_eq_some_iff`, `unsigned?_eq_some_iff`).
-/
import Mathlib.Algebra.Ring.Nat
import Mathlib.Data.List.Induction
import PortPool.Text.Numeral

namespace PortPool.Text.Numeral

set_option autoImplicit false

/-- The values of the decimal digits of a number, most significant first. -/
def digitValues (n : Nat) : List Nat := (digits n).map fun c => c.toNat - 0x30

theorem toNat_digitChar {d : Nat} (small : d < 10) : (Nat.digitChar d).toNat = 0x30 + d := by
  have all : ∀ d < 10, (Nat.digitChar d).toNat = 0x30 + d := by decide
  exact all d small

theorem digitValues_of_lt {n : Nat} (small : n < 10) : digitValues n = [n] := by
  rw [digitValues, digits, Nat.toDigits_of_lt_base small, List.map_singleton,
    toNat_digitChar small, Nat.add_sub_cancel_left]

theorem digitValues_of_le {n : Nat} (large : 10 ≤ n) :
    digitValues n = digitValues (n / 10) ++ [n % 10] := by
  rw [digitValues, digits, Nat.toDigits_of_base_le (by decide) large, List.map_append,
    List.map_singleton, toNat_digitChar (Nat.mod_lt _ (by decide)), Nat.add_sub_cancel_left]
  rfl

/-- What holds of single digits, and of a number if of the number without its last
digit, holds of all. -/
theorem digit_induction {P : Nat → Prop} (single : ∀ n < 10, P n)
    (more : ∀ n, 10 ≤ n → P (n / 10) → P n) (n : Nat) : P n := by
  induction n using Nat.strongRecOn with
  | ind n ih =>
    rcases Nat.lt_or_ge n 10 with small | large
    · exact single n small
    · exact more n large (ih (n / 10) (Nat.div_lt_self (by omega) (by decide)))

theorem lt_of_mem_digitValues {n d : Nat} (member : d ∈ digitValues n) : d < 10 := by
  induction n using digit_induction with
  | single n small =>
    rw [digitValues_of_lt small, List.mem_singleton] at member
    omega
  | more n large ih =>
    rw [digitValues_of_le large, List.mem_append, List.mem_singleton] at member
    rcases member with front | rfl
    · exact ih front
    · exact Nat.mod_lt _ (by decide)

theorem digits_eq (n : Nat) : digits n = (digitValues n).map Nat.digitChar := by
  induction n using digit_induction with
  | single n small =>
    rw [digitValues_of_lt small, digits, Nat.toDigits_of_lt_base small, List.map_singleton]
  | more n large ih =>
    rw [digitValues_of_le large, List.map_append, ← ih, digits,
      Nat.toDigits_of_base_le (by decide) large]
    rfl

theorem ofDigits_append (base : Nat) (ds es : List Nat) :
    ofDigits base (ds ++ es) = es.foldl (fun n d => n * base + d) (ofDigits base ds) :=
  List.foldl_append

/-- **The digits of a number denote it.** -/
theorem ofDigits_digitValues (n : Nat) : ofDigits 10 (digitValues n) = n := by
  induction n using digit_induction with
  | single n small =>
    rw [digitValues_of_lt small]
    simp [ofDigits]
  | more n large ih =>
    rw [digitValues_of_le large, ofDigits_append, ih, List.foldl_cons, List.foldl_nil]
    omega

/-- Only zero begins with the digit zero. -/
theorem digitValues_cons {n d : Nat} {ds : List Nat} (split : digitValues n = d :: ds) :
    d = 0 → n = 0 := by
  induction n using digit_induction generalizing ds with
  | single n small =>
    rw [digitValues_of_lt small, List.cons.injEq] at split
    omega
  | more n large ih =>
    rw [digitValues_of_le large] at split
    intro zero
    cases front : digitValues (n / 10) with
    | nil =>
      rw [digitValues, List.map_eq_nil_iff] at front
      exact absurd front Nat.toDigits_ne_nil
    | cons e es =>
      rw [front, List.cons_append, List.cons.injEq] at split
      obtain ⟨rfl, -⟩ := split
      have := ih front zero
      omega

theorem digitValues_ne_nil (n : Nat) : digitValues n ≠ [] := by
  rw [digitValues, Ne, List.map_eq_nil_iff]
  exact Nat.toDigits_ne_nil

theorem length_digitValues_le_iff {n width : Nat} (some_ : 0 < width) :
    (digitValues n).length ≤ width ↔ n < 10 ^ width := by
  rw [digitValues, List.length_map]
  exact Nat.length_toDigits_le_iff (by decide) some_

/-! ## Reading digits -/

theorem digit?_digitChar {d : Nat} (small : d < 10) : digit? 10 (Nat.digitChar d) = some d := by
  have all : ∀ d < 10, digit? 10 (Nat.digitChar d) = some d := by decide
  exact all d small

theorem mapM_digit? {ds : List Nat} (small : ∀ d ∈ ds, d < 10) :
    (ds.map Nat.digitChar).mapM (digit? 10) = some ds := by
  induction ds with
  | nil => rfl
  | cons d ds ih =>
    rw [List.map_cons, List.mapM_cons, digit?_digitChar (small d List.mem_cons_self),
      ih fun e member => small e (List.mem_cons_of_mem _ member)]
    rfl

theorem natOf?_digits (n : Nat) : natOf? 10 (digits n) = some n := by
  have read := mapM_digit? fun d => lt_of_mem_digitValues (n := n) (d := d)
  rw [digits_eq]
  cases split : digitValues n with
  | nil => exact absurd split (digitValues_ne_nil n)
  | cons d ds =>
    rw [split] at read
    rw [List.map_cons] at read ⊢
    rw [natOf?, read, Option.map_some, ← split, ofDigits_digitValues]

theorem exists_of_mem_digits {n : Nat} {c : Char} (member : c ∈ digits n) :
    ∃ d < 10, Nat.digitChar d = c := by
  rw [digits_eq, List.mem_map] at member
  obtain ⟨d, among, same⟩ := member
  exact ⟨d, lt_of_mem_digitValues among, same⟩

/-- **What is written as a decimal numeral is read as one.** -/
theorem unsigned?_digits (n : Nat) : unsigned? 10 (digits n) = some n := by
  unfold unsigned?
  split
  · rename_i signed
    obtain ⟨d, small, isPlus⟩ : ∃ d < 10, Nat.digitChar d = '+' :=
      exists_of_mem_digits (signed ▸ List.mem_cons_self)
    have none : ∀ d < 10, Nat.digitChar d ≠ '+' := by decide
    exact absurd isPlus (none d small)
  · exact natOf?_digits n

/-! ## Zeros in front and behind -/

theorem ofDigits_zeros (k : Nat) (ds : List Nat) :
    ofDigits 10 (List.replicate k 0 ++ ds) = ofDigits 10 ds := by
  induction k with
  | zero => rfl
  | succ k ih =>
    rw [List.replicate_succ, List.cons_append, ofDigits, List.foldl_cons, ← ih]
    rfl

theorem ofDigits_append_zeros (ds : List Nat) (k : Nat) :
    ofDigits 10 (ds ++ List.replicate k 0) = ofDigits 10 ds * 10 ^ k := by
  induction k with
  | zero => simp
  | succ k ih =>
    rw [List.replicate_succ', ← List.append_assoc, ofDigits_append, ih, List.foldl_cons,
      List.foldl_nil, Nat.pow_succ, Nat.mul_assoc, Nat.add_zero]

/-- The values of the digits that a number is padded to. -/
def paddedValues (width n : Nat) : List Nat :=
  List.replicate (width - (digitValues n).length) 0 ++ digitValues n

theorem padded_eq (width n : Nat) : padded width n = (paddedValues width n).map Nat.digitChar := by
  have zero : Nat.digitChar 0 = '0' := rfl
  rw [padded, paddedValues, digits_eq, List.length_map, List.map_append, List.map_replicate, zero]

theorem paddedValues_ne_nil (width n : Nat) : paddedValues width n ≠ [] := by
  simp [paddedValues, digitValues_ne_nil]

theorem length_paddedValues {width n : Nat} (some_ : 0 < width) (fits : n < 10 ^ width) :
    (paddedValues width n).length = width := by
  have := (length_digitValues_le_iff some_).mpr fits
  rw [paddedValues, List.length_append, List.length_replicate]
  omega

theorem lt_of_mem_paddedValues {width n d : Nat} (member : d ∈ paddedValues width n) : d < 10 := by
  rw [paddedValues, List.mem_append] at member
  rcases member with padding | digit
  · rw [(List.mem_replicate.mp padding).2]
    decide
  · exact lt_of_mem_digitValues digit

theorem ofDigits_paddedValues (width n : Nat) : ofDigits 10 (paddedValues width n) = n := by
  rw [paddedValues, ofDigits_zeros, ofDigits_digitValues]

/-! ## The grammar -/

/-- One or more decimal digits, and the number that they denote. -/
inductive Denotes : List Char → Nat → Prop
  | digit (d : Fin 10) : Denotes [Nat.digitChar d] d
  | more {s : List Char} {n : Nat} (front : Denotes s n) (d : Fin 10) :
    Denotes (s ++ [Nat.digitChar d]) (10 * n + d)

/-- A decimal numeral that a plus sign may precede. -/
inductive Unsigned : List Char → Nat → Prop
  | plain {s : List Char} {n : Nat} (numeral : Denotes s n) : Unsigned s n
  | plus {s : List Char} {n : Nat} (numeral : Denotes s n) : Unsigned ('+' :: s) n

theorem Denotes.isDigit {s : List Char} {n : Nat} (numeral : Denotes s n) {c : Char}
    (member : c ∈ s) : ∃ d < 10, Nat.digitChar d = c := by
  induction numeral with
  | digit d => exact ⟨d, d.isLt, (List.mem_singleton.mp member).symm⟩
  | more _ d ih =>
    rcases List.mem_append.mp member with front | last
    · exact ih front
    · exact ⟨d, d.isLt, (List.mem_singleton.mp last).symm⟩

theorem Denotes.ne_nil {s : List Char} {n : Nat} (numeral : Denotes s n) : s ≠ [] := by
  cases numeral <;> simp

theorem digit?_eq_some_iff {c : Char} {d : Nat} :
    digit? 10 c = some d ↔ d < 10 ∧ Nat.digitChar d = c := by
  constructor
  · intro read
    obtain ⟨value, small⟩ := Option.filter_eq_some_iff.mp read
    rw [decide_eq_true_eq] at small
    refine ⟨small, Char.toNat_inj.mp ?_⟩
    rw [toNat_digitChar small]
    split at value
    · cases value
      omega
    -- a letter is worth ten or more
    · split at value
      · cases value
        omega
      · split at value
        · cases value
          omega
        · cases value
  · rintro ⟨small, rfl⟩
    exact digit?_digitChar small

theorem natOf?_concat (base : Nat) {s : List Char} (some_ : s ≠ []) (c : Char) :
    natOf? base (s ++ [c]) =
      (natOf? base s).bind fun n => (digit? base c).map fun d => n * base + d := by
  obtain ⟨first, rest, rfl⟩ := List.exists_cons_of_ne_nil some_
  simp only [List.cons_append, natOf?]
  rw [← List.cons_append, List.mapM_append]
  cases front : (first :: rest).mapM (digit? base) with
  | none => rfl
  | some ds =>
    cases last : digit? base c with
    | none => simp [last]
    | some d => simp [last, ofDigits_append]

theorem natOf?_singleton (base : Nat) (c : Char) : natOf? base [c] = digit? base c := by
  cases digit : digit? base c <;> simp [natOf?, digit, ofDigits]

/-- **What is read as a number is what denotes it.** -/
theorem natOf?_eq_some_iff {s : List Char} {n : Nat} : natOf? 10 s = some n ↔ Denotes s n := by
  constructor
  · intro read
    induction s using List.reverseRecOn generalizing n with
    | nil => cases read
    | append_singleton s c ih =>
      by_cases single : s = []
      · subst single
        rw [List.nil_append, natOf?_singleton] at read
        obtain ⟨small, rfl⟩ := digit?_eq_some_iff.mp read
        exact .digit ⟨n, small⟩
      · rw [natOf?_concat 10 single, Option.bind_eq_some_iff] at read
        obtain ⟨m, front, read⟩ := read
        obtain ⟨d, digit, rfl⟩ := Option.map_eq_some_iff.mp read
        obtain ⟨small, rfl⟩ := digit?_eq_some_iff.mp digit
        rw [Nat.mul_comm]
        exact .more (ih front) ⟨d, small⟩
  · intro numeral
    induction numeral with
    | digit d => rw [natOf?_singleton, digit?_digitChar d.isLt]
    | more front d ih =>
      rw [natOf?_concat 10 front.ne_nil, ih, Option.bind_some, digit?_digitChar d.isLt, Option.map_some,
        Nat.mul_comm]

theorem unsigned?_eq_some_iff {s : List Char} {n : Nat} :
    unsigned? 10 s = some n ↔ Unsigned s n := by
  constructor
  · intro read
    unfold unsigned? at read
    split at read
    · exact .plus (natOf?_eq_some_iff.mp read)
    · exact .plain (natOf?_eq_some_iff.mp read)
  · rintro (numeral | numeral)
    · have read := natOf?_eq_some_iff.mpr numeral
      unfold unsigned?
      split
      · -- no numeral begins with a sign
        obtain ⟨d, small, isPlus⟩ := numeral.isDigit (c := '+') List.mem_cons_self
        have other : ∀ d < 10, Nat.digitChar d ≠ '+' := by decide
        exact absurd isPlus (other d small)
      · exact read
    · exact natOf?_eq_some_iff.mpr numeral

end PortPool.Text.Numeral
