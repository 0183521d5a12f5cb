/-
# PortPool.Proofs.Json.Numeral -- numbers as numerals

The text of a number is that of a numeral (`Number.render_eq_chars`): a whole number
is its digits, any other number is written in one of four ways, by the place of its
point (`placed`).  All of them keep the grammar (`Number.numeral_written`), as long
as the digits do not begin with a zero (`Number.Plain`).
-/
import PortPool.Json.Render
import PortPool.Json.Token
import PortPool.Proofs.Text.Numeral

namespace PortPool.Json

set_option autoImplicit false

open PortPool.Text (Numeral.digitValues)
open PortPool.Decimal (Binary64 Shortest.shortest)

/-! ## Numerals -/

/-- A numeral as it can be written: its digits are digits, there is one before the
point and after the mark of an exponent, and no zero leads others. -/
structure Numeral.Written (n : Numeral) : Prop where
  whole : ∃ d ds, n.whole = d :: ds ∧ (d = 0 → ds = []) ∧ ∀ e ∈ d :: ds, e < 10
  fraction : ∀ d ∈ n.fraction, d < 10
  exponent : ∀ down ds, n.exponent = some (down, ds) → ds ≠ [] ∧ ∀ d ∈ ds, d < 10

/-- A fraction with its point; none if it has no digits. -/
def fractionChars (ds : List Nat) : List Char :=
  if ds = [] then [] else '.' :: ds.map Nat.digitChar

/-- An exponent with its mark. -/
def exponentChars : Option (Bool × List Nat) → List Char
  | none => []
  | some (down, ds) => 'e' :: ((if down then ['-'] else []) ++ ds.map Nat.digitChar)

/-- The text of a numeral. -/
def Numeral.chars (n : Numeral) : List Char :=
  (if n.negative then ['-'] else []) ++ n.whole.map Nat.digitChar ++ fractionChars n.fraction ++
    exponentChars n.exponent

/-! ## The numeral of a number -/

/-- The numeral of digits with the point `point` places behind their beginning. -/
def placed (negative : Bool) (ds : List Nat) (power : Int) : Numeral :=
  let point := (ds.length : Int) + power
  if 0 ≤ power ∧ point ≤ 16 then ⟨negative, ds ++ List.replicate power.toNat 0, [0], none⟩
  else if 0 < point ∧ point ≤ 16 then
    ⟨negative, ds.take point.toNat, ds.drop point.toNat, none⟩
  else if -5 < point ∧ point ≤ 0 then
    ⟨negative, [0], List.replicate point.natAbs 0 ++ ds, none⟩
  else
    ⟨negative, ds.take 1, ds.drop 1,
      some (point - 1 < 0, Numeral.digitValues (point - 1).natAbs)⟩

namespace Number

/-- The numeral that a number is written as. -/
def numeral : Number → Numeral
  | .whole i => ⟨i < 0, Numeral.digitValues i.natAbs, [], none⟩
  | .real x =>
    if x.isZero then ⟨x.negative, [0], [0], none⟩
    else placed x.negative (Numeral.digitValues (Shortest.shortest x).digits)
      (Shortest.shortest x).power

/-- A number with a fraction has digits to be written, unless it is zero. -/
def Plain : Number → Prop
  | .whole _ => True
  | .real x => x.isZero = false → (Shortest.shortest x).digits ≠ 0

end Number

theorem written_digitValues (n : Nat) :
    ∃ d ds, Numeral.digitValues n = d :: ds ∧ (d = 0 → ds = []) ∧ ∀ e ∈ d :: ds, e < 10 := by
  cases split : Numeral.digitValues n with
  | nil => exact absurd split (Text.Numeral.digitValues_ne_nil n)
  | cons d ds =>
    refine ⟨d, ds, rfl, fun zero => ?_, fun e member => ?_⟩
    · have := Text.Numeral.digitValues_cons split zero
      subst this
      rw [Text.Numeral.digitValues_of_lt (by decide), List.cons.injEq] at split
      exact split.2.symm
    · rw [← split] at member
      exact Text.Numeral.lt_of_mem_digitValues member

/-- Digits that do not begin with a zero can be placed anywhere. -/
theorem placed_written {negative : Bool} {d : Nat} {ds : List Nat} {power : Int}
    (nonzero : d ≠ 0) (small : ∀ e ∈ d :: ds, e < 10) :
    (placed negative (d :: ds) power).Written := by
  unfold placed
  simp only
  split
  · refine ⟨⟨d, ds ++ List.replicate power.toNat 0, rfl, fun zero => absurd zero nonzero, ?_⟩,
      by simp, by simp⟩
    intro e member
    rw [← List.cons_append, List.mem_append] at member
    rcases member with front | padding
    · exact small e front
    · rw [(List.mem_replicate.mp padding).2]
      decide
  split
  · rename_i within
    obtain ⟨k, isSucc⟩ : ∃ k, (((d :: ds).length : Int) + power).toNat = k + 1 :=
      Nat.exists_eq_succ_of_ne_zero (by omega)
    rw [isSucc]
    refine ⟨⟨d, ds.take k, rfl, fun zero => absurd zero nonzero, ?_⟩, ?_, by simp⟩
    · intro e member
      rw [← List.take_succ_cons] at member
      exact small e (List.mem_of_mem_take member)
    · exact fun e member => small e (List.mem_of_mem_drop member)
  split
  · refine ⟨⟨0, [], rfl, fun _ => rfl, by simp⟩, fun e member => ?_, by simp⟩
    rcases List.mem_append.mp member with padding | back
    · rw [(List.mem_replicate.mp padding).2]
      decide
    · exact small e back
  · refine ⟨⟨d, [], rfl, fun _ => rfl, ?_⟩, ?_, ?_⟩
    · exact fun e member => small e (List.mem_of_mem_take (i := 1) member)
    · exact fun e member => small e (List.mem_of_mem_drop member)
    · rintro down es same
      simp only [Option.some.injEq, Prod.mk.injEq] at same
      obtain ⟨-, rfl⟩ := same
      exact ⟨Text.Numeral.digitValues_ne_nil _, fun e => Text.Numeral.lt_of_mem_digitValues⟩

namespace Number

theorem numeral_written {n : Number} (plain : n.Plain) : n.numeral.Written := by
  cases n with
  | whole i => exact ⟨written_digitValues _, by simp [numeral], by simp [numeral]⟩
  | real x =>
    cases zero : x.isZero with
    | true =>
      simp only [numeral, zero, if_true]
      exact ⟨⟨0, [], rfl, fun _ => rfl, by simp⟩, by simp, by simp⟩
    | false =>
      obtain ⟨d, ds, split, alone, small⟩ := written_digitValues (Shortest.shortest x).digits
      have nonzero : d ≠ 0 := fun same =>
        plain zero (Text.Numeral.digitValues_cons split same)
      simp only [numeral, zero, Bool.false_eq_true, if_false, split]
      exact placed_written nonzero small

theorem toList_signed (i : Int) :
    (Text.Numeral.signed i).toList = (if i < 0 then ['-'] else []) ++
      (Numeral.digitValues i.natAbs).map Nat.digitChar := by
  rw [← Text.Numeral.digits_eq]
  unfold Text.Numeral.signed Text.Numeral.decimal
  split <;> simp

/-- The body of a number that is no whole one, as `placed` has it. -/
theorem chars_placed (negative : Bool) {ds : List Nat} (power : Int) (some_ : ds ≠ []) :
    (placed negative ds power).chars = (if negative then ['-'] else []) ++
      (let point := (ds.length : Int) + power
      if 0 ≤ power ∧ point ≤ 16 then
        ds.map Nat.digitChar ++ List.replicate power.toNat '0' ++ ['.', '0']
      else if 0 < point ∧ point ≤ 16 then
        (ds.map Nat.digitChar).take point.toNat ++ '.' :: (ds.map Nat.digitChar).drop point.toNat
      else if -5 < point ∧ point ≤ 0 then
        '0' :: '.' :: List.replicate point.natAbs '0' ++ ds.map Nat.digitChar
      else
        (ds.map Nat.digitChar).take 1 ++
          (if ds.drop 1 = [] then [] else '.' :: (ds.map Nat.digitChar).drop 1) ++
          'e' :: (Text.Numeral.signed (point - 1)).toList) := by
  have zero : Nat.digitChar 0 = '0' := rfl
  unfold placed Numeral.chars
  simp only
  split
  · simp [fractionChars, exponentChars, zero]
  split
  · rename_i large within
    have some_ : ds.drop (((ds.length : Int) + power).toNat) ≠ [] := by
      rw [Ne, List.drop_eq_nil_iff]
      omega
    simp [fractionChars, exponentChars, some_]
  split
  · simp [fractionChars, exponentChars, some_]
  · simp [fractionChars, exponentChars, toList_signed]

theorem render_eq_chars (n : Number) : n.render = n.numeral.chars := by
  cases n with
  | whole i =>
    rw [render, toList_signed]
    simp [numeral, Numeral.chars, fractionChars, exponentChars]
  | real x =>
    cases zero : x.isZero with
    | true => cases sign : x.negative <;> simp [render, Decimal.Shortest.text, numeral, zero, sign,
        Numeral.chars, fractionChars, exponentChars]
    | false =>
      obtain ⟨d, ds, split, -, -⟩ := written_digitValues (Shortest.shortest x).digits
      simp only [render, Decimal.Shortest.text, numeral, zero, Bool.false_eq_true, if_false]
      rw [chars_placed _ _ (Text.Numeral.digitValues_ne_nil _), Text.Numeral.digits_eq, split]
      cases ds <;> cases x.negative <;> simp

end Number

end PortPool.Json
