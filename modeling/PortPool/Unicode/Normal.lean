/-
# PortPool.Unicode.Normal -- one spelling for each text

The same text can be written in several ways: with a composite or with its parts,
and with marks of different classes in any order.  `composed` gives one of them:
everything is taken apart, the marks of each character are put in the order of
their classes, and what can be written as a composite is.
-/
import PortPool.Unicode.Combining
import PortPool.Unicode.Decomposition

namespace PortPool.Unicode

set_option autoImplicit false

/-! ## Korean syllables

A syllable has a leading consonant, a vowel and perhaps a trailing consonant.
All syllables stand in one block in the order of these three. -/

namespace Syllable

def block : Span := ⟨0xAC00, 0xD7A3⟩
def leading : Span := ⟨0x1100, 0x1112⟩
def vowels : Span := ⟨0x1161, 0x1175⟩
def trailing : Span := ⟨0x11A8, 0x11C2⟩

/-- One more than there are trailing consonants. -/
def endings : Nat := 28

/-- The parts of a syllable. -/
def parts (c : Char) : List Char :=
  let n := c.toNat - block.first
  let ending := n % endings
  let opening := n / endings
  [Char.ofNat (leading.first + opening / 21), Char.ofNat (vowels.first + opening % 21)] ++
    if ending = 0 then [] else [Char.ofNat (trailing.first + ending - 1)]

/-- The syllable of a consonant and a vowel, or of an open syllable and a
consonant. -/
def join? (a b : Char) : Option Char :=
  if leading.has a && vowels.has b then
    let opening := (a.toNat - leading.first) * 21 + (b.toNat - vowels.first)
    some (Char.ofNat (block.first + opening * endings))
  else if block.has a && (a.toNat - block.first) % endings == 0 && trailing.has b then
    some (Char.ofNat (a.toNat + (b.toNat - trailing.first + 1)))
  else none

end Syllable

/-! ## Taking apart -/

/-- The parts of a character.  The base of a composite may be one itself, at most
`depth` times. -/
def partsOf : Nat → Char → List Char
  | 0, c => [c]
  | depth + 1, c =>
    if Syllable.block.has c then Syllable.parts c
    else
      match note? variants c with
      | some parts => parts
      | none =>
        match note? composites c with
        | some (base :: marks) => partsOf depth base ++ marks
        | _ => [c]

/-- Put a character behind others, latest first: a mark goes in front of the
marks of higher classes. -/
def place (c : Char) : List Char → List Char
  | [] => [c]
  | d :: before =>
    if combiningClass c ≠ 0 ∧ combiningClass c < combiningClass d then d :: place c before
    else c :: d :: before

/-- A text taken apart, its marks in order. -/
def decomposed (s : List Char) : List Char :=
  ((s.flatMap (partsOf 4)).foldl (fun before c => place c before) []).reverse

/-! ## Putting together -/

/-- The composite of two characters. -/
def join? (a b : Char) : Option Char :=
  match Syllable.join? a b with
  | some c => some c
  | none => (composites.find? fun r => r.2 == [a, b]).map fun r => Char.ofNat r.1.first

/-- A text that is being put together: what is finished, latest first; the
character that takes marks; and the marks behind it that it did not take, latest
first. -/
structure Composing where
  done : List Char
  base : Option Char
  marks : List Char
deriving Repr

/-- Add a character.  It joins the base unless a mark in between has its class or
a higher one. -/
def Composing.add (s : Composing) (c : Char) : Composing :=
  match s.base with
  | none =>
    if combiningClass c = 0 then { s with base := some c } else { s with done := c :: s.done }
  | some base =>
    let free := s.marks.head?.all fun m => combiningClass m < combiningClass c
    match if free then join? base c else none with
    | some joined => { s with base := some joined }
    | none =>
      if combiningClass c = 0 then ⟨s.marks ++ base :: s.done, some c, []⟩
      else { s with marks := c :: s.marks }

/-- The text as far as it was put together. -/
def Composing.text (s : Composing) : List Char :=
  (s.marks ++ s.base.toList ++ s.done).reverse

/-- The one spelling of a text. -/
def composed (s : List Char) : List Char :=
  ((decomposed s).foldl Composing.add ⟨[], none, []⟩).text

end PortPool.Unicode
