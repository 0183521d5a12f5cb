/-
# PortPool.Proofs.Json.Token -- the tokens of a rendered value

`Value.spelling` lists the tokens that the text of a value is made of, and
`tokens_render` says that the lexer finds just these.  The lexer is followed through
the text with `Lexer.read`, from left to right.

A numeral has no end of its own: it is a token only once an octet follows that does
not belong to it.  That is why the text of a value is always read together with the
comma or bracket behind it, or to the end (`scan_render`).
-/
import PortPool.Proofs.Json.Numeral
import PortPool.Proofs.Text.Utf8

namespace PortPool.Json

set_option autoImplicit false

open PortPool.Text
open PortPool.Text.Utf8 (octetsOf toNat_ofNat)

namespace Lexer

/-! ## Reading characters -/

/-- The reader after some more characters. -/
def read (s : State) (text : List Char) : State := (Utf8.encode text).foldl step s

@[simp]
theorem read_nil (s : State) : read s [] = s := rfl

theorem read_append (s : State) (text rest : List Char) :
    read s (text ++ rest) = read (read s text) rest := by
  simp only [read, Utf8.encode, List.flatMap_append, List.foldl_append]

theorem read_cons (s : State) (c : Char) (rest : List Char) :
    read s (c :: rest) = read ((octetsOf c.toNat).foldl step s) rest := by
  simp only [read, Utf8.encode, List.flatMap_cons, List.foldl_append, Utf8.utf8EncodeChar_eq]

theorem read_ascii (s : State) {c : Char} (ascii : c.toNat < 0x80) (rest : List Char) :
    read s (c :: rest) = read (step s (.ofNat c.toNat)) rest := by
  rw [read_cons, Utf8.octetsOf_ascii ascii, List.foldl_cons, List.foldl_nil]

variable {ts : List Token}

/-! ## Numerals -/

theorem decimalDigit?_ofNat {d : Nat} (small : d < 10) :
    decimalDigit? (.ofNat (0x30 + d)) = some d := by
  rw [decimalDigit?, toNat_ofNat (by omega), if_pos (by omega), Nat.add_sub_cancel_left]

theorem read_digit (s : State) {d : Nat} (small : d < 10) (rest : List Char) :
    read s (Nat.digitChar d :: rest) = read (step s (.ofNat (0x30 + d))) rest := by
  rw [read_ascii s (by rw [Numeral.toNat_digitChar small]; omega),
    Numeral.toNat_digitChar small]

theorem step_numeral {u v : Unfinished} {b : UInt8} (more : u.extend? b = some v) :
    step ⟨.numeral u, ts⟩ b = ⟨.numeral v, ts⟩ := by
  simp only [step, inNumeral, more]

/-- A digit opens a numeral. -/
theorem outside_digit {d : Nat} (small : d < 10) (nonzero : d ≠ 0) :
    outside ts (.ofNat (0x30 + d)) = ⟨.numeral ⟨.whole, false, [d], [], false, []⟩, ts⟩ := by
  have other (c : UInt8) (apart : c.toNat < 0x30 ∨ 0x39 < c.toNat) :
      (UInt8.ofNat (0x30 + d) = c) = False := by
    apply eq_false
    intro same
    have := toNat_ofNat (show 0x30 + d < 256 by omega)
    rw [same] at this
    omega
  simp only [outside, isGap, other 0x20 (by decide), other 0x0A (by decide),
    other 0x0D (by decide), other 0x09 (by decide), other 0x5B (by decide),
    other 0x5D (by decide), other 0x7B (by decide), other 0x7D (by decide),
    other 0x2C (by decide), other 0x3A (by decide), other 0x22 (by decide),
    other 0x6E (by decide), other 0x74 (by decide), other 0x66 (by decide),
    other 0x2D (by decide), decimalDigit?_ofNat small, decide_false, Bool.or_self, if_false]
  cases d with
  | zero => exact absurd rfl nonzero
  | succ d => rfl

/-- The numeral with one more digit in the part that is being read. -/
def Unfinished.push (u : Unfinished) (d : Nat) : Unfinished :=
  match u.part with
  | .whole => { u with whole := d :: u.whole }
  | .fraction => { u with fraction := d :: u.fraction }
  | .exponent => { u with exponent := d :: u.exponent }
  | _ => u

theorem read_digits {u : Unfinished} {ds : List Nat} (small : ∀ d ∈ ds, d < 10)
    (running : u.part = .whole ∨ u.part = .fraction ∨ u.part = .exponent) :
    read ⟨.numeral u, ts⟩ (ds.map Nat.digitChar) = ⟨.numeral (ds.foldl Unfinished.push u), ts⟩ := by
  induction ds generalizing u with
  | nil => rfl
  | cons d ds ih =>
    have isDigit := decimalDigit?_ofNat (small d List.mem_cons_self)
    have more : u.extend? (.ofNat (0x30 + d)) = some (u.push d) := by
      rcases running with part | part | part <;>
        simp only [Unfinished.extend?, Unfinished.push, part, isDigit]
    have samePart : (u.push d).part = u.part := by
      rcases running with part | part | part <;> simp only [Unfinished.push, part]
    rw [List.map_cons, read_digit _ (small d List.mem_cons_self), step_numeral more,
      ih (fun e member => small e (List.mem_cons_of_mem _ member)) (by rwa [samePart]),
      List.foldl_cons]

theorem foldl_push_whole {negative : Bool} {w ds : List Nat} :
    ds.foldl Unfinished.push ⟨.whole, negative, w, [], false, []⟩ =
      ⟨.whole, negative, ds.reverse ++ w, [], false, []⟩ := by
  induction ds generalizing w with
  | nil => rfl
  | cons d ds ih => simp [Unfinished.push, ih]

theorem foldl_push_fraction {negative : Bool} {w f ds : List Nat} :
    ds.foldl Unfinished.push ⟨.fraction, negative, w, f, false, []⟩ =
      ⟨.fraction, negative, w, ds.reverse ++ f, false, []⟩ := by
  induction ds generalizing f with
  | nil => rfl
  | cons d ds ih => simp [Unfinished.push, ih]

theorem foldl_push_exponent {negative down : Bool} {w f e ds : List Nat} :
    ds.foldl Unfinished.push ⟨.exponent, negative, w, f, down, e⟩ =
      ⟨.exponent, negative, w, f, down, ds.reverse ++ e⟩ := by
  induction ds generalizing e with
  | nil => rfl
  | cons d ds ih => simp [Unfinished.push, ih]

end Lexer

/-! ## Whole numerals -/

/-- The part that the digits before the point leave open. -/
def Numeral.wholePart (n : Numeral) : Lexer.Part := if n.whole = [0] then .zero else .whole

/-- The part that a numeral ends in. -/
def Numeral.lastPart (n : Numeral) : Lexer.Part :=
  if n.exponent.isSome then .exponent
  else if n.fraction = [] then n.wholePart
  else .fraction

namespace Lexer

variable {ts : List Token}

/-- The digits before the point, with the sign. -/
theorem read_whole {n : Numeral} (written : n.Written) :
    read ⟨.between, ts⟩ ((if n.negative then ['-'] else []) ++ n.whole.map Nat.digitChar) =
      ⟨.numeral ⟨n.wholePart, n.negative, n.whole.reverse, [], false, []⟩, ts⟩ := by
  obtain ⟨d, ds, split, alone, small⟩ := written.whole
  have first := small d List.mem_cons_self
  have isDigit := decimalDigit?_ofNat first
  have rest (e : Nat) (member : e ∈ ds) : e < 10 := small e (List.mem_cons_of_mem _ member)
  rw [Numeral.wholePart, split]
  by_cases zero : d = 0
  · subst zero
    rw [alone rfl]
    cases n.negative <;> rfl
  · have notZero : d :: ds ≠ [0] := by simp [zero]
    rw [if_neg notZero]
    -- the first digit opens the part, with the sign or without
    have opened : read ⟨.between, ts⟩ ((if n.negative then ['-'] else []) ++ [Nat.digitChar d]) =
        ⟨.numeral ⟨.whole, n.negative, [d], [], false, []⟩, ts⟩ := by
      cases n.negative with
      | false => exact (read_digit _ first []).trans (outside_digit first zero)
      | true =>
        have more : Unfinished.extend? ⟨.sign, true, [], [], false, []⟩ (.ofNat (0x30 + d)) =
            some ⟨.whole, true, [d], [], false, []⟩ := by
          cases d with
          | zero => exact absurd rfl zero
          | succ d => simp only [Unfinished.extend?, isDigit]
        exact (read_digit ⟨.numeral ⟨.sign, true, [], [], false, []⟩, ts⟩ first []).trans
          (step_numeral more)
    rw [List.map_cons, List.append_cons, read_append, opened, read_digits rest (.inl rfl),
      foldl_push_whole]
    simp

theorem read_fraction {part : Part} {negative : Bool} {w ds : List Nat}
    (isWhole : part = .zero ∨ part = .whole) (small : ∀ d ∈ ds, d < 10) :
    read ⟨.numeral ⟨part, negative, w, [], false, []⟩, ts⟩ (fractionChars ds) =
      ⟨.numeral ⟨if ds = [] then part else .fraction, negative, w, ds.reverse, false, []⟩, ts⟩ := by
  cases ds with
  | nil => rfl
  | cons d ds =>
    have first := small d List.mem_cons_self
    have point : Unfinished.extend? ⟨part, negative, w, [], false, []⟩ 0x2E =
        some ⟨.point, negative, w, [], false, []⟩ := by
      rcases isWhole with rfl | rfl <;> rfl
    have opened : Unfinished.extend? ⟨.point, negative, w, [], false, []⟩ (.ofNat (0x30 + d)) =
        some ⟨.fraction, negative, w, [d], false, []⟩ := by
      simp only [Unfinished.extend?, decimalDigit?_ofNat first]
    rw [fractionChars, if_neg (by simp), if_neg (by simp), List.map_cons,
      read_ascii _ (by decide) _, show UInt8.ofNat '.'.toNat = 0x2E from rfl,
      step_numeral point, read_digit _ first, step_numeral opened,
      read_digits (fun e member => small e (List.mem_cons_of_mem _ member)) (.inr (.inl rfl)),
      foldl_push_fraction]
    simp

theorem read_exponent {part : Part} {negative down : Bool} {w f ds : List Nat}
    (isOpen : part = .zero ∨ part = .whole ∨ part = .fraction) (some_ : ds ≠ [])
    (small : ∀ d ∈ ds, d < 10) :
    read ⟨.numeral ⟨part, negative, w, f, false, []⟩, ts⟩ (exponentChars (some (down, ds))) =
      ⟨.numeral ⟨.exponent, negative, w, f, down, ds.reverse⟩, ts⟩ := by
  cases ds with
  | nil => exact absurd rfl some_
  | cons d ds =>
    have first := small d List.mem_cons_self
    have isDigit := decimalDigit?_ofNat first
    have mark : Unfinished.extend? ⟨part, negative, w, f, false, []⟩ 0x65 =
        some ⟨.mark, negative, w, f, false, []⟩ := by
      rcases isOpen with rfl | rfl | rfl <;> rfl
    -- the first digit comes after the mark or after its sign
    have opened : read ⟨.numeral ⟨.mark, negative, w, f, false, []⟩, ts⟩
        ((if down then ['-'] else []) ++ [Nat.digitChar d]) =
        ⟨.numeral ⟨.exponent, negative, w, f, down, [d]⟩, ts⟩ := by
      cases down with
      | false =>
        have more : Unfinished.extend? ⟨.mark, negative, w, f, false, []⟩ (.ofNat (0x30 + d)) =
            some ⟨.exponent, negative, w, f, false, [d]⟩ := by
          simp only [Unfinished.extend?, isDigit]
        exact (read_digit _ first []).trans (step_numeral more)
      | true =>
        have more : Unfinished.extend? ⟨.exponentSign, negative, w, f, true, []⟩
            (.ofNat (0x30 + d)) = some ⟨.exponent, negative, w, f, true, [d]⟩ := by
          simp only [Unfinished.extend?, isDigit]
        exact (read_digit ⟨.numeral ⟨.exponentSign, negative, w, f, true, []⟩, ts⟩ first []).trans
          (step_numeral more)
    rw [exponentChars, read_ascii _ (by decide) _, show UInt8.ofNat 'e'.toNat = 0x65 from rfl,
      step_numeral mark, List.map_cons, List.append_cons, read_append, opened,
      read_digits (fun e member => small e (List.mem_cons_of_mem _ member)) (.inr (.inr rfl)),
      foldl_push_exponent]
    simp

/-- The numeral is complete but for the octet that ends it. -/
def Unfinished.of (n : Numeral) : Unfinished :=
  ⟨n.lastPart, n.negative, n.whole.reverse, n.fraction.reverse,
    (n.exponent.map (·.1)).getD false, ((n.exponent.map (·.2)).getD []).reverse⟩

theorem wholePart_cases (n : Numeral) : n.wholePart = .zero ∨ n.wholePart = .whole := by
  unfold Numeral.wholePart
  split
  · exact .inl rfl
  · exact .inr rfl

theorem read_chars {n : Numeral} (written : n.Written) :
    read ⟨.between, ts⟩ n.chars = ⟨.numeral (.of n), ts⟩ := by
  have isWhole := wholePart_cases n
  rw [Numeral.chars, read_append, read_append, read_whole written,
    read_fraction isWhole written.fraction, Unfinished.of, Numeral.lastPart]
  cases isExponent : n.exponent with
  | none => rfl
  | some mark =>
    obtain ⟨down, ds⟩ := mark
    obtain ⟨some_, small⟩ := written.exponent down ds isExponent
    refine read_exponent ?_ some_ small
    split
    · rcases isWhole with part | part
      · exact .inl part
      · exact .inr (.inl part)
    · exact .inr (.inr rfl)

/-- It may end where it is, and is then the numeral. -/
theorem done?_of (n : Numeral) : (Unfinished.of n).done? = some n := by
  obtain ⟨negative, w, f, exponent⟩ := n
  cases exponent with
  | some mark => simp [Unfinished.of, Unfinished.done?, Numeral.lastPart]
  | none =>
    cases f with
    | cons d ds => simp [Unfinished.of, Unfinished.done?, Numeral.lastPart]
    | nil =>
      rcases wholePart_cases ⟨negative, w, [], none⟩ with part | part <;>
        simp [Unfinished.of, Unfinished.done?, Numeral.lastPart, part]

/-- A comma or a closing bracket ends it. -/
theorem step_of {n : Numeral} {b : UInt8} (closes : b = 0x2C ∨ b = 0x5D ∨ b = 0x7D) :
    step ⟨.numeral (.of n), ts⟩ b = step ⟨.between, .numeral n :: ts⟩ b := by
  have notDigit : decimalDigit? b = none := by rcases closes with rfl | rfl | rfl <;> rfl
  have noMore : (Unfinished.of n).extend? b = none := by
    have part : (Unfinished.of n).part = .zero ∨ (Unfinished.of n).part = .whole ∨
        (Unfinished.of n).part = .fraction ∨ (Unfinished.of n).part = .exponent := by
      have := wholePart_cases n
      simp only [Unfinished.of, Numeral.lastPart]
      split
      · exact .inr (.inr (.inr rfl))
      · split
        · rcases this with part | part
          · exact .inl part
          · exact .inr (.inl part)
        · exact .inr (.inr (.inl rfl))
    rcases closes with rfl | rfl | rfl <;> rcases part with part | part | part | part <;>
      simp [Unfinished.extend?, part, notDigit]
  simp [step, inNumeral, noMore, done?_of, notDigit]

end Lexer

/-! ## Strings -/

/-- The pieces that a character is read as: an escape, where no letter stands for it,
and otherwise its octets. -/
def piecesOf (c : Char) : List Piece :=
  if c.toNat < 0x20 ∧ c.toNat ∉ [0x08, 0x09, 0x0A, 0x0C, 0x0D] then [.unit c.toNat]
  else (octetsOf c.toNat).map .octet

/-- The pieces of a string. -/
def textPieces (s : String) : List Piece := s.toList.flatMap piecesOf

namespace Lexer

variable {ts : List Token} {ps : List Piece}

theorem foldl_plain {bs : List UInt8}
    (plain : ∀ b ∈ bs, b ≠ 0x22 ∧ b ≠ 0x5C ∧ 0x20 ≤ b.toNat) :
    bs.foldl step ⟨.text ps, ts⟩ = ⟨.text ((bs.map .octet).reverse ++ ps), ts⟩ := by
  induction bs generalizing ps with
  | nil => rfl
  | cons b bs ih =>
    obtain ⟨notQuote, notEscape, large⟩ := plain b List.mem_cons_self
    have one : step ⟨.text ps, ts⟩ b = ⟨.text (.octet b :: ps), ts⟩ := by
      simp only [step, if_neg notQuote, if_neg notEscape, if_neg (Nat.not_lt.mpr large)]
    rw [List.foldl_cons, one, ih fun c member => plain c (List.mem_cons_of_mem _ member)]
    simp

/-- The digits of an escape denote the character. -/
theorem unit?_hexDigit {n : Nat} (small : n < 0x20) :
    (Numeral.hexDigit (n / 16)).toNat < 0x80 ∧ (Numeral.hexDigit (n % 16)).toNat < 0x80 ∧
      unit? [0x30, 0x30, .ofNat (Numeral.hexDigit (n / 16)).toNat,
        .ofNat (Numeral.hexDigit (n % 16)).toNat] = some n := by
  have all : ∀ n < 0x20,
      (Numeral.hexDigit (n / 16)).toNat < 0x80 ∧ (Numeral.hexDigit (n % 16)).toNat < 0x80 ∧
        unit? [0x30, 0x30, .ofNat (Numeral.hexDigit (n / 16)).toNat,
          .ofNat (Numeral.hexDigit (n % 16)).toNat] = some n := by decide +kernel
  exact all n small

theorem read_escapeChar (c : Char) :
    read ⟨.text ps, ts⟩ (escapeChar c) = ⟨.text ((piecesOf c).reverse ++ ps), ts⟩ := by
  by_cases letter : c.toNat ∈ [0x22, 0x5C, 0x08, 0x09, 0x0A, 0x0C, 0x0D]
  · -- a letter behind the backslash stands for it
    simp only [List.mem_cons, List.not_mem_nil, or_false] at letter
    unfold escapeChar piecesOf
    rcases letter with same | same | same | same | same | same | same <;> rw [same] <;> rfl
  simp only [List.mem_cons, List.not_mem_nil, or_false, not_or] at letter
  obtain ⟨notQuote, notEscape, notB, notT, notN, notF, notR⟩ := letter
  unfold escapeChar piecesOf
  simp only [if_neg notQuote, if_neg notEscape, if_neg notB, if_neg notT, if_neg notN,
    if_neg notF, if_neg notR]
  by_cases small : c.toNat < 0x20
  · obtain ⟨ascii, asciiToo, isUnit⟩ := unit?_hexDigit small
    have opened : read ⟨.text ps, ts⟩ ['\\', 'u', '0', '0'] = ⟨.hex ps [0x30, 0x30], ts⟩ := rfl
    rw [if_pos small, if_pos ⟨small, by simp [notB, notT, notN, notF, notR]⟩]
    change read _ (['\\', 'u', '0', '0'] ++ [_, _]) = _
    rw [read_append, opened, read_ascii _ ascii, read_ascii _ asciiToo, read_nil]
    simp only [step, isUnit]
    rfl
  · rw [if_neg small, if_neg (fun both => small both.1), read_cons, read_nil]
    apply foldl_plain
    intro b member
    by_cases ascii : c.toNat < 0x80
    · rw [Utf8.octetsOf_ascii ascii, List.mem_singleton] at member
      have value := toNat_ofNat (show c.toNat < 256 by omega)
      rw [← member] at value
      refine ⟨?_, ?_, by omega⟩
      · rintro rfl
        exact notQuote value.symm
      · rintro rfl
        exact notEscape value.symm
    · have large := Utf8.le_toNat_of_mem_octetsOf (Nat.not_lt.mp ascii) member
      refine ⟨?_, ?_, by omega⟩
      · rintro rfl
        exact absurd large (by decide)
      · rintro rfl
        exact absurd large (by decide)

theorem read_escapes (s : List Char) :
    read ⟨.text ps, ts⟩ (s.flatMap escapeChar) =
      ⟨.text ((s.flatMap piecesOf).reverse ++ ps), ts⟩ := by
  induction s generalizing ps with
  | nil => rfl
  | cons c s ih =>
    rw [List.flatMap_cons, read_append, read_escapeChar, ih]
    simp

theorem read_quote (s : String) (rest : List Char) :
    read ⟨.between, ts⟩ (quote s ++ rest) = read ⟨.between, .text (textPieces s) :: ts⟩ rest := by
  have opened : step ⟨.between, ts⟩ 0x22 = ⟨.text [], ts⟩ := rfl
  simp only [quote, List.cons_append, List.append_assoc, List.nil_append]
  rw [read_ascii _ (by decide), show UInt8.ofNat '"'.toNat = 0x22 from rfl, opened, read_append,
    read_escapes, read_ascii _ (by decide), show UInt8.ofNat '"'.toNat = 0x22 from rfl]
  simp [step, textPieces]

end Lexer

/-! ## Values -/

namespace Value

mutual

/-- The tokens of a value. -/
def spelling : Value → List Token
  | .null => [.null]
  | .flag b => [.flag b]
  | .number n => [.numeral n.numeral]
  | .text s => [.text (textPieces s)]
  | .array [] => [.openArray, .closeArray]
  | .array (v :: vs) => .openArray :: spelling v ++ itemsSpelling vs
  | .object [] => [.openObject, .closeObject]
  | .object ((name, v) :: ms) =>
    .openObject :: .text (textPieces name) :: .colon :: spelling v ++ membersSpelling ms

/-- The tokens of the items after the first, and of the bracket. -/
def itemsSpelling : List Value → List Token
  | [] => [.closeArray]
  | v :: vs => .comma :: spelling v ++ itemsSpelling vs

/-- The tokens of the members after the first, and of the brace. -/
def membersSpelling : List (String × Value) → List Token
  | [] => [.closeObject]
  | (name, v) :: ms =>
    .comma :: .text (textPieces name) :: .colon :: spelling v ++ membersSpelling ms

end

mutual

/-- Every number within satisfies `p`. -/
def Each (p : Number → Prop) : Value → Prop
  | .number n => p n
  | .null | .flag _ | .text _ => True
  | .array items => EachItem p items
  | .object members => EachMember p members

/-- Every number within the items satisfies `p`. -/
def EachItem (p : Number → Prop) : List Value → Prop
  | [] => True
  | v :: vs => Each p v ∧ EachItem p vs

/-- Every number within the members satisfies `p`. -/
def EachMember (p : Number → Prop) : List (String × Value) → Prop
  | [] => True
  | (_, v) :: ms => Each p v ∧ EachMember p ms

end

theorem eachItem_iff {p : Number → Prop} {vs : List Value} :
    EachItem p vs ↔ ∀ v ∈ vs, v.Each p := by
  induction vs with
  | nil => simp [EachItem]
  | cons v vs ih => simp [EachItem, ih]

theorem eachMember_iff {p : Number → Prop} {ms : List (String × Value)} :
    EachMember p ms ↔ ∀ m ∈ ms, m.2.Each p := by
  induction ms with
  | nil => simp [EachMember]
  | cons m ms ih => simp [EachMember, ih]

mutual

theorem Each.imp {p q : Number → Prop} (weaker : ∀ n, p n → q n) (v : Value) (each : v.Each p) :
    v.Each q := by
  cases v with
  | null | flag | text => trivial
  | number n => exact weaker n each
  | array items => exact EachItem.imp weaker items each
  | object members => exact EachMember.imp weaker members each

theorem EachItem.imp {p q : Number → Prop} (weaker : ∀ n, p n → q n) (vs : List Value)
    (each : EachItem p vs) : EachItem q vs := by
  cases vs with
  | nil => trivial
  | cons v vs => exact ⟨Each.imp weaker v each.1, EachItem.imp weaker vs each.2⟩

theorem EachMember.imp {p q : Number → Prop} (weaker : ∀ n, p n → q n)
    (ms : List (String × Value)) (each : EachMember p ms) : EachMember q ms := by
  cases ms with
  | nil => trivial
  | cons m ms => exact ⟨Each.imp weaker m.2 each.1, EachMember.imp weaker ms each.2⟩

end

mutual

theorem Each.and {p q : Number → Prop} (v : Value) (one : v.Each p) (other : v.Each q) :
    v.Each fun n => p n ∧ q n := by
  cases v with
  | null | flag | text => trivial
  | number n => exact ⟨one, other⟩
  | array items => exact EachItem.and items one other
  | object members => exact EachMember.and members one other

theorem EachItem.and {p q : Number → Prop} (vs : List Value) (one : EachItem p vs)
    (other : EachItem q vs) : EachItem (fun n => p n ∧ q n) vs := by
  cases vs with
  | nil => trivial
  | cons v vs => exact ⟨Each.and v one.1 other.1, EachItem.and vs one.2 other.2⟩

theorem EachMember.and {p q : Number → Prop} (ms : List (String × Value))
    (one : EachMember p ms) (other : EachMember q ms) :
    EachMember (fun n => p n ∧ q n) ms := by
  cases ms with
  | nil => trivial
  | cons m ms => exact ⟨Each.and m.2 one.1 other.1, EachMember.and ms one.2 other.2⟩

end

end Value

namespace Lexer

open Value

variable {ts : List Token}

/-- The tokens of a text, behind those found before it, latest first. -/
def scan (ts : List Token) (text : List Char) : List Token := finish (read ⟨.between, ts⟩ text)

theorem scan_mark {t : Token} {c : Char} (ascii : c.toNat < 0x80)
    (mark : step ⟨.between, ts⟩ (.ofNat c.toNat) = ⟨.between, t :: ts⟩) (rest : List Char) :
    scan ts (c :: rest) = scan (t :: ts) rest := by
  rw [scan, read_ascii _ ascii, mark, scan]

theorem scan_quote (s : String) (rest : List Char) :
    scan ts (quote s ++ rest) = scan (.text (textPieces s) :: ts) rest :=
  congrArg finish (read_quote s rest)

/-- Nothing follows, or a comma or a closing bracket. -/
def Closed (rest : List Char) : Prop :=
  rest = [] ∨ ∃ c cs, (c = ',' ∨ c = ']' ∨ c = '}') ∧ rest = c :: cs

theorem renderItems_closed (vs : List Value) (rest : List Char) :
    Closed (renderItems vs ++ rest) := by
  cases vs with
  | nil => exact .inr ⟨_, _, .inr (.inl rfl), rfl⟩
  | cons v vs => exact .inr ⟨_, _, .inl rfl, rfl⟩

theorem renderMembers_closed (ms : List (String × Value)) (rest : List Char) :
    Closed (renderMembers ms ++ rest) := by
  cases ms with
  | nil => exact .inr ⟨_, _, .inr (.inr rfl), rfl⟩
  | cons m ms => exact .inr ⟨_, _, .inl rfl, rfl⟩

/-- A numeral ends with the text, or before what closes it. -/
theorem scan_numeral {n : Number} (plain : n.Plain) {rest : List Char} (closed : Closed rest) :
    scan ts (n.render ++ rest) = scan (.numeral n.numeral :: ts) rest := by
  rw [scan, Number.render_eq_chars, read_append, read_chars (Number.numeral_written plain)]
  rcases closed with rfl | ⟨c, cs, closes, rfl⟩
  · simp only [read_nil, finish, done?_of, scan]
  · have ascii : c.toNat < 0x80 := by rcases closes with rfl | rfl | rfl <;> decide
    have octet : UInt8.ofNat c.toNat = 0x2C ∨ UInt8.ofNat c.toNat = 0x5D ∨
        UInt8.ofNat c.toNat = 0x7D := by
      rcases closes with rfl | rfl | rfl
      · exact .inl rfl
      · exact .inr (.inl rfl)
      · exact .inr (.inr rfl)
    rw [scan, read_ascii _ ascii, read_ascii _ ascii, step_of octet]

mutual

theorem scan_render (v : Value) (plain : v.Each Number.Plain) (ts : List Token) {rest : List Char}
    (closed : Closed rest) :
    scan ts (render v ++ rest) = scan (v.spelling.reverse ++ ts) rest := by
  cases v with
  | null => rfl
  | flag b => cases b <;> rfl
  | number n => exact scan_numeral plain closed
  | text s => exact scan_quote s rest
  | array items =>
    cases items with
    | nil => rfl
    | cons v vs =>
      simp only [render, List.cons_append, List.append_assoc]
      rw [scan_mark (by decide) rfl, scan_render v plain.1 _ (renderItems_closed vs rest),
        scan_renderItems vs plain.2]
      simp [spelling]
  | object members =>
    cases members with
    | nil => rfl
    | cons m ms =>
      obtain ⟨name, v⟩ := m
      simp only [render, List.cons_append, List.append_assoc]
      rw [scan_mark (by decide) rfl, scan_quote, scan_mark (by decide) rfl,
        scan_render v plain.1 _ (renderMembers_closed ms rest), scan_renderMembers ms plain.2]
      simp [spelling]

theorem scan_renderItems (vs : List Value) (plain : EachItem Number.Plain vs) (ts : List Token)
    (rest : List Char) :
    scan ts (renderItems vs ++ rest) = scan ((itemsSpelling vs).reverse ++ ts) rest := by
  cases vs with
  | nil => rfl
  | cons v vs =>
    simp only [renderItems, List.cons_append, List.append_assoc]
    rw [scan_mark (by decide) rfl, scan_render v plain.1 _ (renderItems_closed vs rest),
      scan_renderItems vs plain.2]
    simp [itemsSpelling]

theorem scan_renderMembers (ms : List (String × Value)) (plain : EachMember Number.Plain ms)
    (ts : List Token) (rest : List Char) :
    scan ts (renderMembers ms ++ rest) = scan ((membersSpelling ms).reverse ++ ts) rest := by
  cases ms with
  | nil => rfl
  | cons m ms =>
    obtain ⟨name, v⟩ := m
    simp only [renderMembers, List.cons_append, List.append_assoc]
    rw [scan_mark (by decide) rfl, scan_quote, scan_mark (by decide) rfl,
      scan_render v plain.1 _ (renderMembers_closed ms rest), scan_renderMembers ms plain.2]
    simp [membersSpelling]

end

end Lexer

/-- **The lexer finds the tokens of a value in its text.** -/
theorem tokens_render {v : Value} (plain : v.Each Number.Plain) :
    tokens (Utf8.encode v.render) = v.spelling := by
  have scanned := Lexer.scan_render v plain [] (.inl rfl)
  rw [List.append_nil, List.append_nil] at scanned
  refine Eq.trans ?_ (scanned.trans (List.reverse_reverse _))
  rfl

end PortPool.Json
