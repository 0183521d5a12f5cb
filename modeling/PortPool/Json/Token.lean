/-
# PortPool.Json.Token -- the tokens of a JSON text

A text is read once, octet by octet, into tokens: punctuation, words, numerals
and strings.  Reading stops at the first octet that no token can have there, or
at the end of the text within a token; the last token then is a `Tear`, which
says how the text broke off.

A string is kept in pieces, octets and `\u` escapes, because whether its escapes
pair up and its octets are UTF-8 only matters where the string is used; a
numeral is kept as its digits for the same reason.
-/
import PortPool.Text.Numeral

namespace PortPool.Json

set_option autoImplicit false

/-- Why a text is refused: it is no JSON, it ends too early, or its value does
not have the form asked for. -/
inductive Refusal where
  | malformed
  | truncated
  | mismatched
deriving DecidableEq, Repr

/-- A part of a string: an octet, or the sixteen bits of a `\u` escape. -/
inductive Piece where
  | octet (b : UInt8)
  | unit (bits : Nat)
deriving DecidableEq, Repr

/-- A number as written. -/
structure Numeral where
  negative : Bool
  whole : List Nat
  fraction : List Nat
  exponent : Option (Bool × List Nat)
deriving DecidableEq, Repr

/-- How a text breaks off.  Within a string the pieces read so far are kept,
because a fault among them comes first. -/
inductive Tear where
  | plain (cause : Refusal)
  | inText (pieces : List Piece) (cause : Refusal)
  | inNumeral
deriving DecidableEq, Repr

/-- A token. -/
inductive Token where
  | openArray
  | closeArray
  | openObject
  | closeObject
  | comma
  | colon
  | null
  | flag (b : Bool)
  | numeral (n : Numeral)
  | text (pieces : List Piece)
  | torn (t : Tear)
deriving DecidableEq, Repr

namespace Lexer

/-- The part of a numeral that is being read. -/
inductive Part where
  | sign
  | zero
  | whole
  | point
  | fraction
  | mark
  | exponentSign
  | exponent
deriving DecidableEq, Repr

/-- A numeral being read, its digits latest first. -/
structure Unfinished where
  part : Part
  negative : Bool
  whole : List Nat
  fraction : List Nat
  exponentNegative : Bool
  exponent : List Nat
deriving DecidableEq, Repr

/-- What the reader is within. -/
inductive Mode where
  | between
  | word (rest : List UInt8) (token : Token)
  | numeral (digits : Unfinished)
  | text (pieces : List Piece)
  | escape (pieces : List Piece)
  | hex (pieces : List Piece) (digits : List UInt8)
  | stopped
deriving DecidableEq, Repr

/-- The reader between two octets, its tokens latest first. -/
structure State where
  mode : Mode
  tokens : List Token
deriving DecidableEq, Repr

def start : State := ⟨.between, []⟩

/-- Break off. -/
def tear (tokens : List Token) (t : Tear) : State := ⟨.stopped, .torn t :: tokens⟩

/-- The blanks between tokens. -/
def isGap (b : UInt8) : Bool := b = 0x20 || b = 0x0A || b = 0x0D || b = 0x09

/-- The value of a decimal digit. -/
def decimalDigit? (b : UInt8) : Option Nat :=
  if 0x30 ≤ b.toNat ∧ b.toNat ≤ 0x39 then some (b.toNat - 0x30) else none

/-- An octet between two tokens. -/
def outside (tokens : List Token) (b : UInt8) : State :=
  if isGap b then ⟨.between, tokens⟩
  else if b = 0x5B then ⟨.between, .openArray :: tokens⟩
  else if b = 0x5D then ⟨.between, .closeArray :: tokens⟩
  else if b = 0x7B then ⟨.between, .openObject :: tokens⟩
  else if b = 0x7D then ⟨.between, .closeObject :: tokens⟩
  else if b = 0x2C then ⟨.between, .comma :: tokens⟩
  else if b = 0x3A then ⟨.between, .colon :: tokens⟩
  else if b = 0x22 then ⟨.text [], tokens⟩
  else if b = 0x6E then ⟨.word [0x75, 0x6C, 0x6C] .null, tokens⟩
  else if b = 0x74 then ⟨.word [0x72, 0x75, 0x65] (.flag true), tokens⟩
  else if b = 0x66 then ⟨.word [0x61, 0x6C, 0x73, 0x65] (.flag false), tokens⟩
  else if b = 0x2D then ⟨.numeral ⟨.sign, true, [], [], false, []⟩, tokens⟩
  else
    match decimalDigit? b with
    | some 0 => ⟨.numeral ⟨.zero, false, [0], [], false, []⟩, tokens⟩
    | some d => ⟨.numeral ⟨.whole, false, [d], [], false, []⟩, tokens⟩
    | none => tear tokens (.plain .malformed)

/-- The numeral read, if it may end here. -/
def Unfinished.done? (n : Unfinished) : Option Json.Numeral :=
  match n.part with
  | .sign | .point | .mark | .exponentSign => none
  | .zero | .whole => some ⟨n.negative, n.whole.reverse, [], none⟩
  | .fraction => some ⟨n.negative, n.whole.reverse, n.fraction.reverse, none⟩
  | .exponent =>
    some ⟨n.negative, n.whole.reverse, n.fraction.reverse,
      some (n.exponentNegative, n.exponent.reverse)⟩

/-- The numeral with one more octet, if that belongs to it. -/
def Unfinished.extend? (n : Unfinished) (b : UInt8) : Option Unfinished :=
  match n.part, decimalDigit? b with
  | .sign, some 0 => some { n with part := .zero, whole := [0] }
  | .sign, some d => some { n with part := .whole, whole := [d] }
  | .whole, some d => some { n with whole := d :: n.whole }
  | .point, some d | .fraction, some d =>
    some { n with part := .fraction, fraction := d :: n.fraction }
  | .mark, some d | .exponentSign, some d | .exponent, some d =>
    some { n with part := .exponent, exponent := d :: n.exponent }
  | .zero, none | .whole, none =>
    if b = 0x2E then some { n with part := .point }
    else if b = 0x65 || b = 0x45 then some { n with part := .mark }
    else none
  | .fraction, none => if b = 0x65 || b = 0x45 then some { n with part := .mark } else none
  | .mark, none =>
    if b = 0x2B then some { n with part := .exponentSign }
    else if b = 0x2D then some { n with part := .exponentSign, exponentNegative := true }
    else none
  | _, _ => none

/-- An octet within a numeral.  One that does not belong to it ends it, if it may
end there; a digit never follows a leading zero. -/
def inNumeral (tokens : List Token) (n : Unfinished) (b : UInt8) : State :=
  match n.extend? b with
  | some n => ⟨.numeral n, tokens⟩
  | none =>
    match n.done? with
    | none => tear tokens (.plain .malformed)
    | some read =>
      if n.part = .zero && (decimalDigit? b).isSome then tear tokens (.plain .malformed)
      else outside (.numeral read :: tokens) b

/-- The octet that a letter after a backslash stands for. -/
def escaped? (b : UInt8) : Option UInt8 :=
  if b = 0x22 || b = 0x5C || b = 0x2F then some b
  else if b = 0x62 then some 0x08
  else if b = 0x66 then some 0x0C
  else if b = 0x6E then some 0x0A
  else if b = 0x72 then some 0x0D
  else if b = 0x74 then some 0x09
  else none

/-- The sixteen bits that four hexadecimal digits denote. -/
def unit? (digits : List UInt8) : Option Nat :=
  (digits.mapM fun b => PortPool.Text.Numeral.digit? 16 (Char.ofNat b.toNat)).map
    (PortPool.Text.Numeral.ofDigits 16)

/-- Read one more octet. -/
def step (s : State) (b : UInt8) : State :=
  match s.mode with
  | .between => outside s.tokens b
  | .word rest token =>
    match rest with
    | [] => outside (token :: s.tokens) b
    | [c] => if b = c then ⟨.between, token :: s.tokens⟩ else tear s.tokens (.plain .malformed)
    | c :: rest =>
      if b = c then ⟨.word rest token, s.tokens⟩ else tear s.tokens (.plain .malformed)
  | .numeral n => inNumeral s.tokens n b
  | .text pieces =>
    if b = 0x22 then ⟨.between, .text pieces.reverse :: s.tokens⟩
    else if b = 0x5C then ⟨.escape pieces, s.tokens⟩
    else if b.toNat < 0x20 then tear s.tokens (.inText pieces.reverse .malformed)
    else ⟨.text (.octet b :: pieces), s.tokens⟩
  | .escape pieces =>
    if b = 0x75 then ⟨.hex pieces [], s.tokens⟩
    else
      match escaped? b with
      | some c => ⟨.text (.octet c :: pieces), s.tokens⟩
      | none => tear s.tokens (.inText pieces.reverse .malformed)
  | .hex pieces digits =>
    match digits with
    | [y, x, w] =>
      match unit? [w, x, y, b] with
      | some bits => ⟨.text (.unit bits :: pieces), s.tokens⟩
      | none => tear s.tokens (.inText pieces.reverse .malformed)
    | _ => ⟨.hex pieces (b :: digits), s.tokens⟩
  | .stopped => s

/-- The tokens when no octet follows. -/
def finish (s : State) : List Token :=
  match s.mode with
  | .between | .stopped => s.tokens.reverse
  | .word _ _ => (.torn (.plain .truncated) :: s.tokens).reverse
  | .numeral n =>
    match n.done? with
    | some read => (.numeral read :: s.tokens).reverse
    | none => (.torn .inNumeral :: s.tokens).reverse
  | .text pieces | .escape pieces | .hex pieces _ =>
    (.torn (.inText pieces.reverse .truncated) :: s.tokens).reverse

end Lexer

/-- The tokens of a text. -/
def tokens (text : List UInt8) : List Token := Lexer.finish (text.foldl Lexer.step Lexer.start)

end PortPool.Json
