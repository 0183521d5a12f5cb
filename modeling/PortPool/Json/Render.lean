/-
# PortPool.Json.Render -- JSON values as text

`render` writes a value without blanks; `pretty` writes it over several lines,
each level two blanks further in, as it is shown to people.  In a string the
quote, the backslash and the characters below U+0020 are escaped, the common
ones among them by a letter; everything else stands for itself.
-/
import PortPool.Json.Value
import PortPool.Decimal.Shortest

namespace PortPool.Json

set_option autoImplicit false

open PortPool.Text

/-- A character within quotes. -/
def escapeChar (c : Char) : List Char :=
  let n := c.toNat
  if n = 0x22 then ['\\', '"']
  else if n = 0x5C then ['\\', '\\']
  else if n = 0x08 then ['\\', 'b']
  else if n = 0x09 then ['\\', 't']
  else if n = 0x0A then ['\\', 'n']
  else if n = 0x0C then ['\\', 'f']
  else if n = 0x0D then ['\\', 'r']
  else if n < 0x20 then
    ['\\', 'u', '0', '0', Numeral.hexDigit (n / 16), Numeral.hexDigit (n % 16)]
  else [c]

/-- A string within quotes. -/
def quote (s : String) : List Char := '"' :: s.toList.flatMap escapeChar ++ ['"']

/-- A number as text. -/
def Number.render : Number → List Char
  | .whole i => (Numeral.signed i).toList
  | .real x => (Decimal.Shortest.text x).toList

namespace Value

/-- The text of a value that is no array and no object. -/
def renderAtom : Value → List Char
  | .null => ['n', 'u', 'l', 'l']
  | .flag true => ['t', 'r', 'u', 'e']
  | .flag false => ['f', 'a', 'l', 's', 'e']
  | .number n => n.render
  | .text s => quote s
  | .array _ | .object _ => []

mutual

/-- The value as text without blanks. -/
def render : Value → List Char
  | .array [] => ['[', ']']
  | .array (v :: vs) => '[' :: render v ++ renderItems vs
  | .object [] => ['{', '}']
  | .object ((name, v) :: ms) => '{' :: quote name ++ ':' :: render v ++ renderMembers ms
  | v => renderAtom v

/-- The items after the first, and the bracket. -/
def renderItems : List Value → List Char
  | [] => [']']
  | v :: vs => ',' :: render v ++ renderItems vs

/-- The members after the first, and the brace. -/
def renderMembers : List (String × Value) → List Char
  | [] => ['}']
  | (name, v) :: ms => ',' :: quote name ++ ':' :: render v ++ renderMembers ms

end

/-- A new line, `level` levels in. -/
def newLine (level : Nat) : List Char := '\n' :: List.replicate (2 * level) ' '

mutual

/-- The value over several lines, itself `level` levels in. -/
def prettyAt (level : Nat) : Value → List Char
  | .array [] => ['[', ']']
  | .array (v :: vs) =>
    '[' :: newLine (level + 1) ++ prettyAt (level + 1) v ++ prettyItems level vs
  | .object [] => ['{', '}']
  | .object ((name, v) :: ms) =>
    '{' :: newLine (level + 1) ++ quote name ++ ':' :: ' ' :: prettyAt (level + 1) v ++
      prettyMembers level ms
  | v => renderAtom v

/-- The items after the first, and the bracket. -/
def prettyItems (level : Nat) : List Value → List Char
  | [] => newLine level ++ [']']
  | v :: vs => ',' :: newLine (level + 1) ++ prettyAt (level + 1) v ++ prettyItems level vs

/-- The members after the first, and the brace. -/
def prettyMembers (level : Nat) : List (String × Value) → List Char
  | [] => newLine level ++ ['}']
  | (name, v) :: ms =>
    ',' :: newLine (level + 1) ++ quote name ++ ':' :: ' ' :: prettyAt (level + 1) v ++
      prettyMembers level ms

end

/-- The value over several lines. -/
def pretty (v : Value) : List Char := prettyAt 0 v

/-- The value as a string without blanks. -/
def toText (v : Value) : String := String.ofList v.render

end Value

end PortPool.Json
