/-
# PortPool.Text.Reader -- readers that take their part off the front

Instants and socket addresses are read from left to right.  A reader takes a part
off the front of a text, or refuses it and takes nothing.
-/
namespace PortPool.Text

set_option autoImplicit false

/-- A reader takes its part off the front of a text. -/
abbrev Reader (α : Type) := StateT (List Char) Option α

namespace Reader

/-- One given character. -/
def char (c : Char) : Reader Unit := fun s =>
  match s with
  | d :: rest => if d = c then some ((), rest) else none
  | [] => none

/-- What a reader takes, or nothing. -/
def optional {α : Type} (r : Reader α) : Reader (Option α) := fun s =>
  match r s with
  | some (v, rest) => some (some v, rest)
  | none => some (none, s)

/-- All of a text, or nothing. -/
def whole {α : Type} (r : Reader α) (s : List Char) : Option α :=
  match r s with
  | some (v, []) => some v
  | _ => none

end Reader

end PortPool.Text
