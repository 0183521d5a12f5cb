/-
# PortPool.Json.Draft -- a JSON text as far as it goes

`Draft.ofTokens` turns the tokens of a text into a tree.  It never fails: where
the text stops being JSON the tree holds a tear, as the last leaf in the order
of the text, and every array and object around it ends in the same tear.  Thus
whoever walks the tree in order meets the faults in the order in which a single
pass over the text would: a value of the wrong form before the tear is refused
as such, and the tear is refused only if the walk gets there.

The tree is built in one pass with a stack of the arrays and objects that are
still open, so a text may nest as deep as it likes.
-/
import PortPool.Json.Token

namespace PortPool.Json

set_option autoImplicit false

/-- A JSON text as a tree.  An array or object that the text does not close
ends in the tear of the text. -/
inductive Draft where
  | null
  | flag (b : Bool)
  | numeral (n : Numeral)
  | text (pieces : List Piece)
  | array (items : List Draft) (ending : Option Tear)
  | object (members : List (List Piece × Draft)) (ending : Option Tear)
  | torn (t : Tear)
deriving Repr

/-- The tree of a text, and whether anything follows its value. -/
structure Reading where
  draft : Draft
  trailing : Bool
deriving Repr

namespace Builder

/-- An array or object that is still open: its parts so far, latest first; an
object also holds the name whose value is being read. -/
inductive Frame where
  | array (items : List Draft)
  | object (members : List (List Piece × Draft)) (name : List Piece)
deriving Repr

/-- What may come next: any value; a value or the end of an array; the comma or
the end after an item; a name or the end of an object; a name after a comma; a
colon; the comma or the end after a member; nothing. -/
inductive Expect where
  | value
  | firstItem
  | itemEnd (items : List Draft)
  | firstName
  | name (members : List (List Piece × Draft))
  | colon (members : List (List Piece × Draft)) (name : List Piece)
  | memberEnd (members : List (List Piece × Draft))
  | nothing (root : Draft) (trailing : Bool)
deriving Repr

/-- The builder between two tokens: what may come next, and what is open around
it, innermost first. -/
structure State where
  expect : Expect
  stack : List Frame
deriving Repr

def start : State := ⟨.value, []⟩

/-- A value is complete: hand it to what is open around it. -/
def deliver (d : Draft) : List Frame → State
  | [] => ⟨.nothing d false, []⟩
  | .array items :: stack => ⟨.itemEnd (d :: items), stack⟩
  | .object members name :: stack => ⟨.memberEnd ((name, d) :: members), stack⟩

/-- The tree of a text that breaks off within a part `d`. -/
def unwind (t : Tear) (d : Draft) : List Frame → Draft
  | [] => d
  | .array items :: stack => unwind t (.array (d :: items).reverse (some t)) stack
  | .object members name :: stack =>
    unwind t (.object ((name, d) :: members).reverse (some t)) stack

/-- The text breaks off here. -/
def tear (t : Tear) (s : State) : Draft :=
  match s.expect with
  | .value => unwind t (.torn t) s.stack
  | .firstItem => unwind t (.array [] (some t)) s.stack
  | .itemEnd items => unwind t (.array items.reverse (some t)) s.stack
  | .firstName => unwind t (.object [] (some t)) s.stack
  | .name members => unwind t (.object members.reverse (some t)) s.stack
  | .colon members name =>
    unwind t (.object ((name, .torn t) :: members).reverse (some t)) s.stack
  | .memberEnd members => unwind t (.object members.reverse (some t)) s.stack
  | .nothing root _ => root

/-- Break off, and take no more. -/
def stop (t : Tear) (s : State) : State := ⟨.nothing (tear t s) false, []⟩

/-- A token where a value may stand. -/
def value (stack : List Frame) (token : Token) : State :=
  match token with
  | .null => deliver .null stack
  | .flag b => deliver (.flag b) stack
  | .numeral n => deliver (.numeral n) stack
  | .text pieces => deliver (.text pieces) stack
  | .openArray => ⟨.firstItem, stack⟩
  | .openObject => ⟨.firstName, stack⟩
  | .torn t => stop t ⟨.value, stack⟩
  | _ => stop (.plain .malformed) ⟨.value, stack⟩

/-- The tear of a token that cannot be a name: one within a string is its own. -/
def nameTear : Token → Tear
  | .torn (.inText pieces cause) => .inText pieces cause
  | _ => .plain .malformed

/-- Take one more token. -/
def step (s : State) (token : Token) : State :=
  match s.expect with
  | .value => value s.stack token
  | .firstItem =>
    if token = .closeArray then deliver (.array [] none) s.stack
    else value (.array [] :: s.stack) token
  | .itemEnd items =>
    if token = .comma then ⟨.value, .array items :: s.stack⟩
    else if token = .closeArray then deliver (.array items.reverse none) s.stack
    else stop (.plain .malformed) s
  | .firstName =>
    match token with
    | .closeObject => deliver (.object [] none) s.stack
    | .text pieces => ⟨.colon [] pieces, s.stack⟩
    | token => stop (nameTear token) s
  | .name members =>
    match token with
    | .text pieces => ⟨.colon members pieces, s.stack⟩
    | token => stop (nameTear token) s
  | .colon members name =>
    if token = .colon then ⟨.value, .object members name :: s.stack⟩
    else stop (.plain .malformed) s
  | .memberEnd members =>
    if token = .comma then ⟨.name members, s.stack⟩
    else if token = .closeObject then deliver (.object members.reverse none) s.stack
    else stop (.plain .malformed) s
  | .nothing root _ => ⟨.nothing root true, []⟩

/-- The tree when no token follows. -/
def finish (s : State) : Reading :=
  match s.expect with
  | .nothing root trailing => ⟨root, trailing⟩
  | _ => ⟨tear (.plain .truncated) s, false⟩

end Builder

/-- The tree of a token sequence. -/
def Draft.ofTokens (ts : List Token) : Reading :=
  Builder.finish (ts.foldl Builder.step Builder.start)

/-- The tree of a text. -/
def Draft.ofText (text : List UInt8) : Reading := Draft.ofTokens (tokens text)

end PortPool.Json
