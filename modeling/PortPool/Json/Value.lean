/-
# PortPool.Json.Value -- JSON values

The values that bodies, descriptions of machines and answers are made of.  A
number is a whole number or a binary fraction.  The members of an object stand
in a list; an object read from a text keeps them in ascending order of their
names, one for each name, which `insertMember` maintains: a later member takes
the place of an earlier one of the same name.
-/
import PortPool.Decimal.Binary64

namespace PortPool.Json

set_option autoImplicit false

/-- A whole number, or a number with a fraction. -/
inductive Number where
  | whole (i : Int)
  | real (x : Decimal.Binary64)
deriving DecidableEq, Repr

/-- A JSON value. -/
inductive Value where
  | null
  | flag (b : Bool)
  | number (n : Number)
  | text (s : String)
  | array (items : List Value)
  | object (members : List (String × Value))
deriving Repr, BEq

/-- The members of an object. -/
abbrev Members := List (String × Value)

/-- Put a member in its place. -/
def insertMember (name : String) (value : Value) : Members → Members
  | [] => [(name, value)]
  | (other, old) :: rest =>
    if name < other then (name, value) :: (other, old) :: rest
    else if name = other then (name, value) :: rest
    else (other, old) :: insertMember name value rest

/-- The value of a member. -/
def member? (name : String) (members : Members) : Option Value :=
  (members.find? fun m => m.1 = name).map (·.2)

namespace Value

/-- The value of a whole number. -/
def ofNat (n : Nat) : Value := .number (.whole n)

mutual

/-- The names of every object within stand in strictly ascending order. -/
def Ordered : Value → Prop
  | .null | .flag _ | .number _ | .text _ => True
  | .array items => OrderedItems items
  | .object members => (members.map (·.1)).Pairwise (· < ·) ∧ OrderedMembers members

/-- All items have their names in order. -/
def OrderedItems : List Value → Prop
  | [] => True
  | v :: vs => Ordered v ∧ OrderedItems vs

/-- All members' values have their names in order. -/
def OrderedMembers : List (String × Value) → Prop
  | [] => True
  | (_, v) :: ms => Ordered v ∧ OrderedMembers ms

end

mutual

/-- No number with a fraction occurs, and every whole number fits 64 bits,
signed or unsigned. -/
def Whole : Value → Prop
  | .number (.whole i) => -0x8000000000000000 ≤ i ∧ i < UInt64.size
  | .number (.real _) => False
  | .null | .flag _ | .text _ => True
  | .array items => WholeItems items
  | .object members => WholeMembers members

/-- All items are free of fractions. -/
def WholeItems : List Value → Prop
  | [] => True
  | v :: vs => Whole v ∧ WholeItems vs

/-- All members' values are free of fractions. -/
def WholeMembers : List (String × Value) → Prop
  | [] => True
  | (_, v) :: ms => Whole v ∧ WholeMembers ms

end

mutual

/-- How deep arrays and objects nest: none, one within another, and so on. -/
def depth : Value → Nat
  | .null | .flag _ | .number _ | .text _ => 0
  | .array items => depthItems items + 1
  | .object members => depthMembers members + 1

/-- The greatest depth of the items. -/
def depthItems : List Value → Nat
  | [] => 0
  | v :: vs => max (depth v) (depthItems vs)

/-- The greatest depth of the members' values. -/
def depthMembers : List (String × Value) → Nat
  | [] => 0
  | (_, v) :: ms => max (depth v) (depthMembers ms)

end

end Value

end PortPool.Json
