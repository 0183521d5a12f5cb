/-
# PortPool.Json.Decode -- values out of a draft

A decoder walks a draft in the order of its text and gives a value or the first
fault that it meets.  Each decoder says here how it takes every kind of node:
`Draft.mismatch` is the answer of all of them to a node of another kind, after
that node itself was looked at, so a string with half of a surrogate pair is no
JSON before it is a string in the wrong place.

A value that is not asked for is passed over by `Draft.skip`: there, strings and
numbers are not looked into and nesting is not counted.  Everywhere else arrays
and objects nest at most 127 deep; `room` is how many more levels may be opened.
-/
import PortPool.Json.Draft
import PortPool.Json.Value
import PortPool.Text.Utf8

namespace PortPool.Json

set_option autoImplicit false

open PortPool.Decimal (Binary64)
open PortPool.Text (Utf8.encode Utf8.strict?)

/-! ## Strings -/

/-- The second half of a surrogate pair. -/
def isLow (n : Nat) : Bool := 0xDC00 ≤ n && n ≤ 0xDFFF

/-- The first half of a surrogate pair. -/
def isHigh (n : Nat) : Bool := 0xD800 ≤ n && n ≤ 0xDBFF

/-- The character of a surrogate pair. -/
def pairChar (high low : Nat) : Char :=
  Char.ofNat (0x10000 + (high - 0xD800) * 0x400 + (low - 0xDC00))

/-- The octets of a string, behind those of `out`, latest first; none if half of
a surrogate pair stands alone. -/
def octets? (out : List UInt8) : List Piece → Option (List UInt8)
  | [] => some out.reverse
  | .octet b :: ps => octets? (b :: out) ps
  | .unit n :: ps =>
    if isLow n then none
    else if isHigh n then
      match ps with
      | .unit m :: ps =>
        if isLow m then octets? ((Utf8.encode [pairChar n m]).reverse ++ out) ps else none
      | _ => none
    else octets? ((Utf8.encode [Char.ofNat n]).reverse ++ out) ps

/-- The string that the pieces spell. -/
def textOf (pieces : List Piece) : Except Refusal String :=
  match (octets? [] pieces).bind Utf8.strict? with
  | some s => .ok (String.ofList s)
  | none => .error .malformed

/-- Half of a surrogate pair stands alone before the pieces end. -/
def hasLoneHalf : List Piece → Bool
  | [] => false
  | .octet _ :: ps => hasLoneHalf ps
  | .unit n :: ps =>
    if isLow n then true
    else if isHigh n then
      match ps with
      | [] => false
      | .unit m :: ps => if isLow m then hasLoneHalf ps else true
      | .octet _ :: _ => true
    else hasLoneHalf ps

/-- The fault of a tear where the value is asked for. -/
def Tear.used : Tear → Refusal
  | .plain cause => cause
  | .inText pieces cause => if hasLoneHalf pieces then .malformed else cause
  | .inNumeral => .truncated

/-- The fault of a tear where the value is passed over. -/
def Tear.ignored : Tear → Refusal
  | .plain cause => cause
  | .inText _ cause => cause
  | .inNumeral => .malformed

/-! ## Numbers -/

/-- The digits taken into a number below `2^64`, and those left over. -/
def absorb (n : Nat) : List Nat → Nat × List Nat
  | [] => (n, [])
  | d :: ds => if n * 10 + d < UInt64.size then absorb (n * 10 + d) ds else (n, d :: ds)

/-- `x · 10^power`, by steps of at most 308 powers of ten, each step rounded; none
if it is too large. -/
def scale (steps : Nat) (x : Binary64) (power : Int) : Option Binary64 :=
  if power.natAbs ≤ 308 then
    if 0 ≤ power then x.mulPow10 power.natAbs else x.divPow10 power.natAbs
  else if x.isZero then some x
  else if 0 ≤ power then none
  else
    match steps with
    | 0 => none
    | steps + 1 => (x.divPow10 308).bind fun y => scale steps y (power + 308)

/-- The number `± n · 10^power`, rounded. -/
def realOf? (negative : Bool) (n : Nat) (power : Int) : Option Number := do
  let x ← Binary64.ofRatio false n 1
  let y ← scale (power.natAbs / 308 + 1) x power
  pure (.real { y with negative })

/-- The number that a numeral denotes; none if it is too large.  Without fraction
and exponent it is whole as long as 64 bits hold it, except for minus zero.  Of
the digits beyond 64 bits only the count matters. -/
def Numeral.value? (n : Numeral) : Option Number :=
  let (m, dropped) := absorb 0 n.whole
  if n.fraction.isEmpty && n.exponent.isNone then
    if !dropped.isEmpty then realOf? n.negative m dropped.length
    else if !n.negative then some (.whole m)
    else if m = 0 then some (.real (Binary64.zero true))
    else if m ≤ 0x8000000000000000 then some (.whole (-(m : Int)))
    else realOf? true m 0
  else
    let (m, rest) := absorb m n.fraction
    let power : Int := (dropped.length : Int) - ((n.fraction.length - rest.length : Nat) : Int)
    match n.exponent with
    | none => realOf? n.negative m power
    | some (down, digits) =>
      let e := PortPool.Text.Numeral.ofDigits 10 digits
      if 0x80000000 ≤ e then
        if m ≠ 0 ∧ !down then none else some (.real (Binary64.zero n.negative))
      else realOf? n.negative m (if down then power - e else power + e)

/-! ## Decoders -/

/-- A decoder, given how many levels may still be opened. -/
abbrev Decoder (α : Type) := Nat → Draft → Except Refusal α

namespace Draft

/-- Pass over a value.  A tear within it is also how it ends. -/
def skip : Draft → Except Refusal Unit
  | .torn t | .array _ (some t) | .object _ (some t) => .error t.ignored
  | _ => .ok ()

/-- The fault of a node of a kind that is not asked for. -/
def mismatch : Draft → Refusal
  | .torn t => t.used
  | .numeral n => if n.value?.isNone then .malformed else .mismatched
  | .text pieces =>
    match textOf pieces with
    | .ok _ => .mismatched
    | .error fault => fault
  | _ => .mismatched

/-- The end of an array or object whose parts are all decoded. -/
def closed : Option Tear → Except Refusal Unit
  | none => .ok ()
  | some t => .error t.used

end Draft

namespace Decoder

/-- A string. -/
def text : Decoder String
  | _, .text pieces => textOf pieces
  | _, d => .error d.mismatch

/-- A truth value. -/
def flag : Decoder Bool
  | _, .flag b => .ok b
  | _, d => .error d.mismatch

/-- A whole number from `low` to `high`. -/
def whole (low high : Int) : Decoder Int
  | _, .numeral n =>
    match n.value? with
    | none => .error .malformed
    | some (.whole i) => if low ≤ i ∧ i ≤ high then .ok i else .error .mismatched
    | some (.real _) => .error .mismatched
  | _, d => .error d.mismatch

/-- A value, or `null` for none. -/
def optional {α : Type} (inner : Decoder α) : Decoder (Option α)
  | _, .null => .ok none
  | room, d => (inner room d).map some

/-- The items of an array, one after the other, behind those of `before`, latest
first. -/
def items {α : Type} (inner : Draft → Except Refusal α) (before : List α) :
    List Draft → Except Refusal (List α)
  | [] => .ok before.reverse
  | d :: ds => do
    let v ← inner d
    items inner (v :: before) ds

/-- An array of any length. -/
def array {α : Type} (inner : Decoder α) : Decoder (List α)
  | 0, .array _ _ => .error .malformed
  | room + 1, .array ds ending => do
    let vs ← items (inner room) [] ds
    Draft.closed ending
    pure vs
  | _, d => .error d.mismatch

mutual

/-- Any value. -/
def value (room : Nat) : Draft → Except Refusal Value
  | .null => .ok .null
  | .flag b => .ok (.flag b)
  | .numeral n =>
    match n.value? with
    | none => .error .malformed
    | some v => .ok (.number v)
  | .text pieces => (textOf pieces).map .text
  | .array ds ending =>
    match room with
    | 0 => .error .malformed
    | room + 1 => do
      let vs ← valueItems room [] ds
      Draft.closed ending
      pure (.array vs)
  | .object ms ending =>
    match room with
    | 0 => .error .malformed
    | room + 1 => do
      let vs ← valueMembers room [] ms
      Draft.closed ending
      pure (.object vs)
  | .torn t => .error t.used

/-- Any values, behind those of `before`, latest first. -/
def valueItems (room : Nat) (before : List Value) : List Draft → Except Refusal (List Value)
  | [] => .ok before.reverse
  | d :: ds => do
    let v ← value room d
    valueItems room (v :: before) ds

/-- Members with any values, put in their places among those before. -/
def valueMembers (room : Nat) (before : Members) :
    List (List Piece × Draft) → Except Refusal Members
  | [] => .ok before
  | (name, d) :: ms => do
    let name ← textOf name
    let v ← value room d
    valueMembers room (insertMember name v before) ms

end

/-- The members of an object, with any values. -/
def members : Decoder Members
  | 0, .object _ _ => .error .malformed
  | room + 1, .object ms ending => do
    let vs ← valueMembers room [] ms
    Draft.closed ending
    pure vs
  | _, d => .error d.mismatch

end Decoder

/-- How many levels of arrays and objects may be opened. -/
def deepest : Nat := 127

/-- The value of a text: nothing but blanks may follow it. -/
def decodeText {α : Type} (decoder : Decoder α) (text : List UInt8) : Except Refusal α := do
  let reading := Draft.ofText text
  let v ← decoder deepest reading.draft
  if reading.trailing then .error .malformed else .ok v

end PortPool.Json
