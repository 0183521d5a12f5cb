/-
# PortPool.Net.SocketAddress -- an address and a port

The address that the service listens on is four numbers, `127.0.0.1:3030`, or
eight groups of hexadecimal digits in brackets, `[::1]:3030`.  In the second form
one run of zero groups may be left out, the last two groups may be written as
four numbers, and a scope may follow a percent sign.

`text` writes the usual form: the first longest run of at least two zero groups
is left out.
-/
import PortPool.Text.Reader
import PortPool.Text.Numeral

namespace PortPool.Net

set_option autoImplicit false

open PortPool.Text

/-- An address and a port. -/
inductive SocketAddress where
  | v4 (octets : List Nat) (port : Nat)
  | v6 (groups : List Nat) (scope port : Nat)
deriving DecidableEq, Repr

namespace SocketAddress

/-! ## Reading -/

/-- A numeral below `limit`, of at most `width` digits if that is given.  A
leading zero may be refused. -/
def number (base : Nat) (width : Option Nat) (zeroInFront : Bool) (limit : Nat) : Reader Nat :=
  fun s =>
    let ds := s.takeWhile fun c => (Numeral.digit? base c).isSome
    match Numeral.natOf? base ds with
    | none => none
    | some n =>
      if width.any (· < ds.length) then none
      else if !zeroInFront && ds.head? = some '0' && 1 < ds.length then none
      else if n < limit then some (n, s.drop ds.length)
      else none

/-- One of the four numbers of an address. -/
def octet : Reader Nat := number 10 (some 3) false 256

/-- The four numbers of an address. -/
def fourOctets : Reader (List Nat) := do
  let a ← octet
  Reader.char '.'
  let b ← octet
  Reader.char '.'
  let c ← octet
  Reader.char '.'
  let d ← octet
  pure [a, b, c, d]

/-- A colon, unless nothing stands before. -/
def separator (first : Bool) : Reader Unit := if first then pure () else Reader.char ':'

/-- Groups, as many as there are up to `room`, and whether they end in four
numbers. -/
def groups (first : Bool) : Nat → Reader (List Nat × Bool)
  | 0 => pure ([], false)
  | room + 1 => do
    let quad ←
      if room = 0 then pure none
      else
        Reader.optional do
          separator first
          fourOctets
    match quad with
    | some [a, b, c, d] => pure ([a * 256 + b, c * 256 + d], true)
    | _ =>
      let group ← Reader.optional do
        separator first
        number 16 (some 4) true 65536
      match group with
      | none => pure ([], false)
      | some g =>
        let (rest, endsInQuad) ← groups false room
        pure (g :: rest, endsInQuad)

/-- The eight groups of an address. -/
def eightGroups : Reader (List Nat) := do
  let (head, endsInQuad) ← groups true 8
  if head.length = 8 then pure head
  else if endsInQuad then failure
  else
    Reader.char ':'
    Reader.char ':'
    let (tail, _) ← groups true (7 - head.length)
    pure (head ++ List.replicate (8 - head.length - tail.length) 0 ++ tail)

/-- The port behind an address. -/
def port : Reader Nat := do
  Reader.char ':'
  number 10 none true 65536

def readV4 : Reader SocketAddress := do
  let octets ← fourOctets
  return .v4 octets (← port)

def readV6 : Reader SocketAddress := do
  Reader.char '['
  let groups ← eightGroups
  let scope ← Reader.optional do
    Reader.char '%'
    number 10 none true UInt32.size
  Reader.char ']'
  return .v6 groups (scope.getD 0) (← port)

/-- The address of a text. -/
def parse? (s : String) : Option SocketAddress :=
  readV4.whole s.toList <|> readV6.whole s.toList

/-! ## Writing -/

/-- Numerals with a mark between them. -/
def joined (mark : Char) (parts : List (List Char)) : List Char := List.intercalate [mark] parts

/-- A group in lower-case hexadecimal digits. -/
def groupText (g : Nat) : List Char := Nat.toDigits 16 g

/-- Groups with colons between them. -/
def groupsText (gs : List Nat) : List Char := joined ':' (gs.map groupText)

/-- How many zeros stand in front. -/
def leadingZeros (gs : List Nat) : Nat := (gs.takeWhile (· == 0)).length

/-- Where the first longest run of zeros starts, and its length. -/
def longestRun : List Nat → Nat × Nat
  | [] => (0, 0)
  | g :: gs =>
    let here := leadingZeros (g :: gs)
    let (start, length) := longestRun gs
    if length ≤ here then (0, here) else (start + 1, length)

/-- The text of eight groups. -/
def addressText (gs : List Nat) : List Char :=
  match gs with
  | [0, 0, 0, 0, 0, 0xFFFF, x, y] =>
    "::ffff:".toList ++
      joined '.' ([x / 256, x % 256, y / 256, y % 256].map Numeral.digits)
  | _ =>
    let (start, length) := longestRun gs
    if length ≤ 1 then groupsText gs
    else groupsText (gs.take start) ++ ':' :: ':' :: groupsText (gs.drop (start + length))

/-- The address as text. -/
def text : SocketAddress → String
  | .v4 octets port =>
    String.ofList (joined '.' (octets.map Numeral.digits) ++ ':' :: Numeral.digits port)
  | .v6 groups scope port =>
    let zone := if scope = 0 then [] else '%' :: Numeral.digits scope
    String.ofList ('[' :: addressText groups ++ zone ++ ']' :: ':' :: Numeral.digits port)

end SocketAddress

end PortPool.Net
