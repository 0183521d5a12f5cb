/-
# PortPool.Text.Numeral -- numbers as digits

Decimal and hexadecimal numerals.  `decimal` writes a number with the fewest
digits; `natOf?` reads one or more digits, any number of leading zeros
included; `unsigned?` also takes one plus sign before them, which is the
grammar of every number typed at a command line.
-/
namespace PortPool.Text.Numeral

set_option autoImplicit false

/-- The decimal digits of a number, fewest first digit not zero. -/
def digits (n : Nat) : List Char := Nat.toDigits 10 n

/-- The number as a decimal numeral. -/
def decimal (n : Nat) : String := String.ofList (digits n)

/-- The number as a decimal numeral, with a minus sign below zero. -/
def signed (i : Int) : String :=
  if i < 0 then "-" ++ decimal i.natAbs else decimal i.natAbs

/-- The digits padded with zeros on the left to a width. -/
def padded (width n : Nat) : List Char :=
  let ds := digits n
  List.replicate (width - ds.length) '0' ++ ds

/-- The value of a digit of a base up to sixteen. -/
def digit? (base : Nat) (c : Char) : Option Nat :=
  let n := c.toNat
  let value :=
    if 0x30 ≤ n ∧ n ≤ 0x39 then some (n - 0x30)
    else if 0x41 ≤ n ∧ n ≤ 0x46 then some (n - 0x41 + 10)
    else if 0x61 ≤ n ∧ n ≤ 0x66 then some (n - 0x61 + 10)
    else none
  value.filter (· < base)

/-- The number that a run of digits denotes, most significant first. -/
def ofDigits (base : Nat) (ds : List Nat) : Nat := ds.foldl (fun n d => n * base + d) 0

/-- A numeral of one or more digits. -/
def natOf? (base : Nat) (s : List Char) : Option Nat :=
  match s with
  | [] => none
  | _ :: _ => (s.mapM (digit? base)).map (ofDigits base)

/-- A numeral that a plus sign may precede. -/
def unsigned? (base : Nat) : List Char → Option Nat
  | '+' :: s => natOf? base s
  | s => natOf? base s

/-- A decimal numeral that a plus or a minus sign may precede. -/
def signed? : List Char → Option Int
  | '-' :: s => (natOf? 10 s).map fun n => -(n : Int)
  | s => (unsigned? 10 s).map Int.ofNat

/-- Lower-case hexadecimal digit of a value below sixteen. -/
def hexDigit (n : Nat) : Char := Nat.digitChar n

end PortPool.Text.Numeral
