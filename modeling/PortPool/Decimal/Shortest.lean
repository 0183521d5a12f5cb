/-
# PortPool.Decimal.Shortest -- the fewest digits that read back

A binary fraction is written with the fewest decimal digits that no other
binary fraction is nearer to.  `shortest` looks at the decimal grids of one to
seventeen digits in turn: on each the two neighbours of the value are tried, and
the first grid with one that rounds to the value wins; of two, the nearer.
`text` then places the point: positional from `1e-5` up to `1e16`, with an
exponent beyond.
-/
import PortPool.Decimal.Binary64
import PortPool.Text.Numeral

namespace PortPool.Decimal.Shortest

set_option autoImplicit false

open PortPool.Text (Numeral.digits Numeral.signed)

/-- Twice the value and the two ends of the interval of numbers that round to
it, all over one denominator, and whether the ends belong to it. -/
structure Interval where
  low : Nat
  value : Nat
  high : Nat
  den : Nat
  closed : Bool
deriving Repr

/-- The interval of numbers that round to `x`, in quarters of its last bit. -/
def interval (x : Binary64) : Interval :=
  let m := x.significand
  let narrow := m = Binary64.leastFull ∧ x.power ≠ Binary64.leastPower
  let low := if narrow then 4 * m - 1 else 4 * m - 2
  let (n, d) := if 0 ≤ x.power then (Nat.pow 2 x.power.toNat, 4)
    else (1, 4 * Nat.pow 2 x.power.natAbs)
  ⟨low * n, 4 * m * n, (4 * m + 2) * n, d, m % 2 == 0⟩

/-- The decimal number `digits · 10^power`. -/
structure Digits where
  digits : Nat
  power : Int
deriving DecidableEq, Repr

/-- `num / den` on the grid of `10^power`, rounded down. -/
def below (num den : Nat) (power : Int) : Nat :=
  if 0 ≤ power then num / (den * Nat.pow 10 power.toNat) else num * Nat.pow 10 power.natAbs / den

/-- The grid point lies in the interval. -/
def Interval.has (i : Interval) (k : Nat) (power : Int) : Bool :=
  let (a, b) := if 0 ≤ power then (k * Nat.pow 10 power.toNat, 1)
    else (k, Nat.pow 10 power.natAbs)
  let point := a * i.den
  if i.closed then i.low * b ≤ point && point ≤ i.high * b
  else i.low * b < point && point < i.high * b

/-- Twice the value is below the sum of the grid point and the next one. -/
def Interval.nearerBelow (i : Interval) (k : Nat) (power : Int) : Ordering :=
  let (a, b) := if 0 ≤ power then ((2 * k + 1) * Nat.pow 10 power.toNat, 1)
    else (2 * k + 1, Nat.pow 10 power.natAbs)
  compare (2 * i.value * b) (a * i.den)

/-- The neighbour of the value on one grid that rounds to it, the nearer first. -/
def onGrid (i : Interval) (power : Int) : Option Digits :=
  let k := below i.value i.den power
  match i.has k power && k != 0, i.has (k + 1) power with
  | false, false => none
  | true, false => some ⟨k, power⟩
  | false, true => some ⟨k + 1, power⟩
  | true, true =>
    match i.nearerBelow k power with
    | .lt => some ⟨k, power⟩
    | .gt => some ⟨k + 1, power⟩
    | .eq => some ⟨k + k % 2, power⟩

/-- The place of the leading decimal digit: the largest `p` with `10^p ≤ value`. -/
def leading (num den : Nat) : Int :=
  if num / den ≠ 0 then ((Numeral.digits (num / den)).length : Int) - 1
  else
    -- below one: the places until a digit appears
    match (List.range 330).find? fun p => num * Nat.pow 10 (p + 1) / den ≠ 0 with
    | some p => Int.negSucc p
    | none => 0

/-- The digits without trailing zeros. -/
def stripZeros : Nat → Digits → Digits
  | 0, d => d
  | fuel + 1, d =>
    if d.digits ≠ 0 ∧ d.digits % 10 = 0 then stripZeros fuel ⟨d.digits / 10, d.power + 1⟩ else d

/-- The fewest digits that read back. -/
def shortest (x : Binary64) : Digits :=
  if x.isZero then ⟨0, 0⟩
  else
    let i := interval x
    let top := leading i.value i.den
    let found := (List.range 17).findSome? fun n => onGrid i (top - (n : Nat))
    stripZeros 20 (found.getD ⟨below i.value i.den (top - 16), top - 16⟩)

/-- The number as text. -/
def text (x : Binary64) : String :=
  let sign := if x.negative then "-" else ""
  if x.isZero then sign ++ "0.0"
  else
    let d := shortest x
    let ds := Numeral.digits d.digits
    let point := (ds.length : Int) + d.power
    let body :=
      if 0 ≤ d.power ∧ point ≤ 16 then
        ds ++ List.replicate d.power.toNat '0' ++ ['.', '0']
      else if 0 < point ∧ point ≤ 16 then
        ds.take point.toNat ++ '.' :: ds.drop point.toNat
      else if -5 < point ∧ point ≤ 0 then
        '0' :: '.' :: List.replicate point.natAbs '0' ++ ds
      else
        let exponent := 'e' :: (Numeral.signed (point - 1)).toList
        match ds with
        | [d] => d :: exponent
        | d :: rest => d :: '.' :: rest ++ exponent
        | [] => []
    sign ++ String.ofList body

end PortPool.Decimal.Shortest
