/-
# PortPool.Decimal.Binary64 -- binary fractions of 53 bits

A description of a machine may hold numbers with a fraction.  They are kept as
the binary fractions that 64 bits can hold: a sign, a significand below `2^53`
and a power of two.  `ofRatio` rounds a quotient of naturals to the nearest of
them, a tie to the even significand; a quotient too large for any of them has
none.  All of it is arithmetic of naturals.
-/
namespace PortPool.Decimal

set_option autoImplicit false

/-- The number `± significand · 2^power`.  Normal form: the significand has 53
bits, or fewer with the least power. -/
structure Binary64 where
  negative : Bool
  significand : Nat
  power : Int
deriving DecidableEq, Repr

namespace Binary64

def leastPower : Int := -1074
def greatestPower : Int := 971

/-- The least significand of 53 bits, `2^52`. -/
def leastFull : Nat := 0x10000000000000

/-- Zero, which has a sign. -/
def zero (negative : Bool) : Binary64 := ⟨negative, 0, leastPower⟩

def isZero (x : Binary64) : Bool := x.significand == 0

/-- The quotient rounded to the nearest natural, a tie to the even one. -/
def roundEven (num den : Nat) : Nat :=
  let q := num / den
  let r := num % den
  if 2 * r < den then q else if den < 2 * r then q + 1 else q + q % 2

/-- The quotient divided by a power of two, as a numerator and a denominator. -/
def scaled (num den : Nat) (power : Int) : Nat × Nat :=
  if 0 ≤ power then (num, den * Nat.pow 2 power.toNat) else (num * Nat.pow 2 power.natAbs, den)

/-- The power of two under which the quotient keeps 53 bits before the point. -/
def powerFor (num den : Nat) : Int :=
  let guess : Int := max leastPower ((Nat.log2 num : Int) - (Nat.log2 den : Int) - 53)
  let (n, d) := scaled num den guess
  if 2 * leastFull ≤ n / d then guess + 1 else guess

/-- The nearest binary fraction to `num / den`, if that is not too large. -/
def ofRatio (negative : Bool) (num den : Nat) : Option Binary64 :=
  if num = 0 ∨ den = 0 then some (zero negative)
  else
    let power := powerFor num den
    let (n, d) := scaled num den power
    let m := roundEven n d
    let (m, power) := if m = 2 * leastFull then (leastFull, power + 1) else (m, power)
    if greatestPower < power then none else some ⟨negative, m, power⟩

/-- The magnitude as a quotient of naturals. -/
def ratio (x : Binary64) : Nat × Nat :=
  if 0 ≤ x.power then (x.significand * Nat.pow 2 x.power.toNat, 1)
  else (x.significand, Nat.pow 2 x.power.natAbs)

/-- The product with `10^k`, rounded. -/
def mulPow10 (x : Binary64) (k : Nat) : Option Binary64 := do
  let ten ← ofRatio false (Nat.pow 10 k) 1
  let (n, d) := x.ratio
  let (p, q) := ten.ratio
  ofRatio x.negative (n * p) (d * q)

/-- The quotient by `10^k`, rounded. -/
def divPow10 (x : Binary64) (k : Nat) : Option Binary64 := do
  let ten ← ofRatio false (Nat.pow 10 k) 1
  let (n, d) := x.ratio
  let (p, q) := ten.ratio
  ofRatio x.negative (n * q) (d * p)

end Binary64

end PortPool.Decimal
