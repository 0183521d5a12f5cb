/-
# PortPool.Reservation -- ports for an instance

An instance reserves a span of adjacent ports.  The free ports of the range are
searched in ascending order for the first run that is long enough; what was
released is thus given out again before the pool grows.  If there is none, the
pool grows by new ports just above the largest it knows, as long as these stay
in the range.

A reservation is one step from a store to the next: it either adds one binding,
linked to the ports of its span, or changes nothing.
-/
import PortPool.Registry
import PortPool.Settings
import PortPool.Window

namespace PortPool

set_option autoImplicit false

namespace Store

/-- Add an active binding and link it to the ports of its span. -/
def bind (s : Store) (owner : String) (first last : Int) (now : Time.Instant) :
    Except Fault (Binding × Store) :=
  let written := do
    let reservedAt := Time.Rfc3339.stored now
    let t ← s.addBinding (some owner) (some first) (some last) (some reservedAt) none
    t.linkSpan s.nextBinding first last
  match written with
  | .ok t =>
    .ok (⟨s.nextBinding, owner, PortNumber.wrap first, PortNumber.wrap last, now, none⟩, t)
  | .error _ => .error .store

/-- The first number above everything that the pool knows. -/
def nextNumber (s : Store) (range : PortRange) : Except Fault Nat := do
  match ← s.largestPort with
  | none => pure range.start
  | some number => pure (max (number.val + 1) range.start)

/-- Extend the pool by `size` new ports and bind them. -/
def grow (s : Store) (range : PortRange) (owner : String) (size : Nat) (now : Time.Instant) :
    Except Fault (Binding × Store) := do
  let next ← s.nextNumber range
  let last := next + size - 1
  if last < range.stop then (s.fillPorts next size).bind owner next last now
  else .error (.poolExhausted size range.start range.stop)

/-- Reserve `size` adjacent ports. -/
def reserveSpan (s : Store) (range : PortRange) (owner : String) (size : Nat)
    (now : Time.Instant) : Except Fault (Binding × Store) := do
  if size = 0 then .error (.invalidRequest .sizeZero)
  else
    let _ ← s.getInstance owner
    match findWindowStart ((s.freePorts range).map (·.number)) size with
    | some first => s.bind owner first (first + (size - 1 : Nat)) now
    | none => s.grow range owner size now

/-- Reserve one port: the lowest free one, or the next above the pool. -/
def reserveOne (s : Store) (range : PortRange) (owner : String) (now : Time.Instant) :
    Except Fault (Binding × Store) := do
  let _ ← s.getInstance owner
  match (s.freePorts range).head? with
  | some r => s.bind owner r.number r.number now
  | none => s.grow range owner 1 now

/-- Reserve as many ports as are asked for, one if no number is given.  A number
has to fit 32 bits. -/
def reserve (s : Store) (range : PortRange) (owner : String) (size : Option Int)
    (now : Time.Instant) : Except Fault (Binding × Store) :=
  match size with
  | none => s.reserveOne range owner now
  | some n =>
    if n = 1 then s.reserveOne range owner now
    else if n < 1 then .error (.invalidRequest (.sizeNotPositive n))
    else if UInt32.size ≤ n then .error (.invalidRequest (.sizeTooLarge n))
    else s.reserveSpan range owner n.toNat now

/-- Reserve spans of one size, one after the other, until one is not granted or
`limit` of them are. -/
def reserveUpTo (range : PortRange) (owner : String) (size : Nat) (now : Time.Instant) :
    Nat → Store → List Binding × Store
  | 0, s => ([], s)
  | limit + 1, s =>
    match s.reserveSpan range owner size now with
    | .error _ => ([], s)
    | .ok (b, t) =>
      let (bs, t) := reserveUpTo range owner size now limit t
      (b :: bs, t)

/-- Reserve spans of one size until no more is granted: a range has room for no
more spans than it has numbers. -/
def reserveAll (s : Store) (range : PortRange) (owner : String) (size : Nat)
    (now : Time.Instant) : List Binding × Store :=
  reserveUpTo range owner size now range.size s

end Store

end PortPool
