/-
# PortPool.Ports -- port numbers, the range of a pool and spans

A port number has sixteen bits.  A pool manages the numbers of a range, its end
excluded; port zero is in no range, and no range is empty.  What is reserved is
a span: a first and a last number, both included, written `8000` when it is one
port and `8000:8002` when it is more.
-/
import PortPool.Text.Numeral

namespace PortPool

set_option autoImplicit false

open PortPool.Text (Numeral.decimal)

/-- A port number. -/
abbrev PortNumber := Fin 65536

/-- The port of a number, if it is one. -/
def PortNumber.ofInt? (i : Int) : Option PortNumber :=
  if h : 0 ≤ i ∧ i.toNat < 65536 then some ⟨i.toNat, h.2⟩ else none

/-- The low sixteen bits of a number. -/
def PortNumber.wrap (i : Int) : PortNumber :=
  ⟨(i % 65536).toNat, by omega⟩

theorem PortNumber.wrap_val {i : Int} (low : 0 ≤ i) (high : i < 65536) :
    ((PortNumber.wrap i).val : Int) = i := by
  simp only [PortNumber.wrap]
  omega

/-- The numbers that a pool manages: from `start` on, below `stop`. -/
structure PortRange where
  start : Nat
  stop : Nat
  start_pos : 0 < start
  start_lt_stop : start < stop
  stop_lt : stop < 65536
deriving DecidableEq, Repr

/-- Why two numbers bound no range. -/
inductive RangeFlaw where
  | startsAtZero
  | startNotBelowEnd (start stop : Nat)
deriving DecidableEq, Repr

def RangeFlaw.message : RangeFlaw → String
  | .startsAtZero => "port range cannot start at 0"
  | .startNotBelowEnd start stop =>
    "port range start " ++ Numeral.decimal start ++ " must be below end " ++ Numeral.decimal stop

namespace PortRange

/-- The range between two numbers. -/
def make (start stop : PortNumber) : Except RangeFlaw PortRange :=
  if zero : start.val = 0 then .error .startsAtZero
  else if below : start.val < stop.val then
    .ok ⟨start.val, stop.val, by omega, below, stop.isLt⟩
  else .error (.startNotBelowEnd start.val stop.val)

/-- The number lies in the range. -/
def has (r : PortRange) (n : Int) : Bool := r.start ≤ n && n < r.stop

/-- How many numbers the range has. -/
def size (r : PortRange) : Nat := r.stop - r.start

end PortRange

/-- The text of a span. -/
def spanText (first last : Nat) : String :=
  if first = last then Numeral.decimal first
  else Numeral.decimal first ++ ":" ++ Numeral.decimal last

end PortPool
