/-
# PortPool.Window -- the first run of adjacent numbers

A window of some size is a run of that many entries of a list.  In a strictly
ascending list of numbers a window is a run of adjacent numbers exactly when its
last number is as far above its first as its size allows, so only the two ends
of each window are compared.
-/
namespace PortPool

set_option autoImplicit false

/-- The offset of the first window of `size` entries of an ascending list whose
numbers are adjacent. -/
def findWindow (numbers : List Int) (size : Nat) : Option Nat :=
  if size = 0 then none
  else
    (numbers.zip (numbers.drop (size - 1))).findIdx? fun (first, last) =>
      last == first + (size - 1 : Nat)

/-- The first number of that window. -/
def findWindowStart (numbers : List Int) (size : Nat) : Option Int :=
  (findWindow numbers size).bind (numbers[·]?)

end PortPool
