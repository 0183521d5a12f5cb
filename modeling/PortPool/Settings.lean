/-
# PortPool.Settings -- how a pool is run

A pool is run over a range of port numbers, and with a rule for releases that
name no instance.
-/
import PortPool.Fault

namespace PortPool

set_option autoImplicit false

/-- What a release that names no instance may do: end anyone's binding, or
nothing. -/
inductive Ownership where
  | optional
  | required
deriving DecidableEq, Repr

/-- The settings of a pool. -/
structure Settings where
  range : PortRange
  ownership : Ownership := .optional
deriving DecidableEq, Repr

/-- The settings over the range between two numbers. -/
def Settings.make (start stop : PortNumber) (ownership : Ownership) : Except Fault Settings :=
  match PortRange.make start stop with
  | .ok range => .ok ⟨range, ownership⟩
  | .error flaw => .error (.settings (.range flaw))

end PortPool
