/-
# PortPool.Observation -- ports that the pool comes to know

A host reports the ports that are in use on it, and those in the range are
recorded as known; nothing is reserved by that.  A pool may also be seeded: then
all ports of its range are recorded at once.
-/
import PortPool.Registry
import PortPool.Settings
import PortPool.Ascending

namespace PortPool

set_option autoImplicit false

namespace Store

/-- The ports of some numbers, one after the other; a number that is not known is
recorded first. -/
def recordEach : List PortNumber → Store → Except Fault (List Port × Store)
  | [], s => .ok ([], s)
  | n :: ns, s => do
    let s := if (s.ports.find? n.val).isSome then s else s.fillPorts n.val 1
    match ← s.findPort n with
    | none => .error (.internal ("port " ++ Text.Numeral.decimal n.val ++ " vanished"))
    | some port => do
      let (ports, s) ← recordEach ns s
      pure (port :: ports, s)

/-- The ports of the reported numbers that lie in the range, each once and in
ascending order; those that were not known are recorded. -/
def observe (s : Store) (range : PortRange) (reported : List PortNumber) :
    Except Fault (List Port × Store) :=
  let within := reported.filter fun n => range.has n.val
  recordEach ((ascending (within.map (·.val))).map fun (n : Nat) => PortNumber.wrap (n : Int)) s

/-- Record all ports of the range; how many of them are new. -/
def seed (s : Store) (range : PortRange) : Nat × Store :=
  let t := s.fillPorts range.start range.size
  (t.ports.rows.length - s.ports.rows.length, t)

end Store

end PortPool
