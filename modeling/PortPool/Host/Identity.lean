/-
# PortPool.Host.Identity -- who this machine is

A machine's fingerprint is the hash of its machine id, its host name and its
architecture, parted by zero octets, so that no two of the three run together.
The machine id is the trimmed content of the first of its files that can be read
and is not blank; a machine without one hashes the empty text.  The description
that goes with it tells the system, the architecture, the host name and the
number of processors.
-/
import PortPool.Host.Sha256
import PortPool.Text.Blank
import PortPool.Text.Utf8
import PortPool.Json.Value

namespace PortPool.Host

set_option autoImplicit false

open PortPool.Text

/-- What a machine tells about itself: the contents of the files of its machine
id, missing ones as none, its host name, and how many processors it has. -/
structure Machine where
  idFiles : List (Option (List UInt8))
  hostname : Option (List UInt8)
  processors : Nat
deriving DecidableEq, Repr

/-- The platform that this program runs on. -/
def system : String := "linux"
def architecture : String := "x86_64"

namespace Machine

/-- The machine id, if a file has one. -/
def machineId? (m : Machine) : Option String :=
  m.idFiles.findSome? fun file => do
    let s ← Utf8.strict? (← file)
    let id := trim s
    if id.isEmpty then none else some (String.ofList id)

/-- The host name; octets that are no UTF-8 become U+FFFD. -/
def name (m : Machine) : String :=
  match m.hostname with
  | some octets => String.ofList (Utf8.lossy octets)
  | none => "unknown"

end Machine

/-- What is hashed: the three parts with a zero octet after the first and the
second. -/
def identityOctets (machineId hostname architecture : String) : List UInt8 :=
  Utf8.ofString machineId ++ 0 :: Utf8.ofString hostname ++ 0 :: Utf8.ofString architecture

/-- The fingerprint of three parts. -/
def fingerprintOf (machineId : Option String) (hostname architecture : String) : String :=
  String.ofList
    (Sha256.hex (Sha256.digest (identityOctets (machineId.getD "") hostname architecture)))

namespace Machine

/-- The machine's fingerprint. -/
def fingerprint (m : Machine) : String := fingerprintOf m.machineId? m.name architecture

/-- The machine's description. -/
def description (m : Machine) : Json.Members :=
  [("arch", .text architecture), ("cpu_count", Json.Value.ofNat m.processors),
    ("hostname", .text m.name), ("os", .text system)]

end Machine

end PortPool.Host
