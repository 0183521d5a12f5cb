/-
# PortPool.Console -- the client and the service in one place

A console keeps the store of a service and takes command lines of the client.
What a command line asks of the service is asked of this one, whatever address it
gives, so a reply is the output that a client of a running service would see.
-/
import PortPool.Client.Plan
import PortPool.Host.Sockets
import PortPool.Http.Service

namespace PortPool

set_option autoImplicit false

open PortPool.Client (Exchange Failure)
open PortPool.Command (Environment Stop)
open PortPool.Command.Client (Invocation)

/-- A service: its settings and its store. -/
structure Console where
  settings : Settings
  store : Store

/-- The reply to a command line: output, or why there is none, or that the agent
watches from now on. -/
inductive Reply where
  | output (text : String)
  | stopped (stop : Stop)
  | failed (failure : Failure)
  | watching (invocation : Invocation) (seconds : Nat)

namespace Console

/-- A service with an empty store, or with every port of the range in it. -/
def start (settings : Settings) (seeded : Bool) : Console :=
  ⟨settings, if seeded then (Store.empty.seed settings.range).2 else Store.empty⟩

/-- Carry out an exchange. -/
def exchange (c : Console) (now : Time.Instant) (e : Exchange) : Reply × Console :=
  let (response, store) := Http.serve c.settings now c.store e.request
  let reply :=
    match e.conclude response with
    | .ok text => .output text
    | .error failure => .failed failure
  (reply, { c with store })

/-- Carry out what a command line asks for. -/
def carryOut (c : Console) (machine : Host.Machine) (now : Time.Instant)
    (invocation : Invocation) : Reply × Console :=
  match Client.plan machine invocation with
  | .error failure => (.failed failure, c)
  | .ok (.watch seconds) => (.watching invocation seconds, c)
  | .ok (.exchange e) => c.exchange now e

/-- Reply to a command line. -/
def reply (c : Console) (machine : Host.Machine) (env : Environment) (now : Time.Instant)
    (words : List String) : Reply × Console :=
  match Command.Client.parse env words with
  | .error stop => (.stopped stop, c)
  | .ok invocation => c.carryOut machine now invocation

/-- Report the ports on which the machine listens, as the agent that watches does
in every round. -/
def report (c : Console) (machine : Host.Machine) (now : Time.Instant)
    (invocation : Invocation) (tables : List (Option (List UInt8))) : Reply × Console :=
  let ports := (Host.Sockets.listeningPorts tables).map fun (n : Nat) => PortNumber.wrap n
  c.carryOut machine now { invocation with action := .report ports }

end Console

end PortPool
