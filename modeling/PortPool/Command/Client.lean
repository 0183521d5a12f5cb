/-
# PortPool.Command.Client -- the command line of the client

What the client can be told to do: register, show and list instances; reserve,
release and list ports and show the history; report ports in use, once or again
and again.  At every level the address of the service and the instance to act as
can be given.
-/
import PortPool.Command.Numbers
import PortPool.Client.Target

namespace PortPool.Command.Client

set_option autoImplicit false

open PortPool.Client (Target)

/-- What the client is told to do. -/
inductive Action where
  | join (name : Option String)
  | showInstance (id : Option String)
  | listInstances
  | reserve (size : Option Int)
  | release (target : Target) (anyOwner : Bool)
  | listPorts (reserved free mine : Bool)
  | history (all : Bool)
  | report (ports : List PortNumber)
  | watch (seconds : Nat)
deriving DecidableEq, Repr

/-- An action, the service it is asked of, and the instance to act as, if one is
named. -/
structure Invocation where
  server : String
  instanceId : Option String
  action : Action
deriving DecidableEq, Repr

/-- The service unless an option says otherwise. -/
def defaultServer : String := "http://localhost:3030"

/-- The target of a text. -/
def targetOf? (s : String) : Option Target := (Target.parse s).toOption

/-- The options that every level takes. -/
def everywhere : List Opt :=
  [{ name := "server", envName := some "GATEKEEPER_URL" },
   { name := "instance-id", envName := some "GATEKEEPER_INSTANCE_ID" }]

/-- A level without further commands. -/
def leaf (options : List Opt) (arguments : Arguments := .none)
    (exclusive : List (String × String) := []) : Level :=
  .mk (options ++ everywhere) arguments exclusive false []

/-- A level that only leads to others. -/
def branch (version : Bool) (commands : List (String × Level)) : Level :=
  .mk everywhere .none [] version commands

/-- A switch. -/
def switch (name : String) : Opt := { name, switch := true }

/-- The commands about instances. -/
def instanceCommands : List (String × Level) :=
  [("join", leaf [{ name := "name" }]),
   ("show", leaf [] (.one false anyText)),
   ("list", leaf [])]

/-- The commands about ports. -/
def portCommands : List (String × Level) :=
  [("reserve", leaf [{ name := "range", check := checkBy sizeOf? }]),
   ("release", leaf [switch "any-owner"] (.one true (checkBy targetOf?))),
   ("list", leaf [switch "reserved", switch "free", switch "mine"] .none [("reserved", "free")]),
   ("history", leaf [switch "all"])]

/-- The commands of the agent. -/
def agentCommands : List (String × Level) :=
  [("report", leaf [] (.many (checkBy portOf?))),
   ("watch", leaf [{ name := "interval", check := checkBy secondsOf? }])]

/-- The grammar. -/
def grammar : Level :=
  branch true
    [("instance", branch false instanceCommands), ("port", branch false portCommands),
     ("agent", branch false agentCommands)]

/-- The action of a command line. -/
def actionOf (p : Parsed) : Except Stop Action :=
  let argument := p.arguments.head?
  match p.commands with
  | ["instance", "join"] => .ok (.join (p.value? "name"))
  | ["instance", "show"] => .ok (.showInstance argument)
  | ["instance", "list"] => .ok .listInstances
  | ["port", "reserve"] => .ok (.reserve ((p.value? "range").bind sizeOf?))
  | ["port", "release"] =>
    match argument.bind targetOf? with
    | some target => .ok (.release target (p.isOn "any-owner"))
    | none => .error .missingRequiredArgument
  | ["port", "list"] => .ok (.listPorts (p.isOn "reserved") (p.isOn "free") (p.isOn "mine"))
  | ["port", "history"] => .ok (.history (p.isOn "all"))
  | ["agent", "report"] => .ok (.report (p.arguments.filterMap portOf?))
  | ["agent", "watch"] => .ok (.watch (((p.value? "interval").bind secondsOf?).getD 30))
  | _ => .error .missingSubcommand

/-- What a command line asks for. -/
def parse (env : Environment) (words : List String) : Except Stop Invocation := do
  let p ← Command.parse grammar env words
  let action ← actionOf p
  pure ⟨(p.value? "server").getD defaultServer, p.value? "instance-id", action⟩

end PortPool.Command.Client
