/-
# PortPool.Command.Daemon -- the command line of the service

The options of the service: where it listens, where its store is kept, the range
and the ownership rule of its pool, whether the pool is seeded at the start, and
how much it logs.  Every option may also come from the environment.
-/
import PortPool.Command.Numbers
import PortPool.Net.SocketAddress
import PortPool.Settings

namespace PortPool.Command.Daemon

set_option autoImplicit false

open PortPool.Net (SocketAddress)

/-- What the service is started with. -/
structure Options where
  listen : SocketAddress
  store : String
  start : PortNumber
  stop : PortNumber
  seed : Bool
  ownership : Ownership
  logLevel : String
deriving DecidableEq, Repr

/-- The settings of the pool. -/
def Options.settings (o : Options) : Except Fault Settings :=
  Settings.make o.start o.stop o.ownership

/-- An ownership rule. -/
def ownershipOf? (s : String) : Option Ownership :=
  if s = "optional" then some .optional else if s = "required" then some .required else none

/-- A path that is not empty. -/
def checkPath : Check := fun s => if s.isEmpty then some .invalidValue else none

/-- One of the ownership rules. -/
def checkOwnership : Check := fun s =>
  if (ownershipOf? s).isSome then none else some .invalidValue

/-- The grammar. -/
def grammar : Level :=
  .mk
    [{ name := "listen", envName := some "GATEKEEPER_LISTEN",
       check := checkBy SocketAddress.parse? },
     { name := "db-path", envName := some "GATEKEEPER_DB", check := checkPath },
     { name := "port-range-start", envName := some "PORT_RANGE_START", check := checkBy portOf? },
     { name := "port-range-end", envName := some "PORT_RANGE_END", check := checkBy portOf? },
     { name := "seed-pool", envName := some "GATEKEEPER_SEED_POOL", switch := true },
     { name := "release-ownership", envName := some "GATEKEEPER_RELEASE_OWNERSHIP",
       check := checkOwnership },
     { name := "log-level", envName := some "LOG_LEVEL" }]
    .none [] false []

/-- A path within a directory. -/
def within (directory name : String) : String :=
  if directory.isEmpty || directory.toList.getLast? == some '/' then directory ++ name
  else directory ++ "/" ++ name

/-- Where the store is kept unless an option says otherwise: in the home
directory. -/
def defaultStore (env : Environment) : String :=
  let home := ((env.lookup "HOME").filter fun h => !h.isEmpty) <|> env.accountHome
  within (within (home.getD ".") ".portmanager") "gatekeeper.db"

/-- The address to listen on unless an option says otherwise. -/
def defaultListen : SocketAddress := .v4 [127, 0, 0, 1] 3030

/-- The options of a command line. -/
def parse (env : Environment) (words : List String) : Except Stop Options := do
  let p ← Command.parse grammar env words
  let given {α : Type} (name : String) (read : String → Option α) (otherwise : α) : α :=
    ((p.value? name).bind read).getD otherwise
  pure
    { listen := given "listen" SocketAddress.parse? defaultListen
      store := given "db-path" some (defaultStore env)
      start := given "port-range-start" portOf? 8000
      stop := given "port-range-end" portOf? 9000
      seed := p.isOn "seed-pool"
      ownership := given "release-ownership" ownershipOf? .optional
      logLevel := given "log-level" some "info" }

end PortPool.Command.Daemon
