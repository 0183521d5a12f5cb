/-
# PortPool.Main -- a console on a pool

The arguments are the options of the service.  Every line of standard input is a
command line of the client, which is carried out on a pool kept in memory; its
output goes to standard output, and what goes wrong to standard error.
-/
import PortPool.Command.Daemon
import PortPool.Console
import PortPool.Host.Kernel

namespace PortPool.Main

set_option autoImplicit false

open PortPool.Command (Environment Level Stop)
open PortPool.Command.Client (Invocation)
open PortPool.Host (Machine)

/-- The content of a file, if it can be read. -/
def readFile? (path : String) : IO (Option (List UInt8)) := do
  try
    return some (← IO.FS.readBinFile path).toList
  catch _ => return none

/-- The variables that a grammar asks for, and the home directory. -/
def readEnvironment (l : Level) : IO Environment := do
  let given ← ("HOME" :: l.envNames).filterMapM fun name => do
    return (← IO.getEnv name).map fun value => (name, value)
  return { lookup := fun name => given.lookup name }

/-- This machine. -/
def readMachine : IO Machine := do
  let idFiles ← ["/etc/machine-id", "/var/lib/dbus/machine-id"].mapM readFile?
  let hostname := Host.Kernel.hostname (← readFile? "/proc/sys/kernel/hostname")
  let processors := Host.Kernel.processors (← readFile? "/proc/cpuinfo")
  return ⟨idFiles, hostname, processors⟩

/-- The tables of the kernel's sockets. -/
def readSocketTables : IO (List (Option (List UInt8))) :=
  ["/proc/net/tcp", "/proc/net/tcp6"].mapM readFile?

/-- The present instant: the start of the machine and the time since. -/
def readClock : IO Time.Instant := do
  let start := (Host.Kernel.startSecond? (← readFile? "/proc/stat")).getD 0
  let nanos ← IO.monoNanosNow
  return Time.Instant.ofUnix (start + nanos / 1000000000) (nanos % 1000000000)

/-- Show a failure, or the output. -/
def tell : Reply → IO Unit
  | .output text => IO.print text
  | .stopped stop => IO.eprintln stop.message
  | .failed failure => IO.eprintln failure.message
  | .watching .. => pure ()

/-- Report the listening ports, wait, and begin again. -/
partial def watch (machine : Machine) (invocation : Invocation) (seconds : Nat) (c : Console) :
    IO Unit := do
  let (reply, c) := c.report machine (← readClock) invocation (← readSocketTables)
  tell reply
  IO.sleep (UInt32.ofNat (min (seconds * 1000) 4294967295))
  watch machine invocation seconds c

/-- Reply to one line after another. -/
partial def converse (machine : Machine) (env : Environment) (input : IO.FS.Stream)
    (c : Console) : IO Unit := do
  let line ← input.getLine
  if line.isEmpty then pure ()
  else
    let words := (Text.words line.toList).map String.ofList
    let (reply, c) := c.reply machine env (← readClock) words
    tell reply
    match reply with
    | .watching invocation seconds => watch machine invocation seconds c
    | _ => converse machine env input c

/-- Serve a pool with the options of the service. -/
def run (args : List String) : IO UInt32 := do
  match Command.Daemon.parse (← readEnvironment Command.Daemon.grammar) args with
  | .error stop =>
    IO.eprintln stop.message
    return if stop.isRequest then 0 else 2
  | .ok options =>
    match options.settings with
    | .error fault =>
      IO.eprintln fault.message
      return 1
    | .ok settings =>
      let env ← readEnvironment Command.Client.grammar
      converse (← readMachine) env (← IO.getStdin) (Console.start settings options.seed)
      return 0

end PortPool.Main

def main (args : List String) : IO UInt32 := PortPool.Main.run args
