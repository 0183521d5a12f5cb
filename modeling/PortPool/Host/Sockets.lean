/-
# PortPool.Host.Sockets -- the ports on which a machine listens

The kernel lists its sockets in tables: a header line, then a line per socket,
whose second column is the local address, a colon and the port in hexadecimal,
and whose fourth is the state, `0A` for one that listens.  A line of another
form is passed over, as is a table that is missing or no text.
-/
import PortPool.Text.Blank
import PortPool.Text.Utf8
import PortPool.Text.Numeral
import PortPool.Text.Split
import PortPool.Ascending

namespace PortPool.Host.Sockets

set_option autoImplicit false

open PortPool.Text

/-- The state of a socket that listens. -/
def listening : List Char := ['0', 'A']

/-- The port of a line, if its socket listens. -/
def portOfLine (line : List Char) : Option Nat :=
  match words line with
  | _ :: address :: _ :: state :: _ =>
    if state = listening then do
      let (_, port) ← cutLast ':' address
      (Numeral.unsigned? 16 port).filter (· < 65536)
    else none
  | _ => none

/-- The ports of a table, in its order. -/
def portsOfTable (table : List Char) : List Nat := ((lines table).drop 1).filterMap portOfLine

/-- The ports of some tables, each once, in ascending order. -/
def listeningPorts (tables : List (Option (List UInt8))) : List Nat :=
  ascending (tables.flatMap fun table => ((table.bind Utf8.strict?).map portsOfTable).getD [])

end PortPool.Host.Sockets
