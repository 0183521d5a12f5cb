/-
# PortPool.Url.Host -- the server that a URL names

A server is named, or given by its address: eight groups in brackets, or four
numbers.  For the schemes that have rules of their own a name is a domain name,
and one that ends in a number has to be an address; its numbers may be decimal,
octal or hexadecimal, and the last one fills up what the others leave.  For all
other schemes a name is kept as it is typed, in so far as it can be.
-/
import PortPool.Domain.Name
import PortPool.Net.SocketAddress
import PortPool.Url.Escape

namespace PortPool.Url

set_option autoImplicit false

open PortPool.Text

/-- The server that a URL names. -/
inductive Host where
  | name (text : List Char)
  | v4 (octets : List Nat)
  | v6 (groups : List Nat)
deriving DecidableEq, Repr

namespace Host

/-! ## Writing -/

/-- Eight groups, where the first longest run of at least two zeros is left out. -/
def groupsText (gs : List Nat) : List Char :=
  let (start, length) := Net.SocketAddress.longestRun gs
  if length ≤ 1 then Net.SocketAddress.groupsText gs
  else
    Net.SocketAddress.groupsText (gs.take start) ++
      ':' :: ':' :: Net.SocketAddress.groupsText (gs.drop (start + length))

/-- The host as it stands in a URL. -/
def text : Host → List Char
  | .name s => s
  | .v4 octets => List.intercalate ['.'] (octets.map Numeral.digits)
  | .v6 groups => '[' :: groupsText groups ++ [']']

/-! ## Four numbers -/

/-- One of the numbers: hexadecimal behind `0x`, octal behind another zero, else
decimal. -/
def number? (s : List Char) : Option Nat :=
  match s with
  | '0' :: c :: rest =>
    if c = 'x' || c = 'X' then if rest.isEmpty then some 0 else Numeral.natOf? 16 rest
    else Numeral.natOf? 8 (c :: rest)
  | _ => Numeral.natOf? 10 s

/-- The parts of a name; a point at the end does not count. -/
def parts (name : List Char) : List (List Char) :=
  let ps := pieces '.' name
  if 1 < ps.length && ps.getLast? == some [] then ps.dropLast else ps

/-- The last part is a number, so the name has to be an address. -/
def endsInNumber (name : List Char) : Bool :=
  (parts name).getLast?.any fun last =>
    (!last.isEmpty && last.all Char.isDigit) || (number? last).isSome

/-- The four numbers of an address. -/
def octets? (name : List Char) : Option (List Nat) := do
  let numbers ← (parts name).mapM number?
  let last ← numbers.getLast?
  let front := numbers.dropLast
  let room := 4 - front.length
  if 3 < front.length || front.any (255 < ·) || Nat.pow 256 room ≤ last then none
  else some (front ++ (List.range room).map fun i => last / Nat.pow 256 (room - 1 - i) % 256)

/-! ## Reading -/

/-- The address in brackets, if there is an opening one; `other` reads the rest. -/
def bracketedOr (other : List Char → Option Host) : List Char → Option Host
  | '[' :: rest =>
    if rest.getLast? = some ']' then
      (Net.SocketAddress.eightGroups.whole rest.dropLast).map .v6
    else none
  | s => other s

/-- The server of a domain name or of four numbers. -/
def ofDomain? (s : List Char) : Option Host := do
  let typed ← Utf8.strict? (Percent.decode (Utf8.encode s))
  let name ← Domain.inAscii typed
  if name.isEmpty then none
  else if endsInNumber name then (octets? name).map .v4
  else some (.name name)

/-- The server of a URL of the web, or of a file. -/
def domain? : List Char → Option Host := bracketedOr ofDomain?

/-- A character that stands in no name. -/
def isForbidden (c : Char) : Bool :=
  ['\x00', '\t', '\n', '\x0d', ' '].contains c || "#/:<>?@[\\]^|".toList.contains c

/-- The server of any other URL. -/
def typed? : List Char → Option Host :=
  bracketedOr fun s =>
    if s.any isForbidden then none else some (.name (escaped inOpaque s))

end Host

end PortPool.Url
