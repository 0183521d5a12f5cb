/-
# PortPool.Url.Basic -- where something is found

A URL has a scheme, perhaps a server and who asks it, a path, and perhaps a query
and a fragment.  All parts are kept as they are written, so `text` only puts them
together.  What changes in a URL before a request is made is here as well:
credentials do not stay in it, and pairs are added to its query.
-/
import PortPool.Text.Form
import PortPool.Url.Host

namespace PortPool

set_option autoImplicit false

open PortPool.Text

namespace Url

/-- What stands between two slashes and the path: who asks, a server and its port. -/
structure Authority where
  user : List Char
  password : Option (List Char)
  host : Option Host
  port : Option Nat
deriving DecidableEq, Repr

namespace Authority

/-- No server. -/
def nowhere : Authority := ⟨[], none, none, none⟩

/-- A part with a mark in front of it, or nothing. -/
def marked (mark : Char) : Option (List Char) → List Char
  | some part => mark :: part
  | none => []

/-- The authority as it is written. -/
def text (a : Authority) : List Char :=
  let credentials := a.user ++ marked ':' a.password
  (if credentials.isEmpty then [] else credentials ++ ['@']) ++
    (a.host.map Host.text).getD [] ++ marked ':' (a.port.map Numeral.digits)

/-- The text that a part stands for, if it is one. -/
def meaning? (part : List Char) : Option (List Char) :=
  Utf8.strict? (Percent.decode (Utf8.encode part))

/-- The authority without credentials.  They stay if the user is no text, and a
password alone stays if it is none. -/
def withoutCredentials (a : Authority) : Authority :=
  let isGiven :=
    (meaning? a.user).isSome && (!a.user.isEmpty || (a.password.bind meaning?).isSome)
  if isGiven then { a with user := [], password := none } else a

end Authority

end Url

/-- A URL. -/
structure Url where
  scheme : List Char
  authority : Option Url.Authority
  path : List Char
  query : Option (List Char)
  fragment : Option (List Char)
deriving DecidableEq, Repr

namespace Url

/-- The server. -/
def host? (u : Url) : Option Host := u.authority.bind (·.host)

/-- What stands between the scheme and the query.  Two slashes at the beginning of
a path are kept from being taken for an authority. -/
def place (u : Url) : List Char :=
  match u.authority with
  | some a => '/' :: '/' :: a.text ++ u.path
  | none => if ['/', '/'].isPrefixOf u.path then '/' :: '.' :: u.path else u.path

/-- The URL as text. -/
def text (u : Url) : String :=
  String.ofList
    (u.scheme ++ ':' :: u.place ++ Authority.marked '?' u.query ++
      Authority.marked '#' u.fragment)

/-- The URL without credentials. -/
def withoutCredentials (u : Url) : Url :=
  { u with authority := u.authority.map (·.withoutCredentials) }

/-- The URL with pairs added to its query.  A query with nothing in it goes. -/
def withPairs (u : Url) (pairs : List (String × String)) : Url :=
  let old := u.query.getD []
  let new := Form.render pairs
  let query := if old.isEmpty then new else if new.isEmpty then old else old ++ '&' :: new
  { u with query := if query.isEmpty then none else some query }

/-- The most characters of a URL that is asked. -/
def longestAsked : Nat := 65534

/-- A character of the names that are asked: a letter, a digit, or one of a few
signs. -/
def inAskedName (c : Char) : Bool :=
  c.isAlphanum || "-._~!$&()*+,;=".toList.contains c || c = Char.ofNat 0x27

/-- The host can be asked over HTTP. -/
def Host.canBeAsked : Host → Bool
  | .name s => s.all inAskedName
  | _ => true

/-- The URL can be asked over HTTP. -/
def canBeAsked (u : Url) : Bool :=
  (u.scheme = "http".toList || u.scheme = "https".toList) &&
    u.host?.any Host.canBeAsked && u.text.length ≤ longestAsked

/-- What is asked of the server: the path and the query. -/
def target (u : Url) : List UInt8 := Utf8.encode (u.path ++ Authority.marked '?' u.query)

end Url

end PortPool
