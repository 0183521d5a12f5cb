/-
# PortPool.Url.Scheme -- what a URL begins with

The scheme is the word before the first colon.  It decides how the rest is read:
behind the schemes of the web a server always stands, a file may be on a server or
not, and all other schemes are read by one general rule.
-/
namespace PortPool.Url

set_option autoImplicit false

/-- The schemes behind which a server always stands, and its usual port. -/
def usualPorts : List (String × Nat) :=
  [("http", 80), ("https", 443), ("ws", 80), ("wss", 443), ("ftp", 21)]

/-- The port that a scheme uses unless another is given. -/
def usualPort? (scheme : List Char) : Option Nat :=
  (usualPorts.find? fun p => p.1.toList == scheme).map (·.2)

/-- How the rest of a URL is read. -/
inductive Kind where
  | web
  | file
  | general
deriving DecidableEq, Repr

/-- The kind of a scheme in small letters. -/
def kindOf (scheme : List Char) : Kind :=
  if (usualPort? scheme).isSome then .web else if scheme = "file".toList then .file else .general

/-- The scheme, in small letters, and what stands behind its colon.  It begins
with a letter. -/
def cutScheme (s : List Char) : Option (List Char × List Char) :=
  let name := s.takeWhile fun c => c.isAlphanum || c = '+' || c = '-' || c = '.'
  match s.drop name.length with
  | ':' :: rest => if s.head?.any Char.isAlpha then some (name.map Char.toLower, rest) else none
  | _ => none

end PortPool.Url
