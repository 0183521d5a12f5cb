/-
# PortPool.Url.Reader -- the URL of a text

Reading a URL puts it in order: controls and blanks around it go, tabs and line
ends within it go, the scheme is written in small letters, a usual port goes, the
path is resolved, and octets that may not stand in a part are escaped.  Not every
text is a URL.

A backslash counts as a slash in the schemes that have rules of their own.
-/
import PortPool.Url.Basic
import PortPool.Url.Path
import PortPool.Url.Scheme

namespace PortPool.Url

set_option autoImplicit false

open PortPool.Text

/-! ## The text -/

/-- A control or a blank, which is cut off at both ends. -/
def isOuter (c : Char) : Bool := c.toNat ≤ 0x20

/-- A tab or a line end, which is dropped wherever it stands. -/
def isDropped (c : Char) : Bool := c = '\t' || c = '\n' || c = '\x0d'

/-- The text that is read. -/
def cleaned (s : List Char) : List Char :=
  ((s.dropWhile isOuter).reverse.dropWhile isOuter).reverse.filter fun c => !isDropped c

/-- What stands before `?` and `#`, behind `?`, and behind `#`. -/
def splitTail (s : List Char) : List Char × Option (List Char) × Option (List Char) :=
  let (front, fragment) := cutFirst '#' s
  let (front, query) := cutFirst '?' front
  (front, query, fragment)

/-- Backslashes as slashes. -/
def withSlashes (s : List Char) : List Char := s.map fun c => if c = '\\' then '/' else c

/-! ## Who asks which server -/

/-- A host, and the rest from its colon on; within brackets a colon does not
count. -/
def splitPort (s : List Char) : List Char × List Char :=
  let bracketed := if s.head? = some '[' then (s.takeWhile (· ≠ ']')).length else 0
  let host := s.take bracketed ++ (s.drop bracketed).takeWhile (· ≠ ':')
  (host, s.drop host.length)

/-- The port behind a colon, unless it is the usual one, and what a backslash
behind it begins. -/
def port? (usual : Option Nat) : List Char → Option (Option Nat × List Char)
  | ':' :: s =>
    let ds := s.takeWhile Char.isDigit
    let rest := s.drop ds.length
    if rest.head?.all (· = '\\') then
      match Numeral.natOf? 10 ds with
      | none => some (none, rest)
      | some n =>
        if 65536 ≤ n then none else some (if usual = some n then none else some n, rest)
    else none
  | s => some (none, s)

/-- The authority of a text, and what of the path stands in it.  Where no server is
named, neither a port nor a user is; `:` alone names no user. -/
def authority? (hostOf : List Char → Option Host) (usual : Option Nat) (s : List Char) :
    Option (Authority × List Char) := do
  let (credentials, server) :=
    match cutLast '@' s with
    | some (credentials, server) => (some credentials, server)
    | none => (none, s)
  let (name, behind) := splitPort server
  if name.isEmpty then
    if behind.isEmpty && credentials.all (· = [':']) then some (.nowhere, []) else none
  else
    let host ← hostOf name
    let (port, rest) ← port? usual behind
    let (user, password) := cutFirst ':' (credentials.getD [])
    let password := password.filter fun p => !p.isEmpty
    some (⟨escaped inUser user, password.map (escaped inUser), some host, port⟩, rest)

/-- A text up to its first slash, and from there on. -/
def splitSlash (s : List Char) : List Char × List Char :=
  (s.takeWhile (· ≠ '/'), s.dropWhile (· ≠ '/'))

/-! ## Server and path -/

/-- A server always stands behind a scheme of the web, however many slashes part
them. -/
def webPlace? (usual : Option Nat) (s : List Char) : Option (Option Authority × List Char) := do
  let (server, path) := splitSlash ((withSlashes s).dropWhile (· = '/'))
  let (authority, _) ← authority? Host.domain? usual server
  if authority.host.isNone then none else some (some authority, pathOf path)

/-- A file may be on a server, which has no port.  A drive is on none, and neither
is what `localhost` has. -/
def filePlace? (s : List Char) : Option (Option Authority × List Char) :=
  match withSlashes s with
  | '/' :: '/' :: s =>
    let (server, path) := splitSlash s
    if server.isEmpty || (driveOf? server).isSome then
      some (some .nowhere, filePath (segmentsOf s))
    else do
      let host ← Host.domain? server
      if host = .name "localhost".toList then some (some .nowhere, filePath (segmentsOf path))
      else
        let segments := segmentsOf (dropSlash path)
        let authority :=
          if (firstDrive? segments).isSome then Authority.nowhere
          else { Authority.nowhere with host := some host }
        some (some authority, filePath segments)
  | s => some (some .nowhere, filePath (segmentsOf (dropSlash s)))

/-- Behind any other scheme two slashes begin an authority and one a path; a path
without a slash is one piece. -/
def generalPlace? (s : List Char) : Option (Option Authority × List Char) :=
  match s with
  | '/' :: '/' :: s => do
    let (server, path) := splitSlash s
    let (authority, rest) ← authority? Host.typed? none server
    let path := rest ++ path
    some (some authority, if path.isEmpty then [] else pathOf path)
  | '/' :: s => some (none, pathOf s)
  | s => some (none, escaped inOpaque s)

/-! ## The whole -/

/-- The URL of a text. -/
def parse? (text : String) : Option Url := do
  let (scheme, rest) ← cutScheme (cleaned text.toList)
  let (front, query, fragment) := splitTail rest
  let kind := kindOf scheme
  let (authority, path) ←
    match kind with
    | .web => webPlace? (usualPort? scheme) front
    | .file => filePlace? front
    | .general => generalPlace? front
  some ⟨scheme, authority, path, query.map (escaped (inQuery (kind != .general))),
    fragment.map (escaped inFragment)⟩

end PortPool.Url
