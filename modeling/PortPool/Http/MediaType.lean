/-
# PortPool.Http.MediaType -- whether a body is declared to be JSON

A body counts as JSON when its declared type is `application/json`, or
`application/` and a name that ends in `+json`, in letters of either case.
Parameters may follow; they have to be well formed but do not matter.
-/
namespace PortPool.Http.MediaType

set_option autoImplicit false

/-- A character of a name in a declared type. -/
def isName (c : Char) : Bool :=
  c.isAlphanum || "!#$%&'*+-.^_|~".toList.contains c || c.toNat = 0x60

/-- A character within quotes. -/
def isQuotable (c : Char) : Bool := 0x1F < c.toNat && c.toNat ≠ 0x7F

/-- A character that a header may show. -/
def isShown (c : Char) : Bool := c = '\t' || (0x20 ≤ c.toNat && c.toNat < 0x7F)

/-- Where the reader of parameters is: before a name, within one, before a value,
within one, within quotes, or after them. -/
inductive Place where
  | beforeName
  | name
  | beforeValue
  | value
  | quoted (empty : Bool)
  | afterQuotes
  | broken
deriving DecidableEq, Repr

/-- Read one more character of the parameters. -/
def Place.step (p : Place) (c : Char) : Place :=
  match p with
  | .beforeName => if c = ' ' then .beforeName else if isName c then .name else .broken
  | .name => if isName c then .name else if c = '=' then .beforeValue else .broken
  | .beforeValue =>
    if c = '"' then .quoted true else if isName c then .value else .broken
  | .value => if isName c then .value else if c = ';' then .beforeName else .broken
  | .quoted empty =>
    if c = '"' then if empty then .quoted false else .afterQuotes
    else if isQuotable c then .quoted false else .broken
  | .afterQuotes => if c = ';' then .beforeName else if c = ' ' then .afterQuotes else .broken
  | .broken => .broken

/-- The parameters, from behind the first semicolon, are well formed. -/
def parametersOk (s : List Char) : Bool :=
  match s.foldl Place.step .beforeName with
  | .beforeName | .value | .beforeValue | .afterQuotes => true
  | .name | .quoted _ | .broken => false

/-- What a name ends in after its last plus sign, and what stands before that;
a plus sign in front does not count. -/
def suffixOf (name : List Char) : List Char × Option (List Char) :=
  let after := (name.reverse.takeWhile (· ≠ '+')).reverse
  let before := name.take (name.length - after.length - 1)
  if before.isEmpty then (name, none) else (before, some after)

/-- The declared type is JSON. -/
def isJson (declared : String) : Bool :=
  let s := declared.toList
  let kind := s.takeWhile isName
  match s.drop kind.length with
  | '/' :: rest =>
    let name := rest.takeWhile isName
    let tail := rest.drop name.length
    let wellFormed :=
      match tail with
      | [] => true
      | ';' :: parameters => !name.isEmpty && parametersOk parameters
      | _ => false
    let lower (t : List Char) : String := String.ofList (t.map Char.toLower)
    let (base, suffix) := suffixOf name
    s.all isShown && !kind.isEmpty && wellFormed && lower kind = "application" &&
      (lower base = "json" || suffix.any fun t => lower t = "json")
  | _ => false

end PortPool.Http.MediaType
