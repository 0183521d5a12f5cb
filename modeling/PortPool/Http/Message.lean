/-
# PortPool.Http.Message -- requests and answers

A request has a method, a target (a path, and a query string behind a question
mark), a declared type of its body, and a body.  An answer has a status, JSON or
a text, and, where a path was asked in a way it does not know, the methods that
it knows.
-/
import PortPool.Fault

namespace PortPool.Http

set_option autoImplicit false

open PortPool.Json (Value)

/-- A request. -/
structure Request where
  method : String
  target : List UInt8
  contentType : Option String
  body : List UInt8
deriving DecidableEq, Repr

/-- The path of a target: what stands before a query string or a fragment. -/
def Request.path (r : Request) : List UInt8 :=
  r.target.takeWhile fun b => b ≠ 0x3F && b ≠ 0x23

/-- The query string of a target, without a fragment; empty if there is none. -/
def Request.query (r : Request) : List UInt8 :=
  let rest := r.target.dropWhile fun b => b ≠ 0x3F && b ≠ 0x23
  match rest with
  | 0x3F :: query => query.takeWhile (· ≠ 0x23)
  | _ => []

/-- The body of an answer. -/
inductive Body where
  | json (v : Value)
  | text (s : String)
deriving Repr, BEq

/-- The octets of a body. -/
def Body.octets : Body → List UInt8
  | .json v => Text.Utf8.encode v.render
  | .text s => Text.Utf8.ofString s

/-- An answer. -/
structure Response where
  status : Nat
  body : Body
  allow : Option String := none
deriving Repr, BEq

namespace Response

/-- An answer with a record. -/
def record {α : Type} [Wire.Record α] (status : Nat) (v : α) : Response :=
  ⟨status, .json (Wire.encode v), none⟩

/-- An answer with a list of records. -/
def list {α : Type} [Wire.Record α] (vs : List α) : Response :=
  ⟨200, .json (.array (vs.map Wire.encode)), none⟩

/-- An answer with a text. -/
def plain (status : Nat) (s : String) : Response := ⟨status, .text s, none⟩

/-- The answer to a request that is not granted. -/
def fault (f : Fault) : Response := record f.status f.report

/-- The answer without its body. -/
def withoutBody (r : Response) : Response := { r with body := .text "" }

end Response

/-- The name of a status. -/
def reason : Nat → String
  | 200 => "OK"
  | 201 => "Created"
  | 400 => "Bad Request"
  | 404 => "Not Found"
  | 405 => "Method Not Allowed"
  | 409 => "Conflict"
  | 500 => "Internal Server Error"
  | _ => "<unknown status code>"

/-- A status with its name. -/
def statusText (status : Nat) : String :=
  Text.Numeral.decimal status ++ " " ++ reason status

end PortPool.Http
