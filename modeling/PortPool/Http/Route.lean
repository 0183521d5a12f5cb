/-
# PortPool.Http.Route -- the paths of the service

A path is compared octet by octet, as it is written.  The last part of
`/api/instances/{id}` is any text without a slash that is not empty; its escapes
are read when the request is served.
-/
import PortPool.Text.Percent
import PortPool.Text.Split

namespace PortPool.Http

set_option autoImplicit false

/-- A path of the service. -/
inductive Route where
  | health
  | instances
  | oneInstance (segment : List UInt8)
  | ports
  | reserve
  | release
  | observed
  | bindings
deriving DecidableEq, Repr

namespace Route

/-- The paths without a parameter. -/
def fixed : List (String × Route) :=
  [("/health", .health), ("/api/instances", .instances), ("/api/ports", .ports),
    ("/api/ports/reserve", .reserve), ("/api/ports/release", .release),
    ("/api/ports/observed", .observed), ("/api/bindings", .bindings)]

/-- What stands before the id of an instance. -/
def instanceStem : List UInt8 := Text.Utf8.ofString "/api/instances/"

/-- The route of a path. -/
def ofPath (path : List UInt8) : Option Route :=
  match fixed.find? fun r => Text.Utf8.ofString r.1 == path with
  | some (_, route) => some route
  | none =>
    let segment := path.drop instanceStem.length
    if instanceStem.isPrefixOf path && !segment.isEmpty && !segment.contains 0x2F then
      some (.oneInstance segment)
    else none

/-- The methods that a path knows, besides those that every path knows. -/
def methods : Route → List String
  | .instances => ["POST", "GET", "HEAD"]
  | .reserve | .release | .observed => ["POST"]
  | .health | .oneInstance _ | .ports | .bindings => ["GET", "HEAD"]

/-- The methods as they are told to clients. -/
def allow (r : Route) : String := String.intercalate "," r.methods

end Route

end PortPool.Http
