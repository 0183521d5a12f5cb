/-
# PortPool.Http.Service -- the service over HTTP

`serve` takes a request and a store and gives an answer and the next store.  The
path is looked up first, then the method; a `HEAD` request is answered as a `GET`
request without the body, and every `OPTIONS` request is answered at once.

A body is only looked at when it is declared to be JSON and is not too long.
What is wrong with a body, a request or the store is told as a fault; only a
query string or a path that cannot be read is answered with a plain text.
-/
import PortPool.Operation
import PortPool.Http.Message
import PortPool.Http.MediaType
import PortPool.Http.Query
import PortPool.Http.Route

namespace PortPool.Http

set_option autoImplicit false

/-- How many octets a body may have. -/
def longestBody : Nat := 2097152

/-- The record in a body. -/
def readBody (α : Type) [Wire.Record α] (r : Request) : Except Fault α :=
  let refuse (flaw : BodyFlaw) : Except Fault α := .error (.invalidRequest (.body flaw))
  if !r.contentType.any MediaType.isJson then refuse .notDeclaredJson
  else if longestBody < r.body.length then refuse .tooLong
  else
    match Wire.ofText α r.body with
    | .ok v => .ok v
    | .error .mismatched => refuse .mismatched
    | .error _ => refuse .malformed

/-- The instance that asks for ports: its id, which must not be blank. -/
def askingInstance (r : ReserveRequest) : Except Fault String :=
  match r.instanceId with
  | some id =>
    if (Text.trimmed id).isEmpty then .error (.invalidRequest .instanceIdMissing) else .ok id
  | none => .error (.invalidRequest .instanceIdMissing)

/-- Answer a request that may change the store; a fault leaves it as it is. -/
def answer {α : Type} [Wire.Record α] (status : Nat) (s : Store)
    (result : Except Fault (α × Store)) : Response × Store :=
  match result with
  | .ok (v, t) => (.record status v, t)
  | .error f => (.fault f, s)

/-- Answer a request with a list. -/
def listing {α : Type} [Wire.Record α] (result : Except Fault (List α)) : Response :=
  match result with
  | .ok vs => .list vs
  | .error f => .fault f

/-- The answer to a query string that cannot be read. -/
def unreadableQuery : Response := .plain 400 "Failed to deserialize query string"

/-- The answer to a path whose id is no text. -/
def unreadablePath : Response := .plain 400 "Invalid URL: Invalid UTF-8 in `id`"

/-- Join an instance. -/
def postInstance (now : Time.Instant) (s : Store) (r : Request) : Response × Store :=
  answer 201 s do
    let request ← readBody JoinRequest r
    let new ← NewInstance.ofRequest request
    s.join new now

/-- Reserve ports. -/
def postReserve (settings : Settings) (now : Time.Instant) (s : Store) (r : Request) :
    Response × Store :=
  answer 201 s do
    let request ← readBody ReserveRequest r
    let id ← askingInstance request
    s.reserve settings.range id request.size now

/-- Release a binding. -/
def postRelease (settings : Settings) (now : Time.Instant) (s : Store) (r : Request) :
    Response × Store :=
  answer 200 s do
    let request ← readBody ReleaseRequest r
    s.release settings.ownership request now

/-- Record reported ports. -/
def postObserved (settings : Settings) (s : Store) (r : Request) : Response × Store :=
  let result := do
    let request ← readBody ObserveRequest r
    s.observe settings.range request.ports
  match result with
  | .ok (ports, t) => (.list ports, t)
  | .error f => (.fault f, s)

/-- Show one instance. -/
def getInstance (s : Store) (segment : List UInt8) : Response :=
  match Text.Utf8.strict? (Text.Percent.decode segment) with
  | none => unreadablePath
  | some id =>
    match s.getInstance (String.ofList id) with
    | .ok i => .record 200 i
    | .error f => .fault f

/-- Read what is asked for; nothing changes. -/
def get (s : Store) (route : Route) (query : List UInt8) : Response :=
  match route with
  | .health => .plain 200 "OK"
  | .oneInstance segment => getInstance s segment
  | .instances =>
    match Query.instanceName? query with
    | none => unreadableQuery
    | some name => listing (s.listInstances name)
  | .ports =>
    match Query.portFilter? query with
    | none => unreadableQuery
    | some f => listing (s.listPorts f)
  | .bindings =>
    match Query.bindingFilter? query with
    | none => unreadableQuery
    | some f => listing (s.listBindings f)
  | .reserve | .release | .observed => .plain 405 ""

/-- Change what is asked for. -/
def post (settings : Settings) (now : Time.Instant) (s : Store) (r : Request) :
    Route → Response × Store
  | .instances => postInstance now s r
  | .reserve => postReserve settings now s r
  | .release => postRelease settings now s r
  | .observed => postObserved settings s r
  | .health | .oneInstance _ | .ports | .bindings => (.plain 405 "", s)

/-- Answer a request. -/
def serve (settings : Settings) (now : Time.Instant) (s : Store) (r : Request) :
    Response × Store :=
  match Route.ofPath r.path with
  | none => (if r.method = "OPTIONS" then .plain 200 "" else .plain 404 "", s)
  | some route =>
    if r.method = "OPTIONS" then ({ Response.plain 200 "" with allow := some route.allow }, s)
    else if !route.methods.contains r.method then
      ({ Response.plain 405 "" with allow := some route.allow }, s)
    else if r.method = "POST" then post settings now s r route
    else if r.method = "HEAD" then ((get s route r.query).withoutBody, s)
    else (get s route r.query, s)

end PortPool.Http
