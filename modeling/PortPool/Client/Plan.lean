/-
# PortPool.Client.Plan -- what the client does

Every action of the client is one exchange: a request, and how to conclude from
its answer what to print, or why the action failed.  Only the agent that watches
makes one exchange after another.  The network is not part of this: whoever
carries a plan out sends the request somewhere and hands the answer back, or finds
nobody there.
-/
import PortPool.Command.Client
import PortPool.Host.Identity
import PortPool.Http.Message
import PortPool.Http.Query
import PortPool.Url.Reader

namespace PortPool.Client

set_option autoImplicit false

open PortPool.Command.Client (Action Invocation)
open PortPool.Http (Request Response)
open PortPool.Text (Numeral.decimal)

/-- Why an action failed. -/
inductive Failure where
  | noUrl
  | notAskable (url : String)
  | noInterval
  | unreachable
  | refused (message : String) (status : Nat)
  | failed (status : Nat)
  | undecodable
deriving DecidableEq, Repr

def Failure.message : Failure → String
  | .noUrl => "builder error"
  | .notAskable url => "builder error for url (" ++ url ++ ")"
  | .noInterval => "interval must be at least one second"
  | .unreachable => "transport"
  | .refused message status => message ++ " (" ++ Http.statusText status ++ ")"
  | .failed status => "Request failed: " ++ Http.statusText status
  | .undecodable => "Failed to decode response"

/-- A request, and what to print after its answer. -/
structure Exchange where
  request : Request
  conclude : Response → Except Failure String

/-- What an action comes to. -/
inductive Plan where
  | exchange (e : Exchange)
  | watch (seconds : Nat)

/-! ## Requests -/

/-- The address of the service without slashes at its end. -/
def baseOf (server : String) : List Char := (server.toList.reverse.dropWhile (· == '/')).reverse

/-- The URL of a path of the service, on a server. -/
def urlOf (server path : String) : Except Failure Url :=
  match Url.parse? (String.ofList (baseOf server ++ path.toList)) with
  | none => .error .noUrl
  | some u => if u.host?.isSome then .ok u.withoutCredentials else .error (.notAskable u.text)

/-- What is asked of the server of a URL. -/
def targetOf (u : Url) : Except Failure (List UInt8) :=
  if u.canBeAsked then .ok u.target else .error (.notAskable u.text)

/-- A request that reads, with a filter. -/
def getRequest (server path : String) (pairs : List (String × String)) :
    Except Failure Request := do
  let u ← urlOf server path
  pure ⟨"GET", ← targetOf (u.withPairs pairs), none, []⟩

/-- A request that reads. -/
def plainRequest (server path : String) : Except Failure Request := do
  let u ← urlOf server path
  pure ⟨"GET", ← targetOf u, none, []⟩

/-- A request that sends a record. -/
def postRequest {α : Type} [Wire.Record α] (server path : String) (v : α) :
    Except Failure Request := do
  let u ← urlOf server path
  pure ⟨"POST", ← targetOf u, some "application/json", Wire.toText v⟩

/-! ## Answers -/

/-- The value of an answer, or why there is none. -/
def decodeAnswer {α : Type} (read : List UInt8 → Except Json.Refusal α) (r : Response) :
    Except Failure α :=
  if 200 ≤ r.status && r.status < 300 then
    match read r.body.octets with
    | .ok v => .ok v
    | .error _ => .error .undecodable
  else
    match Wire.ofText ErrorReport r.body.octets with
    | .ok report => .error (.refused report.message r.status)
    | .error _ => .error (.failed r.status)

/-- A line of output. -/
def line (s : String) : String := s ++ "\n"

/-- An exchange whose answer is a record. -/
def forRecord (α : Type) [Wire.Record α] (request : Request) (tell : α → String) : Plan :=
  .exchange ⟨request, fun r => (decodeAnswer (Wire.ofText α) r).map tell⟩

/-- An exchange whose answer is a list. -/
def forList (α : Type) [Wire.Record α] (request : Request) (tell : List α → String) : Plan :=
  .exchange ⟨request, fun r => (decodeAnswer (Wire.listOfText α) r).map tell⟩

/-! ## Output -/

/-- An instance in a list. -/
def instanceLine (i : Instance) : String :=
  line (i.id ++ "  " ++ i.name ++ "  joined " ++ Time.Rfc3339.shown i.joinedAt)

/-- A port in a list. -/
def portLine (p : Port) : String :=
  line (Numeral.decimal p.number.val ++ "  " ++ if p.reserved then "reserved" else "free")

/-- A text filled up with blanks. -/
def filledUp (width : Nat) (s : String) : String :=
  s ++ String.ofList (List.replicate (width - s.length) ' ')

/-- A binding in the history. -/
def bindingLine (b : Binding) : String :=
  let released :=
    match b.releasedAt with
    | some t => Time.Rfc3339.stored t
    | none => "active"
  line (filledUp 12 b.text ++ " " ++ b.owner ++ "  reserved " ++ Time.Rfc3339.stored b.reservedAt ++
    "  released " ++ released)

/-! ## Plans -/

/-- The plan of an action, on a machine. -/
def plan (machine : Host.Machine) (invocation : Invocation) : Except Failure Plan :=
  let server := invocation.server
  let self := invocation.instanceId.getD machine.fingerprint
  match invocation.action with
  | .join name => do
    let request : JoinRequest := ⟨some self, some (name.getD machine.name), machine.description⟩
    let request ← postRequest server "/api/instances" request
    pure <| forRecord Instance request fun i =>
      line ("Joined as " ++ i.name ++ " (" ++ i.id ++ ")")
  | .showInstance id => do
    let request ← plainRequest server ("/api/instances/" ++ id.getD self)
    pure <| forRecord Instance request fun i => line (String.ofList (Wire.encode i).pretty)
  | .listInstances => do
    let request ← plainRequest server "/api/instances"
    pure <| forList Instance request fun is =>
      line "Instances:" ++ String.join (is.map instanceLine)
  | .reserve size => do
    let request : ReserveRequest := ⟨some self, size⟩
    let request ← postRequest server "/api/ports/reserve" request
    pure <| forRecord Binding request fun b => line b.text
  | .release target anyOwner => do
    let request := target.request (if anyOwner then none else some self)
    let request ← postRequest server "/api/ports/release" request
    pure <| forRecord Binding request fun b => line ("Released " ++ b.text)
  | .listPorts reserved free mine => do
    let filter : PortFilter :=
      ⟨if reserved then some true else if free then some false else none,
        if mine then some self else none⟩
    let request ← getRequest server "/api/ports" (Http.Query.pairsOfPortFilter filter)
    pure <| forList Port request fun ps => String.join (ps.map portLine)
  | .history all => do
    let filter : BindingFilter := ⟨if all then none else some self, none⟩
    let request ← getRequest server "/api/bindings" (Http.Query.pairsOfBindingFilter filter)
    pure <| forList Binding request fun bs => String.join (bs.map bindingLine)
  | .report ports => do
    let request : ObserveRequest := ⟨ports⟩
    let request ← postRequest server "/api/ports/observed" request
    pure <| forList Port request fun ps =>
      line ("Recorded " ++ Numeral.decimal ps.length ++ " port(s) within the pool")
  | .watch seconds => if seconds = 0 then .error .noInterval else .ok (.watch seconds)

/-- Carry out an exchange where `network` answers requests, or does not. -/
def Exchange.over (e : Exchange) (network : Request → Option Response) : Except Failure String :=
  match network e.request with
  | none => .error .unreachable
  | some r => e.conclude r

end PortPool.Client
