/-
# PortPool.Proofs.Http.Transport -- HTTP carries calls

A request over HTTP that sends a record comes to what the call comes to that it stands for:
the same store, and the value or the fault of the call (`calls_transported`).  The record
is read as it was sent, because a record is read back from its text, and nothing is asked
of a request between its body and its call but one thing: who asks for ports must say who
it is.

How an outcome is told is written down here once more, apart from the service
(`delivered`): a value under the status of its route, a fault under its own, and the text
of a fault of the service itself is kept back.
-/
import PortPool.Proofs.Exhaustion
import PortPool.Proofs.Http.Service
import PortPool.Proofs.Text.Blank
import PortPool.Proofs.Wire.NormalForm

namespace PortPool.Http

set_option autoImplicit false

open Text (isBlank trimmed_isEmpty)
open Wire (Record Row Shape)

/-! ## Sending a record -/

/-- The request posts a record to a path, as JSON, and the service can read it: its text is
neither too long nor too deep, and tells all of it. -/
structure Request.Sends {α : Type} [Record α] (r : Request) (path : String) (v : α) : Prop where
  posted : r.method = "POST"
  path : r.path = Text.Utf8.ofString path
  declared : r.contentType = some "application/json"
  body : r.body = Wire.toText v
  short : (Wire.toText v).length ≤ 2097152
  shallow : (Wire.encode v).depth ≤ 127
  sendable : Row.All Shape.Sendable (Record.fields α) (Record.toRow v)

namespace Request.Sends

variable {α : Type} [Record α] {r : Request} {path : String} {v : α} (sends : r.Sends path v)

include sends

/-- What is sent is read. -/
theorem read [Record.Lawful α] : readBody α r = .ok v := by
  have isJson : MediaType.isJson "application/json" = true := by decide
  have notTooLong : ¬longestBody < (Wire.toText v).length := Nat.not_lt.mpr sends.short
  have back : Wire.ofText α (Wire.toText v) = .ok v :=
    (Wire.roundTrips α).written v sends.sendable sends.shallow
  simp only [readBody, sends.declared, Option.any_some, isJson, Bool.not_true, Bool.false_eq_true,
    if_false, sends.body, if_neg notTooLong, back]

/-- What is sent to a path is handled there. -/
theorem served {route : Route} (leads : Route.ofPath (Text.Utf8.ofString path) = some route)
    (known : route.methods.contains "POST" = true) (settings : Settings) (now : Time.Instant)
    (s : Store) : serve settings now s r = post settings now s r route :=
  serve_posted sends.posted (by rw [sends.path, leads]) known

end Request.Sends

/-! ## Telling an outcome -/

/-- What is told of a fault: its kind, and its text if that is for clients. -/
def told (fault : Fault) : Response where
  status := fault.status
  body := .json (.object [("error", .text fault.kind),
    ("message", .text (if 500 ≤ fault.status then "internal server error" else fault.message))])

/-- A call as it is seen over HTTP: its value and the store it leaves, or its fault and the
store as it was. -/
def delivered {α : Type} (status : Nat) (tell : α → Json.Value) (s : Store) :
    Except Fault (α × Store) → Response × Store
  | .ok (v, t) => (⟨status, .json (tell v), none⟩, t)
  | .error fault => (told fault, s)

theorem answer_eq_delivered {α : Type} [Record α] (status : Nat) (s : Store)
    (result : Except Fault (α × Store)) :
    answer status s result = delivered status Wire.encode s result := by
  cases result <;> rfl

/-! ## The calls -/

section Calls

variable {settings : Settings} {now : Time.Instant} {s : Store} {r : Request}

theorem serve_join {v : JoinRequest} (sends : r.Sends "/api/instances" v) :
    serve settings now s r =
      delivered 201 Wire.encode s (NewInstance.ofRequest v >>= fun new => s.join new now) := by
  have leads : Route.ofPath (Text.Utf8.ofString "/api/instances") = some .instances := by decide
  rw [sends.served leads rfl, ← answer_eq_delivered]
  simp only [post, postInstance, sends.read, bind_ok]

/-- Ports are reserved for whom the request names; it must name someone. -/
def reserveNamed (settings : Settings) (now : Time.Instant) (s : Store) (asked : ReserveRequest) :
    Except Fault (Binding × Store) :=
  match asked.instanceId with
  | none => .error (.invalidRequest .instanceIdMissing)
  | some id =>
    if id.toList.all isBlank then .error (.invalidRequest .instanceIdMissing)
    else s.reserve settings.range id asked.size now

theorem askingInstance_bind (asked : ReserveRequest) :
    (askingInstance asked >>= fun id => s.reserve settings.range id asked.size now) =
      reserveNamed settings now s asked := by
  rw [askingInstance, reserveNamed]
  cases asked.instanceId with
  | none => rfl
  | some id =>
    simp only [trimmed_isEmpty]
    split <;> rfl

theorem serve_reserve {v : ReserveRequest} (sends : r.Sends "/api/ports/reserve" v) :
    serve settings now s r = delivered 201 Wire.encode s (reserveNamed settings now s v) := by
  have leads : Route.ofPath (Text.Utf8.ofString "/api/ports/reserve") = some .reserve := by decide
  rw [sends.served leads rfl, ← answer_eq_delivered, ← askingInstance_bind]
  simp only [post, postReserve, sends.read, bind_ok]

theorem serve_release {v : ReleaseRequest} (sends : r.Sends "/api/ports/release" v) :
    serve settings now s r =
      delivered 200 Wire.encode s (s.release settings.ownership v now) := by
  have leads : Route.ofPath (Text.Utf8.ofString "/api/ports/release") = some .release := by decide
  rw [sends.served leads rfl, ← answer_eq_delivered]
  simp only [post, postRelease, sends.read, bind_ok]

theorem serve_observe {v : ObserveRequest} (sends : r.Sends "/api/ports/observed" v) :
    serve settings now s r = delivered 200 (fun ports => .array (ports.map Wire.encode)) s
      (s.observe settings.range v.ports) := by
  have leads : Route.ofPath (Text.Utf8.ofString "/api/ports/observed") = some .observed := by decide
  rw [sends.served leads rfl]
  simp only [post, postObserved, sends.read, bind_ok]
  cases s.observe settings.range v.ports <;> rfl

end Calls

/-- **HTTP carries calls.**  Whatever the store holds, a record that is sent to its path
comes to its call. -/
theorem calls_transported (settings : Settings) (now : Time.Instant) (s : Store) (r : Request) :
    (∀ v : JoinRequest, r.Sends "/api/instances" v → serve settings now s r =
      delivered 201 Wire.encode s (NewInstance.ofRequest v >>= fun new => s.join new now)) ∧
    (∀ v : ReserveRequest, r.Sends "/api/ports/reserve" v → serve settings now s r =
      delivered 201 Wire.encode s (reserveNamed settings now s v)) ∧
    (∀ v : ReleaseRequest, r.Sends "/api/ports/release" v → serve settings now s r =
      delivered 200 Wire.encode s (s.release settings.ownership v now)) ∧
    (∀ v : ObserveRequest, r.Sends "/api/ports/observed" v → serve settings now s r =
      delivered 200 (fun ports => .array (ports.map Wire.encode)) s
        (s.observe settings.range v.ports)) :=
  ⟨fun _ => serve_join, fun _ => serve_reserve, fun _ => serve_release, fun _ => serve_observe⟩

/-! ## One service -/

/-- A record as it is sent. -/
def sending {α : Type} [Record α] (path : String) (v : α) : Request :=
  ⟨"POST", Text.Utf8.ofString path, some "application/json", Wire.toText v⟩

/-- An instance joins, asks for two ports without its id and with it, reports a port and
gives its ports back. -/
theorem calls_transported_abc :
    let settings : Settings := ⟨threePorts, .optional⟩
    let now := Time.Instant.ofUnix 0 0
    let joins : JoinRequest := ⟨some " abc ", some "host", [("cores", .number (.whole 8))]⟩
    let nameless : ReserveRequest := ⟨some " ", some 2⟩
    let asks : ReserveRequest := ⟨some "abc", some 2⟩
    let reports : ObserveRequest := ⟨[8001, 9000]⟩
    let gives : ReleaseRequest := ⟨some "abc", some 8001, none, none⟩
    let joined := serve settings now Store.empty (sending "/api/instances" joins)
    let refused := serve settings now joined.2 (sending "/api/ports/reserve" nameless)
    let reserved := serve settings now joined.2 (sending "/api/ports/reserve" asks)
    let reported := serve settings now reserved.2 (sending "/api/ports/observed" reports)
    let released := serve settings now reserved.2 (sending "/api/ports/release" gives)
    (sending "/api/instances" joins).Sends "/api/instances" joins ∧
      (sending "/api/ports/reserve" nameless).Sends "/api/ports/reserve" nameless ∧
      (sending "/api/ports/reserve" asks).Sends "/api/ports/reserve" asks ∧
      (sending "/api/ports/observed" reports).Sends "/api/ports/observed" reports ∧
      (sending "/api/ports/release" gives).Sends "/api/ports/release" gives ∧
      joined.1.status = 201 ∧ refused = (told (.invalidRequest .instanceIdMissing), joined.2) ∧
      reserved.1.status = 201 ∧ reported.1.status = 200 ∧ released.1.status = 200 := by
  intro settings now joins nameless asks reports gives joined refused reserved reported released
  have anyText {text : Option String} : (Shape.optional .text).All Shape.Sendable text :=
    fun _ _ => trivial
  have anyPort {port : Option PortNumber} : (Shape.optional .port).All Shape.Sendable port :=
    fun _ _ => trivial
  have two : (Shape.optional .integer).All Shape.Sendable (some 2) := by
    rintro _ ⟨⟩
    exact ⟨by decide, by decide⟩
  have sendsJoin : (sending "/api/instances" joins).Sends "/api/instances" joins :=
    ⟨rfl, by decide, rfl, rfl, by decide +kernel, by decide, anyText, anyText,
      ⟨⟨⟨by decide, by decide⟩, trivial⟩, List.pairwise_singleton _ _, trivial, trivial⟩, trivial⟩
  have sendsNameless :
      (sending "/api/ports/reserve" nameless).Sends "/api/ports/reserve" nameless :=
    ⟨rfl, by decide, rfl, rfl, by decide +kernel, by decide, anyText, two, trivial⟩
  have sendsAsk : (sending "/api/ports/reserve" asks).Sends "/api/ports/reserve" asks :=
    ⟨rfl, by decide, rfl, rfl, by decide +kernel, by decide, anyText, two, trivial⟩
  have sendsReport : (sending "/api/ports/observed" reports).Sends "/api/ports/observed" reports :=
    ⟨rfl, by decide, rfl, rfl, by decide +kernel, by decide, trivial, trivial⟩
  have sendsGive : (sending "/api/ports/release" gives).Sends "/api/ports/release" gives :=
    ⟨rfl, by decide, rfl, rfl, by decide +kernel, by decide, anyText, anyPort, anyPort, anyPort,
      trivial⟩
  have join := (calls_transported settings now Store.empty _).1 joins sendsJoin
  have refuse := (calls_transported settings now joined.2 _).2.1 nameless sendsNameless
  have reserve := (calls_transported settings now joined.2 _).2.1 asks sendsAsk
  have report := (calls_transported settings now reserved.2 _).2.2.2 reports sendsReport
  have release := (calls_transported settings now reserved.2 _).2.2.1 gives sendsGive
  refine ⟨sendsJoin, sendsNameless, sendsAsk, sendsReport, sendsGive, ?_, ?_, ?_, ?_, ?_⟩
  · rw [show joined = _ from join]
    decide +kernel
  · rw [show refused = _ from refuse]
    rfl
  · rw [show reserved = _ from reserve]
    decide +kernel
  · rw [show reported = _ from report]
    decide +kernel
  · rw [show released = _ from release]
    decide +kernel

end PortPool.Http
