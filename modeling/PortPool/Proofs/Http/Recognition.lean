/-
# PortPool.Proofs.Http.Recognition -- an id that joined is known everywhere

An instance is registered under the id that it gave, without the blanks around it.
Under that id it is known from then on wherever ports are asked for, given back or
listed: no such request is answered that the instance is not registered.

The three look the id up as it is given.  So an id that was given with blanks around it
is good for joining, again and again, and for nothing else (`joined_recognised`).
-/
import PortPool.Proofs.Http.Service
import PortPool.Proofs.Recognition
import PortPool.Proofs.Text.Blank

namespace PortPool

set_option autoImplicit false

open Text (trimmed)

/-! ## Ids that are registered -/

theorem required_eq_ok {flaw : RequestFlaw} {text : Option String} {id : String} :
    required flaw text = .ok id ↔ ∃ given, text = some given ∧ id = trimmed given ∧ id ≠ "" := by
  cases text with
  | none => simp [required]
  | some given =>
    simp only [required, Option.map_some, Option.getD_some, Option.some.injEq]
    split <;> rename_i blank
    · rw [String.isEmpty_iff] at blank
      simp only [reduceCtorEq, false_iff]
      rintro ⟨_, rfl, rfl, notBlank⟩
      exact notBlank blank
    · rw [String.isEmpty_iff] at blank
      simp only [Except.ok.injEq]
      constructor
      · rintro rfl
        exact ⟨given, rfl, rfl, blank⟩
      · rintro ⟨_, rfl, rfl, -⟩
        rfl

theorem NewInstance.id_of_ofRequest {request : JoinRequest} {new : NewInstance}
    (asks : NewInstance.ofRequest request = .ok new) :
    ∃ given, request.instanceId = some given ∧ new.id = trimmed given ∧ new.id ≠ "" := by
  simp only [NewInstance.ofRequest, bind_eq_ok, pure_eq_ok, Except.ok.injEq] at asks
  obtain ⟨id, isId, name, -, rfl⟩ := asks
  exact required_eq_ok.mp isId

theorem NewInstance.description_of_ofRequest {request : JoinRequest} {new : NewInstance}
    (asks : NewInstance.ofRequest request = .ok new) : new.description = request.description := by
  simp only [NewInstance.ofRequest, bind_eq_ok, pure_eq_ok, Except.ok.injEq] at asks
  obtain ⟨_, -, _, -, rfl⟩ := asks
  rfl

theorem required_eq_error {flaw : RequestFlaw} {text : Option String} {fault : Fault}
    (refused : required flaw text = .error fault) : fault = .invalidRequest flaw := by
  simp only [required] at refused
  split at refused
  · exact (Except.error.inj refused).symm
  · cases refused

theorem NewInstance.ofRequest_eq_error {request : JoinRequest} {fault : Fault}
    (refused : NewInstance.ofRequest request = .error fault) :
    ∃ flaw, fault = .invalidRequest flaw := by
  simp only [NewInstance.ofRequest, bind_eq_error, pure_eq_ok] at refused
  rcases refused with noId | ⟨id, -, noName | ⟨name, -, none⟩⟩
  · exact ⟨_, required_eq_error noId⟩
  · exact ⟨_, required_eq_error noName⟩
  · cases none

/-! ## Requests -/

namespace Http

/-- The request asks to join. -/
structure Joins (r : Request) (request : JoinRequest) : Prop where
  posted : r.method = "POST"
  path : Route.ofPath r.path = some .instances
  read : readBody JoinRequest r = .ok request

/-- The instance id that a request gives which asks for ports, gives some back or lists
them. -/
def givenId? (r : Request) : Option String :=
  match Route.ofPath r.path with
  | some .reserve =>
    if r.method = "POST" then (readBody ReserveRequest r).toOption.bind (·.instanceId) else none
  | some .release =>
    if r.method = "POST" then (readBody ReleaseRequest r).toOption.bind (·.instanceId) else none
  | some .ports =>
    if r.method = "GET" then (Query.portFilter? r.query).bind (·.instanceId) else none
  | _ => none

/-- The answer that an instance is not registered. -/
def Response.Unknown (r : Response) : Prop := ∃ id, r = .fault (.instanceNotRegistered id)

variable {settings : Settings} {now : Time.Instant} {s : Store} {r : Request}

theorem registered_of_joins {request : JoinRequest} {given : String} (joins : Joins r request)
    (gives : request.instanceId = some given)
    (answered : (serve settings now s r).1.status = 201 ∨
      (serve settings now s r).1.status = 409) :
    (serve settings now s r).2.Registered (trimmed given) := by
  rw [serve_posted joins.posted joins.path rfl] at answered ⊢
  simp only [post, postInstance, joins.read, bind_ok] at answered ⊢
  cases asks : NewInstance.ofRequest request with
  | error fault =>
    obtain ⟨flaw, rfl⟩ := NewInstance.ofRequest_eq_error asks
    rw [asks] at answered
    rcases answered with created | conflict
    · cases created
    · cases conflict
  | ok new =>
    obtain ⟨_, isGiven, same, -⟩ := NewInstance.id_of_ofRequest asks
    cases gives.symm.trans isGiven
    rw [asks, bind_ok] at answered
    rw [bind_ok, ← same]
    rcases s.join_cases new now with ⟨-, done⟩ | ⟨joined, done | failed⟩
    · rw [done]
      exact ⟨new.row now, List.mem_append_right _ List.mem_cons_self, rfl⟩
    · rw [done]
      exact joined
    · rw [failed] at answered
      rcases answered with created | conflict
      · cases created
      · cases conflict

/-! ## What an id that joined is answered -/

/-- The kind of a fault can be read off its answer. -/
theorem kind_eq_of_fault_eq {f g : Fault} (same : Response.fault f = Response.fault g) :
    f.kind = g.kind := by
  have told (h : Fault) : Wire.encode h.report =
      .object [("error", .text h.report.kind), ("message", .text h.report.message)] := rfl
  have body := congrArg Response.body same
  simp only [Response.fault, Response.record, told, Body.json.injEq, Json.Value.object.injEq,
    List.cons.injEq, Prod.mk.injEq, Json.Value.text.injEq, true_and, and_true] at body
  exact body.1

theorem not_unknown_fault {fault : Fault} (other : ∀ id, fault ≠ .instanceNotRegistered id) :
    ¬(Response.fault fault).Unknown := by
  rintro ⟨id, same⟩
  have kind := kind_eq_of_fault_eq same
  cases fault <;> first | exact other _ rfl | exact absurd kind (by simp [Fault.kind])

theorem not_unknown_answer {α : Type} [Wire.Record α] {status : Nat}
    {result : Except Fault (α × Store)} (granted : status ≠ 404) (recognised : Recognised result) :
    ¬(answer status s result).1.Unknown := by
  cases result with
  | ok done =>
    rintro ⟨id, same⟩
    exact granted (congrArg Response.status same)
  | error fault => exact not_unknown_fault recognised

theorem not_unknown_listing {α : Type} [Wire.Record α] {result : Except Fault (List α)}
    (recognised : Recognised result) : ¬(listing result).Unknown := by
  cases result with
  | ok done =>
    rintro ⟨id, same⟩
    cases congrArg Response.status same
  | error fault => exact not_unknown_fault recognised

/-- The request is answered as one that is wrong, or that names an unknown instance. -/
def Response.Rejects (id : String) (r : Response) : Prop :=
  r = .fault (.instanceNotRegistered id) ∨ ∃ flaw, r = .fault (.invalidRequest flaw)

theorem rejects_fault {id : String} {fault : Fault}
    (rejected : fault = .instanceNotRegistered id ∨ ∃ flaw, fault = .invalidRequest flaw) :
    (Response.fault fault).Rejects id := by
  rcases rejected with rfl | ⟨flaw, rfl⟩
  · exact .inl rfl
  · exact .inr ⟨flaw, rfl⟩

theorem rejects_answer {α : Type} [Wire.Record α] {id : String} {status : Nat}
    {result : Except Fault (α × Store)} (rejected : Rejected id result) :
    (answer status s result).1.Rejects id := by
  cases result with
  | ok done => exact rejected.elim
  | error fault => exact rejects_fault rejected

theorem rejects_listing {α : Type} [Wire.Record α] {id : String} {result : Except Fault (List α)}
    (rejected : Rejected id result) : (listing result).Rejects id := by
  cases result with
  | ok done => exact rejected.elim
  | error fault => exact rejects_fault rejected

/-- A request that gives an id is handed on with it as it is. -/
theorem serve_of_givenId? {id : String} (gives : givenId? r = some id) (settings : Settings)
    (now : Time.Instant) (s : Store) :
    (∃ asked : ReserveRequest, asked.instanceId = some id ∧
      (serve settings now s r).1 = (answer 201 s do
        let id ← askingInstance asked
        s.reserve settings.range id asked.size now).1) ∨
    (∃ asked : ReleaseRequest, asked.instanceId = some id ∧
      (serve settings now s r).1 = (answer 200 s (s.release settings.ownership asked now)).1) ∨
    ∃ f : PortFilter, f.instanceId = some id ∧
      (serve settings now s r).1 = listing (s.listPorts f) := by
  simp only [givenId?] at gives
  split at gives
  · rename_i path
    split at gives
    · rename_i posted
      obtain ⟨asked, read, given⟩ := Option.bind_eq_some_iff.mp gives
      refine .inl ⟨asked, given, ?_⟩
      rw [serve_posted posted path rfl, post, postReserve, toOption_eq_some.mp read, bind_ok]
    · cases gives
  · rename_i path
    split at gives
    · rename_i posted
      obtain ⟨asked, read, given⟩ := Option.bind_eq_some_iff.mp gives
      refine .inr (.inl ⟨asked, given, ?_⟩)
      rw [serve_posted posted path rfl, post, postRelease, toOption_eq_some.mp read, bind_ok]
    · cases gives
  · rename_i path
    split at gives
    · rename_i method
      obtain ⟨f, read, given⟩ := Option.bind_eq_some_iff.mp gives
      refine .inr (.inr ⟨f, given, ?_⟩)
      simp only [serve_got method path rfl, get, read]
    · cases gives
  · cases gives

theorem askingInstance_eq {asked : ReserveRequest} {id : String}
    (given : asked.instanceId = some id) :
    askingInstance asked =
      if (trimmed id).isEmpty then .error (.invalidRequest .instanceIdMissing) else .ok id := by
  rw [askingInstance, given]

/-- **An id that joined is not unknown.** -/
theorem not_unknown_of_registered {id : String} (joined : s.Registered id)
    (gives : givenId? r = some id) : ¬(serve settings now s r).1.Unknown := by
  rcases serve_of_givenId? gives settings now s with
    ⟨asked, given, same⟩ | ⟨asked, given, same⟩ | ⟨f, given, same⟩
  · rw [same, askingInstance_eq given]
    apply not_unknown_answer (by decide)
    split
    · exact .error (by simp [Fault.kind])
    · exact Store.recognised_reserve joined _ _ _
  · rw [same]
    refine not_unknown_answer (by decide) (Store.recognised_release ?_ _ _)
    rintro _ named
    cases given.symm.trans named
    exact joined
  · rw [same]
    refine not_unknown_listing (Store.recognised_listPorts ?_)
    rintro _ named
    cases given.symm.trans named
    exact joined

/-- **An id that did not is rejected.** -/
theorem rejects_of_unregistered {id : String} (unknown : ¬s.Registered id) (named : id ≠ "")
    (gives : givenId? r = some id) : (serve settings now s r).1.Rejects id := by
  rcases serve_of_givenId? gives settings now s with
    ⟨asked, given, same⟩ | ⟨asked, given, same⟩ | ⟨f, given, same⟩
  · rw [same, askingInstance_eq given]
    apply rejects_answer
    split
    · exact .inr ⟨_, rfl⟩
    · exact Store.rejected_reserve unknown _ _ _
  · rw [same]
    exact rejects_answer (Store.rejected_release unknown given named _ _)
  · rw [same]
    exact rejects_listing (Store.rejected_listPorts unknown given)

end Http

/-! ## Services over time -/

namespace Console

/-- An instance joins over HTTP under an id without blanks around it. -/
theorem trimmed_of_registered (settings : Settings) (seeded : Bool) (events : List Event)
    {id : String} (joined : (reached settings seeded events).store.Registered id) :
    trimmed id = id := by
  obtain ⟨row, member, isId⟩ := joined
  obtain ⟨r, request, new, now, -, asks, rfl⟩ := exists_request_of_mem_instances member
  obtain ⟨given, -, same, -⟩ := NewInstance.id_of_ofRequest asks
  rw [← Option.some.inj isId, same, Text.trimmed_trimmed]

theorem registered_after {c : Console} {id : String} (joined : c.store.Registered id)
    (events : List Event) : (c.after events).store.Registered id := by
  obtain ⟨r, member, same⟩ := joined
  rw [after_store]
  exact ⟨r, (Store.instances_after _ _).subset member, same⟩

theorem after_handle_reached (settings : Settings) (seeded : Bool) (events : List Event)
    (event : Event) (later : List Event) :
    ((reached settings seeded events).handle event).after later =
      reached settings seeded (events ++ event :: later) := by
  simp only [reached, after, List.foldl_append, List.foldl_cons]

end Console

/-- **Who joined is known everywhere.**  Once joining with an id is answered as a success or
as a conflict, no request for ports, release or list that gives this id without the blanks
around it is answered that the instance is not registered.  With the blanks, if there are
any, each of them is. -/
theorem joined_recognised (settings : Settings) (seeded : Bool) (events : List Event)
    (now : Time.Instant) (r : Http.Request) {request : JoinRequest} {given : String}
    (joins : Http.Joins r request) (gives : request.instanceId = some given)
    (answered : let c := Console.reached settings seeded events
      (Http.serve c.settings now c.store r).1.status = 201 ∨
        (Http.serve c.settings now c.store r).1.status = 409)
    (later : List Event) :
    let c := ((Console.reached settings seeded events).handle (.request now r)).after later
    (∀ now r, Http.givenId? r = some (trimmed given) →
      ¬(Http.serve c.settings now c.store r).1.Unknown) ∧
    (trimmed given ≠ given → ∀ now r, Http.givenId? r = some given →
      (Http.serve c.settings now c.store r).1.Rejects given) := by
  intro c
  have joined : c.store.Registered (trimmed given) :=
    Console.registered_after (Http.registered_of_joins joins gives answered) later
  refine ⟨fun now r asks => Http.not_unknown_of_registered joined asks, ?_⟩
  intro blanks now r asks
  have unknown : ¬c.store.Registered given := by
    intro present
    rw [show c = _ from Console.after_handle_reached settings seeded events _ later] at present
    exact blanks (Console.trimmed_of_registered settings seeded _ present)
  have named : given ≠ "" := by
    rintro rfl
    exact blanks rfl
  exact Http.rejects_of_unregistered unknown named asks

/-! ## Two ids -/

/-- A request to join under this id. -/
def joinRequest (id : String) : Http.Request :=
  ⟨"POST", Text.Utf8.ofString "/api/instances", some "application/json",
    Wire.toText (JoinRequest.mk (some id) (some "host") [])⟩

/-- A request for a port in the name of this id. -/
def reserveRequest (id : String) : Http.Request :=
  ⟨"POST", Text.Utf8.ofString "/api/ports/reserve", some "application/json",
    Wire.toText (ReserveRequest.mk (some id) none)⟩

/-- The id `abc` joins and reserves a port. -/
theorem joined_recognised_abc :
    let c := Console.reached ⟨threePorts, .optional⟩ false []
    let now := Time.Instant.ofUnix 0 0
    let joined := c.handle (.request now (joinRequest "abc"))
    (Http.serve c.settings now c.store (joinRequest "abc")).1.status = 201 ∧
      Http.givenId? (reserveRequest "abc") = some "abc" ∧
      ¬(Http.serve joined.settings now joined.store (reserveRequest "abc")).1.Unknown := by
  intro c now joined
  have joins : Http.Joins (joinRequest "abc") ⟨some "abc", some "host", []⟩ :=
    ⟨rfl, by decide, by rfl⟩
  have created : (Http.serve c.settings now c.store (joinRequest "abc")).1.status = 201 := by
    decide +kernel
  have gives : Http.givenId? (reserveRequest "abc") = some "abc" := by decide +kernel
  have known := (joined_recognised ⟨threePorts, .optional⟩ false [] now (joinRequest "abc") joins
    rfl (.inl created) []).1
  exact ⟨created, gives, known now (reserveRequest "abc") gives⟩

/-- Refuting pole: an id with blanks around it joins, and is unknown when it asks for a
port. -/
theorem blanks_join_and_are_unknown :
    ¬∀ (settings : Settings) (seeded : Bool) (events : List Event) (now : Time.Instant)
        (r : Http.Request) (request : JoinRequest) (given : String),
      Http.Joins r request → request.instanceId = some given →
      let c := Console.reached settings seeded events
      (Http.serve c.settings now c.store r).1.status = 201 →
      ∀ later : List Event,
      let after := (c.handle (.request now r)).after later
      ∀ now r, Http.givenId? r = some given →
        ¬(Http.serve after.settings now after.store r).1.Unknown := by
  intro always
  have joins : Http.Joins (joinRequest " abc ") ⟨some " abc ", some "host", []⟩ :=
    ⟨rfl, by decide, by rfl⟩
  refine always ⟨threePorts, .optional⟩ false [] (Time.Instant.ofUnix 0 0)
    (joinRequest " abc ") _ " abc " joins rfl (by decide +kernel) []
    (Time.Instant.ofUnix 0 0) (reserveRequest " abc ") (by decide +kernel) ⟨" abc ", ?_⟩
  rfl

end PortPool
