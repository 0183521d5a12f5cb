/-
# PortPool.Proofs.Http.Service -- what HTTP requests do to the store

A request over HTTP changes the store only by an operation that it carries
(`Http.operation?`): what is not a `POST` to one of four paths, or has a body that
cannot be read, leaves the store alone.  So whatever reaches a service over HTTP, and
however often it is started again with other settings, its store is one that a run of
operations leads to (`Console.exists_steps`), and what is proved about runs holds of it.
-/
import PortPool.Console
import PortPool.Proofs.Registry
import PortPool.Proofs.Soundness

namespace PortPool

set_option autoImplicit false

namespace Http

/-! ## The operation of a request -/

/-- What a request asks of the store, if it can change it. -/
def operation? (r : Request) : Option Operation :=
  if r.method = "POST" then
    match Route.ofPath r.path with
    | some .instances =>
      (readBody JoinRequest r >>= NewInstance.ofRequest).toOption.map .join
    | some .reserve =>
      (do
        let request ← readBody ReserveRequest r
        let id ← askingInstance request
        pure (Operation.reserve id request.size)).toOption
    | some .release => (readBody ReleaseRequest r).toOption.map .release
    | some .observed =>
      (readBody ObserveRequest r).toOption.map fun request => .observe request.ports
    | _ => none
  else none

/-- Who joins asked so in a body that was read. -/
theorem join_of_operation? {r : Request} {new : NewInstance}
    (asked : operation? r = some (.join new)) :
    ∃ request, readBody JoinRequest r = .ok request ∧ NewInstance.ofRequest request = .ok new := by
  simp only [operation?] at asked
  split at asked
  · split at asked
    · obtain ⟨_, read, same⟩ := Option.map_eq_some_iff.mp asked
      cases same
      exact bind_eq_ok.mp (toOption_eq_some.mp read)
    · obtain ⟨_, -, asks⟩ := bind_eq_ok.mp (toOption_eq_some.mp asked)
      obtain ⟨_, -, other⟩ := bind_eq_ok.mp asks
      cases other
    · obtain ⟨_, -, other⟩ := Option.map_eq_some_iff.mp asked
      cases other
    · obtain ⟨_, -, other⟩ := Option.map_eq_some_iff.mp asked
      cases other
    · cases asked
  · cases asked

variable (settings : Settings) (now : Time.Instant) (s : Store) (r : Request)

theorem postInstance_snd : (postInstance now s r).2 =
    ((readBody JoinRequest r >>= NewInstance.ofRequest).toOption.map Operation.join).elim s
      (·.next settings now s) := by
  cases body : readBody JoinRequest r with
  | error fault => simp [postInstance, body, answer, Except.toOption]
  | ok request =>
    cases asks : NewInstance.ofRequest request with
    | error fault => simp [postInstance, body, asks, answer, Except.toOption]
    | ok new =>
      simp only [postInstance, body, asks, bind_ok, Except.toOption, Option.map_some,
        Option.elim_some, Operation.next, Operation.perform, Operation.changing]
      cases s.join new now <;> rfl

theorem postReserve_snd : (postReserve settings now s r).2 =
    (do
      let request ← readBody ReserveRequest r
      let id ← askingInstance request
      pure (Operation.reserve id request.size)).toOption.elim s (·.next settings now s) := by
  cases body : readBody ReserveRequest r with
  | error fault => simp [postReserve, body, answer, Except.toOption]
  | ok request =>
    cases asks : askingInstance request with
    | error fault => simp [postReserve, body, asks, answer, Except.toOption]
    | ok id =>
      simp only [postReserve, body, asks, bind_ok, pure_eq_ok, Except.toOption,
        Option.elim_some, Operation.next, Operation.perform, Operation.changing]
      cases s.reserve settings.range id request.size now <;> rfl

theorem postRelease_snd : (postRelease settings now s r).2 =
    ((readBody ReleaseRequest r).toOption.map Operation.release).elim s
      (·.next settings now s) := by
  cases body : readBody ReleaseRequest r with
  | error fault => simp [postRelease, body, answer, Except.toOption]
  | ok request =>
    simp only [postRelease, body, bind_ok, Except.toOption, Option.map_some,
      Option.elim_some, Operation.next, Operation.perform, Operation.changing]
    cases s.release settings.ownership request now <;> rfl

theorem postObserved_snd : (postObserved settings s r).2 =
    ((readBody ObserveRequest r).toOption.map fun request =>
      Operation.observe request.ports).elim s (·.next settings now s) := by
  cases body : readBody ObserveRequest r with
  | error fault => simp [postObserved, body, Except.toOption]
  | ok request =>
    simp only [postObserved, body, bind_ok, Except.toOption, Option.map_some,
      Option.elim_some, Operation.next, Operation.perform, Operation.changing]
    cases s.observe settings.range request.ports <;> rfl

/-- A `POST` to a path that knows it is handled there. -/
theorem serve_posted {settings : Settings} {now : Time.Instant} {s : Store} {r : Request}
    {route : Route} (posted : r.method = "POST") (path : Route.ofPath r.path = some route)
    (known : route.methods.contains "POST" = true) :
    serve settings now s r = post settings now s r route := by
  have notOptions : r.method ≠ "OPTIONS" := by simp [posted]
  have allowed : ¬(!route.methods.contains r.method) = true := by
    rw [posted, known]
    exact Bool.false_ne_true
  simp only [serve, path, if_neg notOptions, if_neg allowed, if_pos posted]

/-- So is a `GET`. -/
theorem serve_got {settings : Settings} {now : Time.Instant} {s : Store} {r : Request}
    {route : Route} (got : r.method = "GET") (path : Route.ofPath r.path = some route)
    (known : route.methods.contains "GET" = true) :
    serve settings now s r = (get s route r.query, s) := by
  have notOptions : r.method ≠ "OPTIONS" := by simp [got]
  have allowed : ¬(!route.methods.contains r.method) = true := by
    rw [got, known]
    exact Bool.false_ne_true
  have notPost : r.method ≠ "POST" := by simp [got]
  have notHead : r.method ≠ "HEAD" := by simp [got]
  simp only [serve, path, if_neg notOptions, if_neg allowed, if_neg notPost, if_neg notHead]

/-- **A request changes the store by its operation only.** -/
theorem serve_snd : (serve settings now s r).2 =
    (operation? r).elim s (·.next settings now s) := by
  by_cases posted : r.method = "POST"
  · cases path : Route.ofPath r.path with
    | none => simp [serve, operation?, path, posted]
    | some route =>
      cases route with
      | instances =>
        simp only [serve_posted posted path rfl, operation?, path, if_pos posted]
        exact postInstance_snd settings now s r
      | reserve =>
        simp only [serve_posted posted path rfl, operation?, path, if_pos posted]
        exact postReserve_snd settings now s r
      | release =>
        simp only [serve_posted posted path rfl, operation?, path, if_pos posted]
        exact postRelease_snd settings now s r
      | observed =>
        simp only [serve_posted posted path rfl, operation?, path, if_pos posted]
        exact postObserved_snd settings now s r
      | health | oneInstance | ports | bindings =>
        simp [serve, operation?, path, posted, Route.methods]
  · simp only [operation?, if_neg posted, Option.elim_none, serve]
    split
    · rfl
    · simp only [apply_ite Prod.snd, ite_self]

end Http

/-! ## Services over time -/

/-- What happens to a service: it is started again on its store, or gets a request. -/
inductive Event where
  | restart (settings : Settings) (seeded : Bool)
  | request (now : Time.Instant) (r : Http.Request)

/-- What an event asks of the store, under the settings in force. -/
def Event.steps (settings : Settings) : Event → List Step
  | .restart settings seeded =>
    if seeded then [⟨settings, Time.Instant.ofUnix 0 0, .seed⟩] else []
  | .request now r => ((Http.operation? r).map (Step.mk settings now)).toList

namespace Console

/-- The service after an event. -/
def handle (c : Console) : Event → Console
  | .restart settings seeded =>
    ⟨settings, if seeded then (c.store.seed settings.range).2 else c.store⟩
  | .request now r => { c with store := (Http.serve c.settings now c.store r).2 }

/-- The service after some events, one after the other. -/
def after (c : Console) (events : List Event) : Console := events.foldl handle c

/-- A service on an empty store that was started with these settings, after some events. -/
def reached (settings : Settings) (seeded : Bool) (events : List Event) : Console :=
  (start settings seeded).after events

theorem handle_store (c : Console) (event : Event) :
    (c.handle event).store = c.store.after (event.steps c.settings) := by
  cases event with
  | restart settings seeded => cases seeded <;> rfl
  | request now r =>
    simp only [handle, Event.steps, Http.serve_snd c.settings]
    cases Http.operation? r <;> rfl

theorem handle_steps (c : Console) (event : Event) :
    ∃ steps, (c.handle event).store = c.store.after steps :=
  ⟨_, c.handle_store event⟩

/-- What some events ask of the store, one after the other. -/
def steps (c : Console) : List Event → List Step
  | [] => []
  | event :: events => event.steps c.settings ++ (c.handle event).steps events

theorem after_store (c : Console) (events : List Event) :
    (c.after events).store = c.store.after (c.steps events) := by
  induction events generalizing c with
  | nil => rfl
  | cons event events ih =>
    rw [steps, after_append, ← c.handle_store event, ← ih]
    rfl

theorem exists_of_mem_steps {c : Console} {events : List Event} {step : Step}
    (member : step ∈ c.steps events) :
    ∃ event ∈ events, ∃ settings, step ∈ event.steps settings := by
  induction events generalizing c with
  | nil => cases member
  | cons event events ih =>
    rcases List.mem_append.mp member with here | later
    · exact ⟨event, List.mem_cons_self, c.settings, here⟩
    · obtain ⟨other, among, settings, asks⟩ := ih later
      exact ⟨other, List.mem_cons_of_mem _ among, settings, asks⟩

/-- The steps that lead a service from an empty store to where it is now. -/
def stepsTo (settings : Settings) (seeded : Bool) (events : List Event) : List Step :=
  (Console.mk settings Store.empty).steps (.restart settings seeded :: events)

theorem reached_store (settings : Settings) (seeded : Bool) (events : List Event) :
    (reached settings seeded events).store =
      Store.empty.after (stepsTo settings seeded events) :=
  after_store ⟨settings, Store.empty⟩ (.restart settings seeded :: events)

/-- **The store of a service is one that a run of operations leads to.** -/
theorem exists_steps (settings : Settings) (seeded : Bool) (events : List Event) :
    ∃ steps, (reached settings seeded events).store = Store.empty.after steps :=
  ⟨_, reached_store settings seeded events⟩

/-- Every row of an instance was written for a request to join that was read. -/
theorem exists_request_of_mem_instances {settings : Settings} {seeded : Bool}
    {events : List Event} {row : InstanceRow}
    (member : row ∈ (reached settings seeded events).store.instances) :
    ∃ r request new now, Http.readBody JoinRequest r = .ok request ∧
      NewInstance.ofRequest request = .ok new ∧ row = new.row now := by
  rw [reached_store] at member
  obtain ⟨step, among, new, joins, rfl⟩ := exists_join_of_mem_instances member
  obtain ⟨event, -, inForce, asks⟩ := exists_of_mem_steps among
  cases event with
  | restart settings seeded =>
    cases seeded with
    | false => cases asks
    | true =>
      obtain rfl := List.mem_singleton.mp asks
      cases joins
  | request now r =>
    obtain ⟨op, asked, rfl⟩ : ∃ op, Http.operation? r = some op ∧ ⟨inForce, now, op⟩ = step := by
      simpa [Event.steps] using asks
    obtain rfl : op = .join new := joins
    obtain ⟨request, read, asks⟩ := Http.join_of_operation? asked
    exact ⟨r, request, new, now, read, asks, rfl⟩

theorem sound (settings : Settings) (seeded : Bool) (events : List Event) :
    Sound (reached settings seeded events).store := by
  obtain ⟨steps, same⟩ := exists_steps settings seeded events
  rw [same]
  exact sound_after steps

end Console

/-- A request that sends a record, at the start of 1970. -/
def Event.post {α : Type} [Wire.Record α] (path : String) (v : α) : Event :=
  .request (Time.Instant.ofUnix 0 0)
    ⟨"POST", Text.Utf8.ofString path, some "application/json", Wire.toText v⟩

/-- An instance joins and reserves a port. -/
def reservedByAbc : List Event :=
  [.post "/api/instances" (JoinRequest.mk (some "abc") (some "host") []),
    .post "/api/ports/reserve" (ReserveRequest.mk (some "abc") none)]

end PortPool
