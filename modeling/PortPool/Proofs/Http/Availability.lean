/-
# PortPool.Proofs.Http.Availability -- the service never fails by itself

Statuses from 500 on are for faults of the service itself: a row that cannot be read, a
rule of the store that a write breaks, a port that vanished.  None of them occurs as long
as the clock shows a year of four digits.  Whatever is sent, what is written came through
the readers of requests, so it can be read back (`served_of_operation?`); and on a store
whose rows can all be read no operation fails by itself (`Store.Intact`).
-/
import PortPool.Proofs.Http.Service
import PortPool.Proofs.Intact

namespace PortPool

set_option autoImplicit false

open Time.Rfc3339 (stored)

/-! ## What the service writes -/

namespace Http

variable {r : Request} {op : Operation}

/-- A body that was read was read from its text. -/
theorem ofText_of_readBody {α : Type} [Wire.Record α] {v : α} (read : readBody α r = .ok v) :
    Wire.ofText α r.body = .ok v := by
  simp only [readBody] at read
  split at read
  · cases read
  · split at read
    · cases read
    · split at read
      · rename_i isRead
        cases read
        exact isRead
      · cases read
      · cases read

/-- What a request asks of the store makes a step of the service. -/
theorem served_of_operation? {now : Time.Instant} (settings : Settings) (dated : now.Dated)
    (asked : operation? r = some op) : Step.Served ⟨settings, now, op⟩ where
  clock := dated
  described := by
    rintro new rfl
    obtain ⟨request, read, asks⟩ := join_of_operation? asked
    exact (served_of_joinRequest settings dated (ofText_of_readBody read) asks).described _ rfl

end Http

/-- The clock of the service shows a year of four digits when the event happens. -/
def Event.Dated : Event → Prop
  | .restart _ _ => True
  | .request now _ => now.Dated

theorem Event.served_of_mem_steps {event : Event} (dated : event.Dated) {settings : Settings}
    {step : Step} (member : step ∈ event.steps settings) : step.Served := by
  cases event with
  | restart settings seeded =>
    cases seeded with
    | false => cases member
    | true =>
      obtain rfl := List.mem_singleton.mp member
      have dated : (Time.Instant.ofUnix 0 0).Dated := ⟨by decide, by decide⟩
      exact ⟨dated, by rintro new ⟨⟩⟩
  | request now r =>
    simp only [Event.steps, Option.mem_toList, Option.map_eq_some_iff] at member
    obtain ⟨op, asked, rfl⟩ := member
    exact Http.served_of_operation? settings dated asked

namespace Console

theorem served_of_mem_stepsTo {settings : Settings} {seeded : Bool} {events : List Event}
    (dated : ∀ event ∈ events, event.Dated) {step : Step}
    (member : step ∈ stepsTo settings seeded events) : step.Served := by
  obtain ⟨event, among, settings, asks⟩ := exists_of_mem_steps member
  rcases List.mem_cons.mp among with rfl | among
  · exact Event.served_of_mem_steps (by trivial) asks
  · exact Event.served_of_mem_steps (dated event among) asks

theorem intact (settings : Settings) (seeded : Bool) {events : List Event}
    (dated : ∀ event ∈ events, event.Dated) : (reached settings seeded events).store.Intact := by
  rw [reached_store]
  exact intact_after fun step member => served_of_mem_stepsTo dated member

end Console

/-! ## Statuses -/

namespace Http

variable {s : Store} {r : Request}

theorem faultless_readBody (α : Type) [Wire.Record α] (r : Request) : Faultless (readBody α r) := by
  simp only [readBody]
  split
  · exact .error (by simp [Fault.status])
  · split
    · exact .error (by simp [Fault.status])
    · split
      · exact .ok _
      · exact .error (by simp [Fault.status])
      · exact .error (by simp [Fault.status])

theorem faultless_required (flaw : RequestFlaw) (text : Option String) :
    Faultless (required flaw text) := by
  simp only [required]
  split
  · exact .error (by simp [Fault.status])
  · exact .ok _

theorem faultless_ofRequest (request : JoinRequest) : Faultless (NewInstance.ofRequest request) :=
  .bind (faultless_required _ _) fun _ _ => .bind (faultless_required _ _) fun _ _ => .ok _

theorem faultless_askingInstance (request : ReserveRequest) :
    Faultless (askingInstance request) := by
  rw [askingInstance]
  split
  · split
    · exact .error (by simp [Fault.status])
    · exact .ok _
  · exact .error (by simp [Fault.status])

theorem status_answer {α : Type} [Wire.Record α] {status : Nat} {result : Except Fault (α × Store)}
    (low : status < 500) (faultless : Faultless result) :
    (answer status s result).1.status < 500 := by
  cases result with
  | ok done => exact low
  | error fault => exact faultless

theorem status_listing {α : Type} [Wire.Record α] {result : Except Fault (List α)}
    (faultless : Faultless result) : (listing result).status < 500 := by
  cases result with
  | ok vs => exact (by decide : 200 < 500)
  | error fault => exact faultless

theorem status_get (intact : s.Intact) (route : Route) (query : List UInt8) :
    (get s route query).status < 500 := by
  cases route with
  | health => exact (by decide : 200 < 500)
  | reserve | release | observed => exact (by decide : 405 < 500)
  | oneInstance segment =>
    simp only [get, getInstance]
    split
    · exact (by decide : 400 < 500)
    · rename_i id _
      have faultless := intact.getInstance (String.ofList id)
      split <;> rename_i outcome
      · exact (by decide : 200 < 500)
      · rw [outcome] at faultless
        exact faultless
  | instances =>
    simp only [get]
    split
    · exact (by decide : 400 < 500)
    · exact status_listing (intact.listInstances _)
  | ports =>
    simp only [get]
    split
    · exact (by decide : 400 < 500)
    · exact status_listing (intact.listPorts _)
  | bindings =>
    simp only [get]
    split
    · exact (by decide : 400 < 500)
    · exact status_listing (intact.listBindings _)

theorem status_post (intact : s.Intact) (settings : Settings) (now : Time.Instant) (r : Request)
    (route : Route) : (post settings now s r route).1.status < 500 := by
  cases route with
  | health | oneInstance | ports | bindings => exact (by decide : 405 < 500)
  | instances =>
    apply status_answer (by decide)
    apply Faultless.bind (faultless_readBody _ r)
    intro request _
    apply Faultless.bind (faultless_ofRequest request)
    intro new _
    exact intact.join new now
  | reserve =>
    apply status_answer (by decide)
    apply Faultless.bind (faultless_readBody _ r)
    intro request _
    apply Faultless.bind (faultless_askingInstance request)
    intro id _
    exact intact.reserve settings.range id request.size now
  | release =>
    apply status_answer (by decide)
    apply Faultless.bind (faultless_readBody _ r)
    intro request _
    exact intact.release settings.ownership request now
  | observed =>
    have faultless : Faultless (do
        let request ← readBody ObserveRequest r
        s.observe settings.range request.ports) := by
      apply Faultless.bind (faultless_readBody _ r)
      intro request _
      obtain ⟨ports, t, observed, -⟩ := Store.observe_records s settings.range request.ports
      rw [observed]
      exact .ok _
    simp only [post, postObserved]
    split <;> rename_i outcome
    · exact (by decide : 200 < 500)
    · rw [outcome] at faultless
      exact faultless

/-- **No request is answered with a fault of the service itself.** -/
theorem status_serve (intact : s.Intact) (settings : Settings) (now : Time.Instant) (r : Request) :
    (serve settings now s r).1.status < 500 := by
  simp only [serve]
  split
  · split
    · exact (by decide : 200 < 500)
    · exact (by decide : 404 < 500)
  · rename_i route _
    split
    · exact (by decide : 200 < 500)
    · split
      · exact (by decide : 405 < 500)
      · split
        · exact status_post intact settings now r route
        · split
          · exact status_get intact route r.query
          · exact status_get intact route r.query

end Http

/-! ## Services over time -/

/-- The service has no fault of its own. -/
structure Console.Available (c : Console) : Prop where
  /-- No request is answered with a status from 500 on. -/
  answers : ∀ (now : Time.Instant) (r : Http.Request),
    (Http.serve c.settings now c.store r).1.status < 500
  /-- Every row can be read. -/
  instances : ∀ r ∈ c.store.instances, ∃ i, r.read = .ok i
  ports : ∀ r ∈ c.store.ports.rows, ∃ p, c.store.readPort r = .ok p
  bindings : ∀ b ∈ c.store.bindings, ∃ shown, b.read = .ok shown
  /-- The largest number is a port. -/
  largest : ∃ largest, c.store.largestPort = .ok largest
  /-- An instance that is not found can be added. -/
  joins : ∀ (new : NewInstance) (now : Time.Instant),
    c.store.findInstance new.id = .ok none → ∃ t, c.store.addInstance (some new.id) (some new.name)
      (some (Json.Value.object new.description).toText) (some (stored now)) = .ok t
  /-- A span that a reservation found can be bound. -/
  binds : ∀ (range : PortRange) (owner : String) (size : Option Int) (now : Time.Instant),
    c.store.reserve range owner size now ≠ .error .store
  /-- An active binding can be released. -/
  finishes : ∀ b ∈ c.store.bindings, b.isActive → ∀ now, ∃ done, c.store.finish b now = .ok done
  /-- No port that was recorded has vanished. -/
  observes : ∀ (range : PortRange) (reported : List PortNumber),
    ∃ done, c.store.observe range reported = .ok done

/-- **The service is available, whatever it is sent**, as long as its clock shows years of
four digits. -/
theorem reached_available (settings : Settings) (seeded : Bool) (events : List Event)
    (dated : ∀ event ∈ events, event.Dated) :
    (Console.reached settings seeded events).Available := by
  have intact := Console.intact settings seeded dated
  exact {
    answers := fun now r => Http.status_serve intact _ now r
    instances := intact.instances
    ports := intact.ports
    bindings := intact.bindings
    largest := intact.largestPort
    joins := fun new now unknown => ⟨_, Store.Intact.addInstance new now unknown⟩
    binds := fun range owner size now failed => by
      have faultless := intact.reserve range owner size now
      rw [failed] at faultless
      exact Nat.lt_irrefl 500 faultless
    finishes := fun b present active => intact.finish present active
    observes := fun range reported => by
      obtain ⟨ports, t, observed, -⟩ :=
        Store.observe_records (Console.reached settings seeded events).store range reported
      exact ⟨_, observed⟩ }

/-- A service on which an instance joined and reserved a port. -/
theorem reached_available_abc :
    (∀ event ∈ reservedByAbc, event.Dated) ∧
      (Console.reached ⟨threePorts, .optional⟩ false reservedByAbc).Available := by
  have dated : ∀ event ∈ reservedByAbc, event.Dated := by
    intro event member
    have start : (Time.Instant.ofUnix 0 0).Dated := ⟨by decide, by decide⟩
    rcases List.mem_cons.mp member with rfl | member
    · exact start
    · obtain rfl := List.mem_singleton.mp member
      exact start
  exact ⟨dated, reached_available _ _ _ dated⟩

end PortPool
