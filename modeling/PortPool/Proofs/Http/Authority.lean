/-
# PortPool.Proofs.Http.Authority -- who can end a binding

An active binding ends by one thing only: a `POST` to the path for releases that is
answered with that very binding, and whose body names the owner, or no one where the
pool lets no one be named (`Authorised`).  An empty name names no one.

The rule is checked in three places of the store, for the policy, for the instance and
for the binding; `Ended` has joined what they come to.  Here it is carried to the
requests that can be sent: while the pool requires an owner, nobody ends a binding
without writing the owner's id, whatever else is sent in between (`release_authority`).
-/
import PortPool.Proofs.Http.Service
import PortPool.Proofs.Turn

namespace PortPool

set_option autoImplicit false

/-! ## Bindings that end -/

namespace Store

/-- The binding is active in the one store and no longer in the other. -/
def Ends (s t : Store) (row : BindingRow) : Prop :=
  row ∈ s.bindings ∧ row.isActive ∧ ∀ c ∈ t.bindings, c.id = row.id → c.isActive = false

variable {s t : Store} {row other : BindingRow} {now : Time.Instant} {b : Binding}

theorem not_ends_of_mem (kept : row ∈ t.bindings) : ¬s.Ends t row := by
  rintro ⟨-, active, ended⟩
  rw [ended row kept rfl] at active
  cases active

/-- A release leaves every other binding as it is. -/
theorem Ended.mem_of_ne {ownership : Ownership} {named : Option String}
    (ended : s.Ended ownership named now row b t) (present : other ∈ s.bindings)
    (apart : other.id ≠ row.id) : other ∈ t.bindings := by
  rw [ended.store]
  exact List.mem_map.mpr ⟨other, present, if_neg apart⟩

/-- A release ends the one binding that it releases. -/
theorem Ended.ends_iff (sound : Sound s) {ownership : Ownership} {named : Option String}
    (ended : s.Ended ownership named now row b t) : s.Ends t other ↔ other = row := by
  constructor
  · intro ends
    by_contra different
    have apart : other.id ≠ row.id := fun same =>
      different (sound.eq_of_id_eq ends.1 ended.present same)
    exact not_ends_of_mem (ended.mem_of_ne ends.1 apart) ends
  · rintro rfl
    refine ⟨ended.present, ended.active, fun c member same => ?_⟩
    rw [ended.store] at member
    obtain ⟨d, -, rfl⟩ := List.mem_map.mp member
    rw [BindingRow.marked_id] at same
    rw [← Bool.not_eq_true, BindingRow.isActive_marked]
    exact fun both => both.2 same

end Store

/-- A binding stays as it is, or the turn has released it. -/
theorem Turn.kept_or_ended (turn : Turn) (sound : Sound turn.store) {row : BindingRow}
    (present : row ∈ turn.store.bindings) :
    row ∈ turn.next.bindings ∨ ∃ b, turn.released? = some b ∧
      turn.store.Ended turn.step.settings.ownership turn.step.request.named turn.step.now row b
        turn.next := by
  rcases turn.cases with ⟨b, -, -, reserved⟩ | ⟨other, b, -, released, ended⟩ |
    ⟨-, -, bindings, -⟩
  · rw [reserved.bindings]
    exact .inl (List.mem_cons_of_mem _ present)
  · by_cases same : row.id = other.id
    · obtain rfl := sound.eq_of_id_eq present ended.present same
      exact .inr ⟨b, released, ended⟩
    · exact .inl (ended.mem_of_ne present same)
  · rw [bindings]
    exact .inl present

/-! ## Requests that release -/

/-- The request may release bindings of this owner: it names the owner, or no one where
that is allowed.  An empty name names no one. -/
def ReleaseRequest.Admitted (ownership : Ownership) (owner : String) (asked : ReleaseRequest) :
    Prop :=
  asked.instanceId = some owner ∨
    (asked.instanceId = none ∨ asked.instanceId = some "") ∧ ownership = .optional

theorem Store.Ended.admitted {s t : Store} {ownership : Ownership} {now : Time.Instant}
    {row : BindingRow} {b : Binding} {asked : ReleaseRequest}
    (ended : s.Ended ownership (Operation.release asked).named now row b t) :
    asked.Admitted ownership row.owner := by
  have optional (anonymous : (Operation.release asked).named = none) : ownership = .optional := by
    cases ownership with
    | optional => rfl
    | required => exact absurd anonymous (ended.permitted rfl)
  cases named : asked.instanceId with
  | none =>
    refine .inr ⟨.inl named, optional ?_⟩
    simp [Operation.named, named]
  | some id =>
    by_cases empty : id = ""
    · subst empty
      refine .inr ⟨.inr named, optional ?_⟩
      simp [Operation.named, named]
    · have given : (Operation.release asked).named = some id := by
        simp [Operation.named, named, empty]
      rw [ended.owned id given]
      exact .inl named

namespace Http

/-- Where ports are given back. -/
def releasePath : List UInt8 := Text.Utf8.ofString "/api/ports/release"

/-- The request gives ports back. -/
def IsRelease (r : Request) : Prop := r.method = "POST" ∧ r.path = releasePath

theorem ofPath_releasePath : Route.ofPath releasePath = some .release := by decide

theorem eq_releasePath_of_ofPath {path : List UInt8} (route : Route.ofPath path = some .release) :
    path = releasePath := by
  rw [Route.ofPath] at route
  split at route
  · rename_i found
    have same := List.find?_some found
    have member := List.mem_of_find?_eq_some found
    cases route
    simp only [Route.fixed, List.mem_cons, Prod.mk.injEq, List.not_mem_nil, reduceCtorEq,
      and_false, and_true, or_false, false_or] at member
    rw [member] at same
    exact (beq_iff_eq.mp same).symm
  · dsimp only at route
    split at route
    · cases route
    · cases route

/-- An operation that gives ports back came with a release. -/
theorem isRelease_of_operation? {r : Request} {op : Operation} (asked : operation? r = some op)
    (releases : op.releases) : IsRelease r ∧ ∃ request, op = .release request ∧
      readBody ReleaseRequest r = .ok request := by
  by_cases posted : r.method = "POST"
  · rw [operation?, if_pos posted] at asked
    split at asked
    · obtain ⟨new, -, rfl⟩ := Option.map_eq_some_iff.mp asked
      cases releases
    · simp only [toOption_eq_some, bind_eq_ok, pure_eq_ok, Except.ok.injEq] at asked
      obtain ⟨_, -, _, -, rfl⟩ := asked
      cases releases
    · rename_i route
      obtain ⟨request, body, rfl⟩ := Option.map_eq_some_iff.mp asked
      exact ⟨⟨posted, eq_releasePath_of_ofPath route⟩, request, rfl, toOption_eq_some.mp body⟩
    · obtain ⟨request, -, rfl⟩ := Option.map_eq_some_iff.mp asked
      cases releases
    · cases asked
  · rw [operation?, if_neg posted] at asked
    cases asked

theorem serve_of_isRelease {settings : Settings} {now : Time.Instant} {s : Store} {r : Request}
    (asks : IsRelease r) : serve settings now s r = postRelease settings now s r := by
  obtain ⟨posted, path⟩ := asks
  exact serve_posted posted (path ▸ ofPath_releasePath) rfl

theorem status_fault_ne (f : Fault) : (Response.fault f).status ≠ 200 := by
  have status : (Response.fault f).status = f.status := rfl
  rw [status]
  cases f <;> simp [Fault.status]

/-- A release was asked for and answered with this binding, on behalf of its owner or, if
that is allowed, of no one. -/
structure Authorised (settings : Settings) (now : Time.Instant) (r : Request)
    (row : BindingRow) (response : Response) : Prop where
  asks : IsRelease r
  admitted : ∃ asked, readBody ReleaseRequest r = .ok asked ∧
    asked.Admitted settings.ownership row.owner
  answered : ∃ b, row.read = .ok b ∧
    response = .record 200 { b with releasedAt := some now }

variable {settings : Settings} {now : Time.Instant} {s : Store} {r : Request} {row : BindingRow}

/-- **A request keeps a binding as it is, or had the right to end it.** -/
theorem kept_or_authorised (sound : Sound s) (present : row ∈ s.bindings) :
    row ∈ (serve settings now s r).2.bindings ∨
      Authorised settings now r row (serve settings now s r).1 := by
  rw [serve_snd]
  cases asked : operation? r with
  | none => exact .inl present
  | some op =>
    rcases Turn.kept_or_ended ⟨s, settings, now, op⟩ sound present with
      kept | ⟨b, released, ended⟩
    · exact .inl kept
    · right
      obtain ⟨releases, answered⟩ := Turn.of_released? released
      obtain ⟨asks, request, rfl, body⟩ := isRelease_of_operation? asked releases
      obtain ⟨t, performed⟩ := answered
      obtain ⟨c, granted, same⟩ := Operation.changing_eq_ok.mp performed
      cases same
      obtain ⟨shown, told, rfl⟩ := ended.told
      refine ⟨asks, ⟨request, body, ended.admitted⟩, shown, told, ?_⟩
      rw [serve_of_isRelease asks, postRelease, body, bind_ok, granted]
      rfl

/-- A release that is answered with 200 ends exactly one binding. -/
theorem existsUnique_ends (sound : Sound s) (asks : IsRelease r)
    (succeeded : (serve settings now s r).1.status = 200) :
    ∃! row, s.Ends (serve settings now s r).2 row := by
  rw [serve_of_isRelease asks, postRelease] at succeeded ⊢
  cases body : readBody ReleaseRequest r with
  | error fault =>
    rw [body] at succeeded
    exact absurd succeeded (status_fault_ne fault)
  | ok asked =>
    rw [body, bind_ok] at succeeded
    rw [bind_ok]
    cases released : s.release settings.ownership asked now with
    | error fault =>
      rw [released] at succeeded
      exact absurd succeeded (status_fault_ne fault)
    | ok done =>
      obtain ⟨b, t⟩ := done
      obtain ⟨row, ended⟩ := Store.release_ended released
      exact ⟨row, (ended.ends_iff sound).mpr rfl, fun other => (ended.ends_iff sound).mp⟩

end Http

/-! ## Services over time -/

/-- The event lets no one end bindings of this owner: the pool goes on requiring an owner,
and no release names this one. -/
def Event.Spares (owner : String) : Event → Prop
  | .restart settings _ => settings.ownership = .required
  | .request _ r => Http.IsRelease r → ∀ asked, Http.readBody ReleaseRequest r = .ok asked →
    asked.instanceId ≠ some owner

namespace Console

variable {c : Console} {row : BindingRow}

theorem handle_spares {event : Event} (sound : Sound c.store)
    (required : c.settings.ownership = .required) (spared : event.Spares row.owner)
    (present : row ∈ c.store.bindings) :
    (c.handle event).settings.ownership = .required ∧
      row ∈ (c.handle event).store.bindings := by
  cases event with
  | restart settings seeded =>
    refine ⟨spared, ?_⟩
    cases seeded with
    | false => exact present
    | true => exact present
  | request now r =>
    refine ⟨required, ?_⟩
    rcases Http.kept_or_authorised sound present with kept | authorised
    · exact kept
    · obtain ⟨asked, body, named | ⟨-, optional⟩⟩ := authorised.admitted
      · exact absurd named (spared authorised.asks asked body)
      · rw [required] at optional
        cases optional

theorem handle_sound (sound : Sound c.store) (event : Event) : Sound (c.handle event).store := by
  obtain ⟨steps, reached⟩ := c.handle_steps event
  rw [reached]
  exact sound.after steps

/-- What every event spares is there in the end. -/
theorem after_spares {events : List Event} (sound : Sound c.store)
    (required : c.settings.ownership = .required)
    (spared : ∀ event ∈ events, event.Spares row.owner) (present : row ∈ c.store.bindings) :
    row ∈ (c.after events).store.bindings := by
  induction events generalizing c with
  | nil => exact present
  | cons event events ih =>
    obtain ⟨still, kept⟩ :=
      handle_spares sound required (spared event List.mem_cons_self) present
    exact ih (handle_sound sound event) still
      (fun other later => spared other (List.mem_cons_of_mem _ later)) kept

end Console

/-- **Only authorised releases.**  Whatever a service was asked before and however often it
was started again: a request ends a binding only if it had the right to; a release that
succeeds ends exactly one; and while an owner is required, the bindings of an instance that
no release names stay as they are. -/
theorem release_authority (settings : Settings) (seeded : Bool) (events : List Event)
    (now : Time.Instant) (r : Http.Request) :
    let c := Console.reached settings seeded events
    let done := Http.serve c.settings now c.store r
    (∀ row, c.store.Ends done.2 row → Http.Authorised c.settings now r row done.1) ∧
    (Http.IsRelease r → done.1.status = 200 → ∃! row, c.store.Ends done.2 row) ∧
    (c.settings.ownership = .required → ∀ (owner : String) (later : List Event),
      (∀ event ∈ later, event.Spares owner) →
      ∀ row ∈ c.store.bindings, row.owner = owner → row ∈ (c.after later).store.bindings) := by
  intro c done
  have sound : Sound c.store := Console.sound settings seeded events
  refine ⟨fun row ends => ?_, Http.existsUnique_ends sound, ?_⟩
  · rcases Http.kept_or_authorised sound ends.1 with kept | authorised
    · exact absurd ends (Store.not_ends_of_mem kept)
    · exact authorised
  · rintro required owner later spared row present rfl
    exact Console.after_spares sound required spared present

end PortPool
