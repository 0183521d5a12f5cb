/-
# PortPool.Proofs.Client.Scope -- whose bindings the client releases

The client acts as the instance that it is told to act as, or as its machine.  Unless
it is told that anyone's binding will do, it names that instance in the request to
release, and the service reads the name that the client wrote.  What the service ends
on such a request therefore belongs to that instance (`reply_scoped`).

There is one exception.  To the service an empty id names no one, and the client sends
it like any other.  So a client that is told to act as the instance with the empty id
releases anyone's binding where that is allowed (`releases_others_as_empty_id`); a
fingerprint is never empty.
-/
import PortPool.Proofs.Host.Identity
import PortPool.Proofs.Http.Authority
import PortPool.Proofs.Wire.RoundTrip

namespace PortPool

set_option autoImplicit false

open Command.Client (Invocation)
open Client (Exchange Plan Target)

/-! ## The instance that is named -/

theorem Host.Machine.fingerprint_ne_empty (m : Host.Machine) : m.fingerprint ≠ "" := by
  intro empty
  have long : m.fingerprint.length = 64 :=
    (Host.hexadecimal_fingerprintOf m.machineId? m.name Host.architecture).length
  rw [empty] at long
  cases long

/-- The instance that the client acts as. -/
def Command.Client.Invocation.self (inv : Invocation) (machine : Host.Machine) : String :=
  inv.instanceId.getD machine.fingerprint

theorem instanceId_of_self_eq_empty {inv : Invocation} {machine : Host.Machine}
    (empty : inv.self machine = "") : inv.instanceId = some "" := by
  obtain ⟨server, instanceId, action⟩ := inv
  cases instanceId with
  | none => exact absurd empty machine.fingerprint_ne_empty
  | some id => exact congrArg some empty

/-! ## The request that is sent -/

theorem body_of_postRequest {α : Type} [Wire.Record α] {server path : String} {v : α}
    {r : Http.Request} (posted : Client.postRequest server path v = .ok r) :
    r.body = Wire.toText v := by
  obtain ⟨u, -, posted⟩ := bind_eq_ok.mp posted
  obtain ⟨target, -, same⟩ := bind_eq_ok.mp posted
  cases same
  rfl

theorem instanceId_request (target : Target) (owner : Option String) :
    (target.request owner).instanceId = owner := by
  cases target <;> rfl

/-- Unless anyone's binding will do, the request names the instance that the client acts
as. -/
theorem body_of_plan {machine : Host.Machine} {inv : Invocation} {target : Target}
    (told : inv.action = .release target false) {e : Exchange}
    (planned : Client.plan machine inv = .ok (.exchange e)) :
    e.request.body = Wire.toText (target.request (some (inv.self machine))) := by
  simp only [Client.plan, told, Bool.false_eq_true, if_false] at planned
  obtain ⟨r, posted, same⟩ := bind_eq_ok.mp planned
  cases same
  exact body_of_postRequest posted

/-- A request to release that can be read says what was written. -/
theorem eq_of_readBody {r : Http.Request} {written asked : ReleaseRequest}
    (body : r.body = Wire.toText written) (read : Http.readBody ReleaseRequest r = .ok asked) :
    asked = written := by
  simp only [Http.readBody, body, Wire.ofText_releaseRequest] at read
  split at read
  · cases read
  · split at read
    · cases read
    · exact (Except.ok.inj read).symm

/-! ## What the service makes of it -/

/-- There is output: the command line did what it says. -/
def Reply.isOutput : Reply → Bool
  | .output _ => true
  | _ => false

namespace Console

/-- Carrying out the command line ends the binding. -/
def ReplyEnds (c : Console) (machine : Host.Machine) (env : Command.Environment)
    (now : Time.Instant) (words : List String) (row : BindingRow) : Prop :=
  c.store.Ends (c.reply machine env now words).2.store row

variable {c : Console} {machine : Host.Machine} {env : Command.Environment}
  {now : Time.Instant} {words : List String} {inv : Invocation} {row : BindingRow}

theorem owner_of_replyEnds (sound : Sound c.store) {target : Target}
    (parsed : Command.Client.parse env words = .ok inv)
    (told : inv.action = .release target false)
    (ends : c.ReplyEnds machine env now words row) :
    row.owner = inv.self machine ∨ inv.self machine = "" ∧ c.settings.ownership = .optional := by
  rw [ReplyEnds, reply, parsed] at ends
  simp only [carryOut] at ends
  split at ends
  · exact absurd ends (Store.not_ends_of_mem ends.1)
  · exact absurd ends (Store.not_ends_of_mem ends.1)
  · rename_i e planned
    rcases Http.kept_or_authorised sound ends.1 with kept | authorised
    · exact absurd ends (Store.not_ends_of_mem kept)
    · obtain ⟨asked, read, admitted⟩ := authorised.admitted
      obtain rfl := eq_of_readBody (body_of_plan told planned) read
      rw [ReleaseRequest.Admitted, instanceId_request] at admitted
      rcases admitted with named | ⟨none | empty, optional⟩
      · exact .inl (Option.some.inj named).symm
      · cases none
      · exact .inr ⟨Option.some.inj empty, optional⟩

end Console

/-- **A client that does not ask for anyone's binding releases none but its own**, unless it
was given the empty id and the service lets releases name no one. -/
theorem reply_scoped (settings : Settings) (seeded : Bool) (events : List Event)
    (machine : Host.Machine) (env : Command.Environment) (now : Time.Instant)
    (words : List String) {inv : Invocation} {target : Target}
    (parsed : Command.Client.parse env words = .ok inv)
    (told : inv.action = .release target false) (row : BindingRow)
    (ends : (Console.reached settings seeded events).ReplyEnds machine env now words row) :
    row.owner = inv.self machine ∨ inv.instanceId = some "" ∧
      (Console.reached settings seeded events).settings.ownership = .optional := by
  have sound := Console.sound settings seeded events
  rcases Console.owner_of_replyEnds sound parsed told ends with own | ⟨empty, optional⟩
  · exact .inl own
  · exact .inr ⟨instanceId_of_self_eq_empty empty, optional⟩

/-! ## Two clients -/

/-- The row of that port. -/
def abcRow : BindingRow := ⟨1, "abc", 8000, 8000, "1970-01-01T00:00:00+00:00", none⟩

/-- No variables are set. -/
def noVariables : Command.Environment := { lookup := fun _ => none }

/-- A machine without an id. -/
def plainMachine : Host.Machine := ⟨[], none, 1⟩

/-- Words that release port 8000 as an instance. -/
def releaseWords (id : String) : List String :=
  ["--server", "http://[::1]:3030", "--instance-id", id, "port", "release", "8000"]

instance (s t : Store) (row : BindingRow) : Decidable (s.Ends t row) :=
  inferInstanceAs (Decidable (row ∈ s.bindings ∧ row.isActive ∧
    ∀ c ∈ t.bindings, c.id = row.id → c.isActive = false))

instance (c : Console) (machine : Host.Machine) (env : Command.Environment)
    (now : Time.Instant) (words : List String) (row : BindingRow) :
    Decidable (c.ReplyEnds machine env now words row) :=
  inferInstanceAs (Decidable (c.store.Ends (c.reply machine env now words).2.store row))

/-- The owner's own client ends the binding. -/
theorem reply_scoped_abc :
    (Console.reached ⟨threePorts, .optional⟩ false reservedByAbc).ReplyEnds plainMachine
        noVariables (Time.Instant.ofUnix 0 0) (releaseWords "abc") abcRow ∧
      abcRow.owner = "abc" := by
  have parsed : Command.Client.parse noVariables (releaseWords "abc") =
      .ok ⟨"http://[::1]:3030", some "abc", .release (.port 8000) false⟩ := by rfl
  have ends : (Console.reached ⟨threePorts, .optional⟩ false reservedByAbc).ReplyEnds
      plainMachine noVariables (Time.Instant.ofUnix 0 0) (releaseWords "abc") abcRow := by
    decide +kernel
  refine ⟨ends, ?_⟩
  rcases reply_scoped _ _ _ _ _ _ _ parsed rfl abcRow ends with own | ⟨empty, -⟩
  · exact own
  · exact absurd empty (by decide)

/-- Refuting pole: a client that was given the empty id, and was not told that anyone's
binding will do, succeeds in ending the binding of `abc`. -/
theorem releases_others_as_empty_id :
    ¬∀ (settings : Settings) (seeded : Bool) (events : List Event) (machine : Host.Machine)
        (env : Command.Environment) (now : Time.Instant) (words : List String)
        (inv : Invocation) (target : Target) (row : BindingRow),
      Command.Client.parse env words = .ok inv → inv.action = .release target false →
      ((Console.reached settings seeded events).reply machine env now words).1.isOutput →
      (Console.reached settings seeded events).ReplyEnds machine env now words row →
      row.owner = inv.self machine := by
  intro never
  have parsed : Command.Client.parse noVariables (releaseWords "") =
      .ok ⟨"http://[::1]:3030", some "", .release (.port 8000) false⟩ := by rfl
  have own := never ⟨threePorts, .optional⟩ false reservedByAbc plainMachine noVariables
    (Time.Instant.ofUnix 0 0) (releaseWords "") _ _ abcRow parsed rfl (by decide +kernel)
    (by decide +kernel)
  exact absurd own (by decide)

end PortPool
