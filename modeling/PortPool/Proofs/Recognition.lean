/-
# PortPool.Proofs.Recognition -- who joined is not unknown

Asking for ports, giving them back and listing them all look up the instance that is
named, each in its own place.  Once an instance joined, none of them answers that it is
not registered (`Recognised`): its row is found for good, and if it cannot be read that
is a fault of the store, not of the request.
-/
import PortPool.Proofs.Intact

namespace PortPool

set_option autoImplicit false

/-- The outcome is not that an instance is unknown. -/
def Recognised {α : Type} : Except Fault α → Prop
  | .ok _ => True
  | .error fault => ∀ id, fault ≠ .instanceNotRegistered id

namespace Recognised

variable {α β : Type}

theorem ok (a : α) : Recognised (.ok a) := trivial

theorem error {fault : Fault} (other : fault.kind ≠ "instance_not_registered") :
    Recognised (.error fault : Except Fault α) := by
  rintro id rfl
  exact other rfl

theorem bind {x : Except Fault α} {f : α → Except Fault β} (first : Recognised x)
    (rest : ∀ a, Recognised (f a)) : Recognised (x >>= f) := by
  cases x with
  | ok a => exact rest a
  | error fault => exact first

theorem map {x : Except Fault α} (first : Recognised x) (f : α → β) : Recognised (x.map f) := by
  cases x with
  | ok a => exact ok _
  | error fault => exact first

theorem readable (o : Option α) : Recognised (readable o) := by
  cases o with
  | none => exact .error (by simp [Fault.kind])
  | some a => exact ok a

theorem mapM {f : α → Except Fault β} (each : ∀ a, Recognised (f a)) (l : List α) :
    Recognised (l.mapM f) := by
  cases outcome : l.mapM f with
  | ok bs => exact ok bs
  | error fault =>
    obtain ⟨a, -, failed⟩ := exists_of_mapM_eq_error outcome
    have one := each a
    rw [failed] at one
    exact one

end Recognised

/-! ## Rows -/

theorem BindingRow.recognised_read (b : BindingRow) : Recognised b.read := by
  rw [BindingRow.read]
  cases b.releasedAt with
  | none =>
    exact (Recognised.readable _).bind fun _ => (Recognised.readable _).bind fun _ =>
      (Recognised.readable _).bind fun _ => .ok _
  | some text =>
    exact (Recognised.readable _).bind fun _ => (Recognised.readable _).bind fun _ =>
      (Recognised.readable _).bind fun _ => ((Recognised.readable _).map _).bind fun _ => .ok _

namespace Store

variable {s : Store} {id : String}

theorem recognised_readPort (r : PortRow) : Recognised (s.readPort r) :=
  (Recognised.readable _).bind fun _ => .ok _

/-! ## Instances -/

theorem recognised_getInstance (joined : s.Registered id) : Recognised (s.getInstance id) := by
  by_cases recalled : s.Recalls id
  · obtain ⟨i, found⟩ := recalled
    rw [found]
    exact .ok i
  · rw [getInstance_of_registered joined recalled]
    exact .error (by simp [Fault.kind])

/-- Joining succeeds exactly if nobody has the id. -/
theorem join_cases (s : Store) (new : NewInstance) (now : Time.Instant) :
    ¬s.Registered new.id ∧ s.join new now =
        .ok (⟨new.id, new.name, new.description, now⟩, s.joined (new.row now)) ∨
      s.Registered new.id ∧ (s.join new now = .error (.alreadyRegistered new.id) ∨
        s.join new now = .error .store) := by
  rcases s.findInstance_cases new.id with ⟨found, unknown⟩ | ⟨joined, ⟨i, found⟩ | failed⟩
  · left
    refine ⟨unknown, ?_⟩
    simp only [join, found, bind_ok, Option.isSome_none, Bool.false_eq_true, if_false,
      Intact.addInstance new now found, pure_eq_ok]
  · exact .inr ⟨joined, .inl (by simp only [join, found, bind_ok, Option.isSome_some, if_true])⟩
  · exact .inr ⟨joined, .inr (by simp only [join, failed, bind_error])⟩

theorem recognised_checkInstance {named : Option String}
    (joined : ∀ id, named = some id → s.Registered id) : Recognised (s.checkInstance named) := by
  cases named with
  | none => exact .ok ()
  | some id => exact (recognised_getInstance (joined id rfl)).bind fun _ => .ok ()

/-! ## Reserving -/

theorem recognised_bind (owner : String) (first last : Int) (now : Time.Instant) :
    Recognised (s.bind owner first last now) := by
  rw [bind]
  split
  · exact .ok _
  · exact .error (by simp [Fault.kind])

theorem recognised_grow (range : PortRange) (owner : String) (size : Nat) (now : Time.Instant) :
    Recognised (s.grow range owner size now) := by
  have largest : Recognised s.largestPort := by
    rw [largestPort]
    split
    · exact .ok _
    · exact (Recognised.readable _).map _
  refine Recognised.bind (largest.bind fun found => ?_) fun next => ?_
  · split <;> exact .ok _
  · dsimp only
    split
    · exact recognised_bind ..
    · exact .error (by simp [Fault.kind])

theorem recognised_reserveSpan (joined : s.Registered id) (range : PortRange) (size : Nat)
    (now : Time.Instant) : Recognised (s.reserveSpan range id size now) := by
  rw [reserveSpan]
  split
  · exact .error (by simp [Fault.kind])
  · refine (recognised_getInstance joined).bind fun _ => ?_
    split
    · exact recognised_bind ..
    · exact recognised_grow ..

theorem recognised_reserve (joined : s.Registered id) (range : PortRange) (size : Option Int)
    (now : Time.Instant) : Recognised (s.reserve range id size now) := by
  simp only [reserve, reserveOne_eq_reserveSpan]
  split
  · exact recognised_reserveSpan joined ..
  · split
    · exact recognised_reserveSpan joined ..
    · split
      · exact .error (by simp [Fault.kind])
      · split
        · exact .error (by simp [Fault.kind])
        · exact recognised_reserveSpan joined ..

/-! ## Releasing -/

theorem recognised_checkOwnership (ownership : Ownership) (named : Option String) :
    Recognised (checkOwnership ownership named) := by
  rw [checkOwnership]
  split
  · exact .error (by simp [Fault.kind])
  · exact .ok ()

theorem recognised_finish (b : BindingRow) (now : Time.Instant) : Recognised (s.finish b now) := by
  refine b.recognised_read.bind fun _ => ?_
  split
  · exact .ok _
  · exact .error (by simp [Fault.kind])

section Releasing

variable {named : Option String} (joined : ∀ id, named = some id → s.Registered id)
  (ownership : Ownership) (now : Time.Instant)

include joined

theorem recognised_releasePort (number : PortNumber) :
    Recognised (s.releasePort ownership number named now) := by
  refine (recognised_checkOwnership ..).bind fun _ => (recognised_checkInstance joined).bind
    fun _ => ?_
  split
  · exact .error (by simp [Fault.kind])
  · refine (recognised_readPort _).bind fun _ => ?_
    dsimp only
    split
    · exact .error (by simp [Fault.kind])
    · exact recognised_finish ..

theorem recognised_releaseSpan (first last : PortNumber) :
    Recognised (s.releaseSpan ownership first last named now) := by
  rw [releaseSpan]
  split
  · exact .error (by simp [Fault.kind])
  · refine (recognised_checkOwnership ..).bind fun _ => (recognised_checkInstance joined).bind
      fun _ => ?_
    dsimp only
    split
    · exact .error (by simp [Fault.kind])
    · refine (BindingRow.recognised_read _).bind fun _ => ?_
      split
      · exact recognised_finish ..
      · exact .error (by simp [Fault.kind])

end Releasing

theorem recognised_release {request : ReleaseRequest}
    (joined : ∀ id, request.instanceId = some id → s.Registered id) (ownership : Ownership)
    (now : Time.Instant) : Recognised (s.release ownership request now) := by
  obtain ⟨named, port, first, last⟩ := request
  have kept (id : String) (given : (named.filter fun id => !id.isEmpty) = some id) :
      s.Registered id :=
    joined id (Option.filter_eq_some_iff.mp given).1
  rw [release]
  rcases port with _ | port <;> rcases first with _ | first <;> rcases last with _ | last
  case some.none.none => exact recognised_releasePort kept ..
  case none.some.some => exact recognised_releaseSpan kept ..
  all_goals exact .error (by simp [Fault.kind])

/-! ## Listing -/

theorem recognised_listPorts {f : PortFilter}
    (joined : ∀ id, f.instanceId = some id → s.Registered id) : Recognised (s.listPorts f) := by
  rw [listPorts]
  split
  · exact (Recognised.ok ()).bind fun _ => .mapM recognised_readPort _
  · rename_i id named
    exact (recognised_getInstance (joined id named)).bind fun _ => .mapM recognised_readPort _

end Store

/-! ## Those who did not join -/

/-- The request is wrong in itself, or names an instance that is unknown. -/
def Rejected {α : Type} (id : String) : Except Fault α → Prop
  | .ok _ => False
  | .error fault => fault = .instanceNotRegistered id ∨ ∃ flaw, fault = .invalidRequest flaw

namespace Store

variable {s : Store} {id : String} (unknown : ¬s.Registered id)

include unknown

theorem rejected_reserveSpan (range : PortRange) (size : Nat) (now : Time.Instant) :
    Rejected id (s.reserveSpan range id size now) := by
  rw [reserveSpan]
  split
  · exact .inr ⟨_, rfl⟩
  · rw [getInstance_of_unregistered unknown, bind_error]
    exact .inl rfl

theorem rejected_reserve (range : PortRange) (size : Option Int) (now : Time.Instant) :
    Rejected id (s.reserve range id size now) := by
  simp only [reserve, reserveOne_eq_reserveSpan]
  split
  · exact rejected_reserveSpan unknown ..
  · split
    · exact rejected_reserveSpan unknown ..
    · split
      · exact .inr ⟨_, rfl⟩
      · split
        · exact .inr ⟨_, rfl⟩
        · exact rejected_reserveSpan unknown ..

theorem rejected_release {request : ReleaseRequest} (given : request.instanceId = some id)
    (named : id ≠ "") (ownership : Ownership) (now : Time.Instant) :
    Rejected id (s.release ownership request now) := by
  obtain ⟨_, port, first, last⟩ := request
  cases given
  have kept : ((some id).filter fun id => !id.isEmpty) = some id := by
    simp [Option.filter, named]
  have checked : s.checkInstance (some id) = .error (.instanceNotRegistered id) := by
    rw [checkInstance, getInstance_of_unregistered unknown, bind_error]
  have permitted : checkOwnership ownership (some id) = .ok () := by simp [checkOwnership]
  rw [release, kept]
  rcases port with _ | port <;> rcases first with _ | first <;> rcases last with _ | last
  case some.none.none =>
    show Rejected id (s.releasePort ..)
    rw [releasePort, permitted, bind_ok, checked, bind_error]
    exact .inl rfl
  case none.some.some =>
    show Rejected id (s.releaseSpan ..)
    rw [releaseSpan]
    split
    · exact .inr ⟨_, rfl⟩
    · rw [permitted, bind_ok, checked, bind_error]
      exact .inl rfl
  all_goals exact .inr ⟨_, rfl⟩

theorem rejected_listPorts {f : PortFilter} (given : f.instanceId = some id) :
    Rejected id (s.listPorts f) := by
  rw [listPorts, given]
  simp only [getInstance_of_unregistered unknown, bind_error]
  exact .inl rfl

end Store

end PortPool
