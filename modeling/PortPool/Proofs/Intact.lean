/-
# PortPool.Proofs.Intact -- a store that can be worked with

What the service writes it can read again: every row of an instance, a port or a binding
that a run of the service wrote tells what was written (`intact_after`).  On such a store
no operation fails by a fault of the service itself.  Whatever the rules of the store
would refuse was looked at before: a taken id when an instance joins, a port that is held
when a span is bound, a binding that was released when it is to be released.

What remains are faults of the request (`Faultless`).
-/
import PortPool.Proofs.History

namespace PortPool

set_option autoImplicit false

open Time.Rfc3339 (read? stored read?_stored)

/-! ## Faults of the request -/

/-- The outcome is no fault of the service itself. -/
def Faultless {α : Type} : Except Fault α → Prop
  | .ok _ => True
  | .error fault => fault.status < 500

namespace Faultless

variable {α β : Type}

theorem ok (a : α) : Faultless (.ok a) := trivial

theorem error {fault : Fault} (low : fault.status < 500) :
    Faultless (.error fault : Except Fault α) := low

theorem bind {x : Except Fault α} {f : α → Except Fault β} (first : Faultless x)
    (rest : ∀ a, x = .ok a → Faultless (f a)) : Faultless (x >>= f) := by
  cases x with
  | ok a => exact rest a rfl
  | error fault => exact first

theorem of_eq_ok {x : Except Fault α} (done : ∃ a, x = .ok a) : Faultless x := by
  obtain ⟨a, rfl⟩ := done
  exact ok a

theorem mapM {f : α → Except Fault β} {l : List α} (each : ∀ a ∈ l, Faultless (f a)) :
    Faultless (l.mapM f) := by
  cases outcome : l.mapM f with
  | ok bs => exact ok bs
  | error fault =>
    obtain ⟨a, among, failed⟩ := exists_of_mapM_eq_error outcome
    have one := each a among
    rw [failed] at one
    exact one

end Faultless

/-! ## Rows of the service -/

/-- Every row of the store can be read. -/
structure Store.Intact (s : Store) : Prop where
  sound : Sound s
  bounded : s.Bounded
  instances : ∀ r ∈ s.instances, ∃ i, r.read = .ok i
  ports : ∀ r ∈ s.ports.rows, ∃ p, s.readPort r = .ok p
  bindings : ∀ b ∈ s.bindings, ∃ c, b.read = .ok c

/-- The instants in the row of a binding can be read. -/
def BindingRow.Dated (b : BindingRow) : Prop :=
  (read? b.reservedAt).isSome ∧ ∀ text ∈ b.releasedAt, (read? text).isSome

theorem isSome_read?_stored {now : Time.Instant} (dated : now.Dated) :
    (read? (stored now)).isSome := by
  rw [read?_stored dated.1 dated.2]
  rfl

theorem dated_after {steps : List Step} (dated : ∀ step ∈ steps, step.now.Dated) :
    ∀ b ∈ (Store.empty.after steps).bindings, b.Dated := by
  refine after_induction (P := fun s => ∀ b ∈ s.bindings, b.Dated) steps ?_ ?_
  · intro b member
    cases member
  intro step member t u moved before b mb
  have written := isSome_read?_stored (dated step member)
  cases moved with
  | join | record => exact before b mb
  | bind =>
    rcases List.mem_cons.mp mb with rfl | old
    · exact ⟨written, by simp⟩
    · exact before b old
  | release =>
    obtain ⟨c, mc, rfl⟩ := List.mem_map.mp mb
    unfold BindingRow.marked
    split
    · exact ⟨(before c mc).1, by simpa using written⟩
    · exact before c mc

theorem PortNumber.exists_ofInt? {n : Int} (within : 0 < n ∧ n < 65535) :
    ∃ p, PortNumber.ofInt? n = some p :=
  ⟨_, dif_pos ⟨by omega, by omega⟩⟩

/-- A row with two ports and instants that can be read can be read. -/
theorem BindingRow.read_of_dated {b : BindingRow} (dated : b.Dated)
    (first : 0 < b.first ∧ b.first < 65535) (last : 0 < b.last ∧ b.last < 65535) :
    ∃ c, b.read = .ok c := by
  obtain ⟨reservedAt, isReserved⟩ := Option.isSome_iff_exists.mp dated.1
  obtain ⟨_, starts⟩ := PortNumber.exists_ofInt? first
  obtain ⟨_, ends⟩ := PortNumber.exists_ofInt? last
  cases released : b.releasedAt with
  | none =>
    simp only [BindingRow.read, starts, ends, isReserved, released, readable, bind_ok, pure_eq_ok]
    exact ⟨_, rfl⟩
  | some text =>
    obtain ⟨releasedAt, isReleased⟩ := Option.isSome_iff_exists.mp (dated.2 text released)
    simp only [BindingRow.read, starts, ends, isReserved, released, isReleased, readable, bind_ok,
      map_ok, pure_eq_ok]
    exact ⟨_, rfl⟩

/-- A binding has instants that were stored and ports of a range. -/
theorem read_binding_after {steps : List Step} (dated : ∀ step ∈ steps, step.now.Dated) :
    ∀ b ∈ (Store.empty.after steps).bindings, ∃ c, b.read = .ok c := by
  intro b member
  have sound := sound_after steps
  have bounded := bounded_after steps
  have ordered := sound.ordered b member
  have covered := sound.covered b member
  exact BindingRow.read_of_dated (dated_after dated b member)
    (bounded _ (covered b.first (Int.le_refl _) ordered))
    (bounded _ (covered b.last ordered (Int.le_refl _)))

/-- **What the service wrote can be read again.** -/
theorem intact_after {steps : List Step} (served : ∀ step ∈ steps, step.Served) :
    (Store.empty.after steps).Intact where
  sound := sound_after steps
  bounded := bounded_after steps
  instances := read_after served
  ports r member := by
    obtain ⟨_, number⟩ := PortNumber.exists_ofInt? (bounded_after steps r.number ⟨r, member, rfl⟩)
    simp only [Store.readPort, number, readable, bind_ok, pure_eq_ok]
    exact ⟨_, rfl⟩
  bindings := read_binding_after fun step among => (served step among).clock

namespace Store.Intact

variable {s : Store} {range : PortRange} {owner : String} {now : Time.Instant}

/-! ## Instances -/

theorem findInstance (intact : s.Intact) (id : String) : ∃ found, s.findInstance id = .ok found := by
  rw [Store.findInstance]
  split
  · exact ⟨none, rfl⟩
  · rename_i r found
    obtain ⟨i, read⟩ := intact.instances r (List.mem_of_find?_eq_some found)
    exact ⟨some i, by rw [read, map_ok]⟩

theorem getInstance (intact : s.Intact) (id : String) : Faultless (s.getInstance id) := by
  apply Faultless.bind (.of_eq_ok (intact.findInstance id))
  intro found _
  cases found with
  | some i => exact .ok i
  | none => exact .error (by simp [Fault.status])

/-- Nobody has the id of an instance that is not found. -/
theorem addInstance (new : NewInstance) (now : Time.Instant)
    (unknown : s.findInstance new.id = .ok none) :
    s.addInstance (some new.id) (some new.name)
      (some (Json.Value.object new.description).toText) (some (stored now)) =
        .ok (s.joined (new.row now)) := by
  have fresh : (s.instances.any fun r => r.id == some new.id) = false := by
    rw [Store.findInstance] at unknown
    split at unknown
    · rename_i missing
      simpa using missing
    · obtain ⟨i, -, found⟩ := map_eq_ok.mp unknown
      cases found
  simp only [Store.addInstance, filled, bind_ok, fresh, Bool.and_false, Bool.false_eq_true, if_false]
  rfl

theorem join (intact : s.Intact) (new : NewInstance) (now : Time.Instant) :
    Faultless (s.join new now) := by
  apply Faultless.bind (.of_eq_ok (intact.findInstance new.id))
  intro found isFound
  cases found with
  | some i => exact .error (by simp [Fault.status])
  | none =>
    simp only [Option.isSome_none, Bool.false_eq_true, if_false, addInstance new now isFound]
    exact .ok _

theorem listInstances (intact : s.Intact) (name : Option String) :
    Faultless (s.listInstances name) := by
  refine .mapM fun r member => .of_eq_ok (intact.instances r ?_)
  exact (List.mem_filter.mp (List.mem_mergeSort.mp member)).1

/-! ## Reserving -/

/-- The largest number is always a port. -/
theorem largestPort (intact : s.Intact) : ∃ largest, s.largestPort = .ok largest := by
  cases largest : s.ports.largest? with
  | none => exact ⟨none, by rw [Store.largestPort, largest]⟩
  | some number =>
    obtain ⟨known, -⟩ := PortTable.largest?_eq_some largest
    obtain ⟨port, isPort⟩ := PortNumber.exists_ofInt? (intact.bounded number known)
    exact ⟨some port, by simp only [Store.largestPort, largest, isPort, readable, map_ok]⟩

theorem reserve (intact : s.Intact) (range : PortRange) (owner : String) (size : Option Int)
    (now : Time.Instant) : Faultless (s.reserve range owner size now) := by
  by_cases refused : SizeRefused size
  · have failed : ∃ flaw, s.reserve range owner size now = .error (.invalidRequest flaw) :=
      reserve_refused refused
    obtain ⟨flaw, failed⟩ := failed
    rw [failed]
    exact .error (by simp [Fault.status])
  · rcases @reserve_cases s range owner now intact.sound intact.bounded size refused with
      ⟨-, failed⟩ | ⟨⟨joined, unread⟩, -⟩ | ⟨-, ⟨b, t, granted⟩ | failed⟩
    · rw [failed]
      exact .error (by simp [Fault.status])
    · exact absurd (recalls_of_read joined intact.instances) unread
    · rw [granted]
      exact .ok _
    · rw [failed]
      exact .error (by simp [Fault.status])

/-! ## Releasing -/

theorem checkOwnership (ownership : Ownership) (named : Option String) :
    Faultless (Store.checkOwnership ownership named) := by
  rw [Store.checkOwnership]
  split
  · exact .error (by simp [Fault.status])
  · exact .ok ()

theorem checkInstance (intact : s.Intact) (named : Option String) :
    Faultless (s.checkInstance named) := by
  cases named with
  | none => exact .ok ()
  | some id => exact .bind (intact.getInstance id) fun _ _ => .ok ()

/-- An active binding can be released. -/
theorem finish (intact : s.Intact) {b : BindingRow} (present : b ∈ s.bindings)
    (active : b.isActive) (now : Time.Instant) : ∃ done, s.finish b now = .ok done := by
  obtain ⟨shown, read⟩ := intact.bindings b present
  cases found : s.bindings.find? fun c => (c.id : Int) == (b.id : Int) with
  | none =>
    have := List.find?_eq_none.mp found b present
    simp at this
  | some c =>
    have same : c.id = b.id := by simpa using List.find?_some found
    obtain rfl := intact.sound.eq_of_id_eq (List.mem_of_find?_eq_some found) present same
    simp only [Store.finish, read, bind_ok, setReleased, found, active, if_true, pure_eq_ok]
    exact ⟨_, rfl⟩

theorem releasePort (intact : s.Intact) (ownership : Ownership) (number : PortNumber)
    (named : Option String) (now : Time.Instant) :
    Faultless (s.releasePort ownership number named now) := by
  apply Faultless.bind (checkOwnership ..)
  intro _ _
  apply Faultless.bind (intact.checkInstance named)
  intro _ _
  split
  · exact .error (by simp [Fault.status])
  · rename_i r found
    have member := (PortTable.find?_eq_some.mp found).1
    apply Faultless.bind (.of_eq_ok (intact.ports r member))
    intro _ _
    simp only
    split
    · exact .error (by simp [Fault.status])
    · rename_i b found
      obtain ⟨present, active, -⟩ := of_bindingOf?_eq_some found
      exact .of_eq_ok (intact.finish present active now)

theorem releaseSpan (intact : s.Intact) (ownership : Ownership) (first last : PortNumber)
    (named : Option String) (now : Time.Instant) :
    Faultless (s.releaseSpan ownership first last named now) := by
  rw [Store.releaseSpan]
  split
  · exact .error (by simp [Fault.status])
  · apply Faultless.bind (checkOwnership ..)
    intro _ _
    apply Faultless.bind (intact.checkInstance named)
    intro _ _
    simp only
    split
    · exact .error (by simp [Fault.status])
    · rename_i b chosen
      obtain ⟨present, -⟩ := of_spanning?_eq_some chosen
      apply Faultless.bind (.of_eq_ok (intact.bindings b present))
      intro shown read
      split
      · rename_i active
        rw [(BindingRow.of_read read).2.2.2.2] at active
        exact .of_eq_ok (intact.finish present active now)
      · exact .error (by simp [Fault.status])

theorem release (intact : s.Intact) (ownership : Ownership) (request : ReleaseRequest)
    (now : Time.Instant) : Faultless (s.release ownership request now) := by
  obtain ⟨named, port, first, last⟩ := request
  rw [Store.release]
  rcases port with _ | port <;> rcases first with _ | first <;> rcases last with _ | last
  case some.none.none => exact intact.releasePort ..
  case none.some.some => exact intact.releaseSpan ..
  all_goals exact .error (by simp [Fault.status])

/-! ## Listing and observing -/

theorem listPorts (intact : s.Intact) (filter : PortFilter) : Faultless (s.listPorts filter) := by
  have rows {matching : PortRow → Bool} :
      Faultless ((s.ports.rows.filter matching).mapM s.readPort) :=
    .mapM fun r member => .of_eq_ok (intact.ports r (List.mem_filter.mp member).1)
  rw [Store.listPorts]
  split
  · exact rows
  · rename_i id _
    exact .bind (intact.getInstance id) fun _ _ => rows

theorem listBindings (intact : s.Intact) (filter : BindingFilter) :
    Faultless (s.listBindings filter) :=
  .mapM fun b member => .of_eq_ok (intact.bindings b (List.mem_filter.mp member).1)

end Store.Intact

end PortPool
