/-
# PortPool.Proofs.Soundness -- no port belongs to two active bindings

The store says in two places which ports a binding has: by the span of its row and
by the links of the ports.  A store is sound if both agree (`linked`, `covered`)
and the spans of active bindings do not meet (`apart`).  Neither is enough alone:
a new span is checked against the links of its ports, so that it keeps clear of the
spans of other bindings only because these are linked to everything they cover.

Every move keeps a store sound (`Sound.move`), so it is sound after every run.
What follows for a reader of the store is `Consistent`, and `after_consistent` is
the statement for whole runs.
-/
import PortPool.Proofs.Move

namespace PortPool

set_option autoImplicit false

open Store

/-! ## The invariant -/

/-- Spans and links agree, and no two active bindings meet. -/
structure Sound (s : Store) : Prop where
  latestFirst : s.bindings.Pairwise fun a b => b.id < a.id
  counted : ∀ b ∈ s.bindings, b.id < s.nextBinding
  ordered : ∀ b ∈ s.bindings, b.first ≤ b.last
  owned : ∀ b ∈ s.bindings, s.Registered b.owner
  covered : ∀ b ∈ s.bindings, ∀ n, b.first ≤ n → n ≤ b.last → s.Knows n
  linked : ∀ r ∈ s.ports.rows, ∀ h, h ∈ r.holders ↔
    ∃ b ∈ s.bindings, b.id = h ∧ b.first ≤ r.number ∧ r.number ≤ b.last
  once : ∀ r ∈ s.ports.rows, r.holders.Nodup
  apart : s.bindings.Pairwise fun a b =>
    a.isActive → b.isActive → a.last < b.first ∨ b.last < a.first
  portCounted : ∀ r ∈ s.ports.rows, r.id < s.nextPort
  portIds : ∀ r ∈ s.ports.rows, ∀ q ∈ s.ports.rows, r.id = q.id → r = q
  instanceIds : s.instances.Pairwise fun a b => a.id ≠ b.id

/-- The number lies in the span of an active binding. -/
def Store.Occupied (s : Store) (n : Int) : Prop :=
  ∃ b ∈ s.bindings, b.isActive ∧ b.first ≤ n ∧ n ≤ b.last

instance (s : Store) (n : Int) : Decidable (s.Occupied n) :=
  inferInstanceAs (Decidable (∃ b ∈ s.bindings, b.isActive ∧ b.first ≤ n ∧ n ≤ b.last))

namespace Sound

variable {s t : Store} {range : PortRange}

theorem empty : Sound Store.empty where
  latestFirst := .nil
  counted := by simp [Store.empty]
  ordered := by simp [Store.empty]
  owned := by simp [Store.empty]
  covered := by simp [Store.empty]
  linked := by simp [Store.empty, PortTable.empty]
  once := by simp [Store.empty, PortTable.empty]
  apart := .nil
  portCounted := by simp [Store.empty, PortTable.empty]
  portIds := by simp [Store.empty, PortTable.empty]
  instanceIds := .nil

/-! ## What the flag of a port says -/

theorem eq_of_id_eq (sound : Sound s) {a b : BindingRow} (ma : a ∈ s.bindings)
    (mb : b ∈ s.bindings) (same : a.id = b.id) : a = b := by
  have distinct : s.bindings.Pairwise fun a b => a.id ≠ b.id :=
    sound.latestFirst.imp fun h => by omega
  have : Std.Symm fun a b : BindingRow => a.id ≠ b.id := ⟨fun _ _ h => h.symm⟩
  by_contra different
  exact distinct.forall ma mb different same

/-- A port is linked to the bindings whose spans have its number. -/
theorem mem_holders (sound : Sound s) {r : PortRow} {b : BindingRow} (mr : r ∈ s.ports.rows)
    (mb : b ∈ s.bindings) : b.id ∈ r.holders ↔ b.first ≤ r.number ∧ r.number ≤ b.last := by
  rw [sound.linked r mr]
  constructor
  · rintro ⟨c, mc, same, within⟩
    rwa [← sound.eq_of_id_eq mc mb same]
  · exact fun within => ⟨b, mb, rfl, within⟩

theorem isReserved_iff (sound : Sound s) {r : PortRow} (member : r ∈ s.ports.rows) :
    s.isReserved r = true ↔ s.Occupied r.number := by
  simp only [isReserved, isActive, List.any_eq_true, Bool.and_eq_true, beq_iff_eq, Occupied]
  constructor
  · rintro ⟨h, held, b, mb, rfl, active⟩
    exact ⟨b, mb, active, (sound.mem_holders member mb).mp held⟩
  · rintro ⟨b, mb, active, within⟩
    exact ⟨b.id, (sound.mem_holders member mb).mpr within, b, mb, rfl, active⟩

theorem isReserved_eq_false (sound : Sound s) {r : PortRow} (member : r ∈ s.ports.rows) :
    s.isReserved r = false ↔ ¬s.Occupied r.number := by
  rw [← sound.isReserved_iff member, Bool.not_eq_true]

theorem knows_of_occupied (sound : Sound s) {n : Int} (occupied : s.Occupied n) : s.Knows n := by
  obtain ⟨b, member, -, low, high⟩ := occupied
  exact sound.covered b member n low high

/-- What is offered is what is known, in the range and in no active span. -/
theorem offers_iff (sound : Sound s) {n : Int} :
    s.Offers range n ↔ range.has n ∧ s.Knows n ∧ ¬s.Occupied n := by
  constructor
  · rintro ⟨inRange, r, member, rfl, free⟩
    exact ⟨inRange, ⟨r, member, rfl⟩, (sound.isReserved_eq_false member).mp free⟩
  · rintro ⟨inRange, ⟨r, member, rfl⟩, free⟩
    exact ⟨inRange, r, member, rfl, (sound.isReserved_eq_false member).mpr free⟩

/-- No link leads to a binding that is still to come. -/
theorem nextBinding_notMem (sound : Sound s) {r : PortRow} (member : r ∈ s.ports.rows) :
    s.nextBinding ∉ r.holders := by
  intro held
  obtain ⟨b, mb, same, -⟩ := (sound.linked r member _).mp held
  have := sound.counted b mb
  omega

/-! ## Moves keep it -/

theorem join (sound : Sound s) {row : InstanceRow} (fresh : ∀ r ∈ s.instances, r.id ≠ row.id) :
    Sound (s.joined row) where
  latestFirst := sound.latestFirst
  counted := sound.counted
  ordered := sound.ordered
  owned b member := by
    obtain ⟨r, mr, same⟩ := sound.owned b member
    exact ⟨r, List.mem_append_left _ mr, same⟩
  covered := sound.covered
  linked := sound.linked
  once := sound.once
  apart := sound.apart
  portCounted := sound.portCounted
  portIds := sound.portIds
  instanceIds := by
    simp only [joined, List.pairwise_append, List.mem_singleton, forall_eq]
    exact ⟨sound.instanceIds, List.pairwise_singleton .., fresh⟩

theorem record (sound : Sound s) (number : Int) (count : Nat) :
    Sound (s.fillPorts number count) where
  latestFirst := sound.latestFirst
  counted := sound.counted
  ordered := sound.ordered
  owned := sound.owned
  covered b member n low high := knows_fillPorts.mpr (.inl (sound.covered b member n low high))
  linked r member h := by
    rcases PortTable.mem_fill.mp member with old | ⟨low, high, free, -, absent⟩
    · exact sound.linked r old h
    · rw [free]
      -- a number that has no row yet is covered by no binding
      refine ⟨fun held => (by cases held), fun ⟨b, mb, _, low, high⟩ => ?_⟩
      obtain ⟨q, mq, same⟩ := sound.covered b mb r.number low high
      exact absurd same (absent q mq)
  once r member := by
    rcases PortTable.mem_fill.mp member with old | ⟨-, -, free, -⟩
    · exact sound.once r old
    · rw [free]
      exact List.nodup_nil
  apart := sound.apart
  portCounted _ member := PortTable.id_lt_of_mem_fill sound.portCounted member
  portIds _ mr _ mq := PortTable.eq_of_mem_fill sound.portCounted sound.portIds mr mq
  instanceIds := sound.instanceIds

/-- The rows of a bound span are those before, with one more holder within it. -/
theorem mem_bound {owner : String} {first last : Int} {reservedAt : String} {r : PortRow} :
    r ∈ (s.bound owner first last reservedAt).ports.rows ↔
      ∃ q ∈ s.ports.rows, { q with
        holders := if first ≤ q.number && q.number ≤ last then s.nextBinding :: q.holders
          else q.holders } = r :=
  PortTable.mem_mapHolders

theorem knows_bound {owner : String} {first last : Int} {reservedAt : String} {n : Int} :
    (s.bound owner first last reservedAt).Knows n ↔ s.Knows n := by
  simp only [Knows, mem_bound]
  constructor
  · rintro ⟨_, ⟨q, mq, rfl⟩, same⟩
    exact ⟨q, mq, same⟩
  · rintro ⟨q, mq, same⟩
    exact ⟨_, ⟨q, mq, rfl⟩, same⟩

theorem bind (sound : Sound s) {owner : String} {first last : Int} {reservedAt : String}
    (ordered : first ≤ last) (registered : s.Registered owner)
    (known : ∀ n, first ≤ n → n ≤ last → s.Knows n)
    (free : ∀ n, first ≤ n → n ≤ last → ¬s.Occupied n) :
    Sound (s.bound owner first last reservedAt) where
  latestFirst := List.pairwise_cons.mpr ⟨sound.counted, sound.latestFirst⟩
  counted b member := by
    show b.id < s.nextBinding + 1
    rcases List.mem_cons.mp member with rfl | old
    · exact Nat.lt_succ_self _
    · exact Nat.lt_succ_of_lt (sound.counted b old)
  ordered b member := by
    rcases List.mem_cons.mp member with rfl | old
    · exact ordered
    · exact sound.ordered b old
  owned b member := by
    rcases List.mem_cons.mp member with rfl | old
    · exact registered
    · exact sound.owned b old
  covered b member n low high := by
    rw [knows_bound]
    rcases List.mem_cons.mp member with rfl | old
    · exact known n low high
    · exact sound.covered b old n low high
  linked r member h := by
    obtain ⟨q, mq, rfl⟩ := mem_bound.mp member
    have before := sound.linked q mq h
    have past := sound.nextBinding_notMem mq
    simp only [bound, withLinks, withBinding, List.mem_cons, exists_eq_or_imp, Bool.and_eq_true,
      decide_eq_true_eq]
    split <;> rename_i within
    · rw [List.mem_cons, before, eq_comm]
      simp [within]
    · rw [before]
      simp [within]
  once r member := by
    obtain ⟨q, mq, rfl⟩ := mem_bound.mp member
    simp only
    split
    · exact List.nodup_cons.mpr ⟨sound.nextBinding_notMem mq, sound.once q mq⟩
    · exact sound.once q mq
  apart := by
    refine List.pairwise_cons.mpr ⟨fun b member _ active => ?_, sound.apart⟩
    -- a number in both spans would be occupied, and the new span is free
    by_contra meet
    have := sound.ordered b member
    simp only [not_or, Int.not_lt] at meet
    exact free (max first b.first) (by omega) (by omega)
      ⟨b, member, active, by omega, by omega⟩
  portCounted r member := by
    obtain ⟨q, mq, rfl⟩ := mem_bound.mp member
    exact sound.portCounted q mq
  portIds r mr q mq same := by
    obtain ⟨r', mr', rfl⟩ := mem_bound.mp mr
    obtain ⟨q', mq', rfl⟩ := mem_bound.mp mq
    rw [sound.portIds r' mr' q' mq' same]
  instanceIds := sound.instanceIds

theorem release (sound : Sound s) (id : Nat) (releasedAt : String) :
    Sound (s.released id releasedAt) where
  latestFirst := by
    simp only [released, List.pairwise_map, BindingRow.marked_id]
    exact sound.latestFirst
  counted := by
    simp only [released, List.forall_mem_map, BindingRow.marked_id]
    exact sound.counted
  ordered := by
    simp only [released, List.forall_mem_map, BindingRow.marked_first, BindingRow.marked_last]
    exact sound.ordered
  owned := by
    simp only [released, List.forall_mem_map, BindingRow.marked_owner]
    exact sound.owned
  covered := by
    simp only [released, List.forall_mem_map, BindingRow.marked_first, BindingRow.marked_last]
    exact sound.covered
  linked r member h := by
    rw [sound.linked r member h]
    simp [released]
  once := sound.once
  apart := by
    simp only [released, List.pairwise_map, BindingRow.marked_first, BindingRow.marked_last]
    refine sound.apart.imp fun apart first second => ?_
    exact apart ((BindingRow.isActive_marked ..).mp first).1
      ((BindingRow.isActive_marked ..).mp second).1
  portCounted := sound.portCounted
  portIds := sound.portIds
  instanceIds := sound.instanceIds

/-- **Every move keeps a store sound.** -/
theorem move (sound : Sound s) {joins : NewInstance → Prop} {now : Time.Instant}
    (moved : Move joins range now s t) : Sound t := by
  cases moved with
  | join asked fresh => exact sound.join fun r member same => fresh ⟨r, member, same⟩
  | record inRange => exact sound.record _ _
  | bind ordered registered known free =>
    apply sound.bind ordered registered known
    intro n low high
    obtain ⟨r, member, rfl⟩ := known n low high
    exact (sound.isReserved_eq_false member).mp (free r member low high).1
  | release present active => exact sound.release _ _

theorem moves (sound : Sound s) {joins : NewInstance → Prop} {now : Time.Instant}
    (moved : Moves joins range now s t) : Sound t := by
  induction moved with
  | refl => exact sound
  | tail _ last before => exact before.move last

theorem after (sound : Sound s) (steps : List Step) : Sound (s.after steps) :=
  after_induction steps sound fun _ _ _ _ moved sound => sound.move moved

end Sound

theorem sound_after (steps : List Step) : Sound (Store.empty.after steps) :=
  Sound.empty.after steps

/-! ## What a reader of the store finds -/

/-- The numbers from `first` to `last`, both included. -/
def numbersFrom (first last : Int) : List Int :=
  (List.range (last + 1 - first).toNat).map fun (i : Nat) => first + i

theorem mem_numbersFrom {first last n : Int} :
    n ∈ numbersFrom first last ↔ first ≤ n ∧ n ≤ last := by
  simp only [numbersFrom, List.mem_map, List.mem_range]
  constructor
  · rintro ⟨i, below, rfl⟩
    omega
  · rintro ⟨low, high⟩
    exact ⟨(n - first).toNat, by omega, by omega⟩

theorem numbersFrom_ascending (first last : Int) :
    (numbersFrom first last).Pairwise (· < ·) :=
  List.pairwise_map.mpr (List.pairwise_lt_range.imp fun h => by omega)

/-- The numbers of the ports linked to a binding, one for each link, in the order
of the ports. -/
def Store.linkedNumbers (s : Store) (binding : Nat) : List Int :=
  s.ports.rows.flatMap fun r => List.replicate (r.holders.count binding) r.number

namespace Sound

variable {s : Store}

theorem linkedNumbers_eq_map (sound : Sound s) (binding : Nat) :
    s.linkedNumbers binding =
      (s.ports.rows.filter fun r => binding ∈ r.holders).map (·.number) := by
  unfold linkedNumbers
  have once := sound.once
  generalize s.ports.rows = rows at once ⊢
  induction rows with
  | nil => rfl
  | cons r rows ih =>
    rw [List.flatMap_cons, ih fun q mq => once q (List.mem_cons_of_mem _ mq)]
    rw [(once r List.mem_cons_self).count]
    by_cases held : binding ∈ r.holders
    · simp [held]
    · simp [held]

theorem linkedNumbers_eq (sound : Sound s) {b : BindingRow} (member : b ∈ s.bindings) :
    s.linkedNumbers b.id = numbersFrom b.first b.last := by
  rw [sound.linkedNumbers_eq_map]
  refine eq_of_ascending id ?_ (numbersFrom_ascending ..) fun n => ?_
  · exact List.pairwise_map.mpr (s.ports.ascending.filter _)
  rw [mem_numbersFrom, List.mem_map]
  constructor
  · rintro ⟨r, held, rfl⟩
    obtain ⟨mr, held⟩ := List.mem_filter.mp held
    obtain ⟨c, mc, same, low, high⟩ := (sound.linked r mr b.id).mp (of_decide_eq_true held)
    obtain rfl := sound.eq_of_id_eq mc member same
    exact ⟨low, high⟩
  · rintro ⟨low, high⟩
    obtain ⟨r, mr, rfl⟩ := sound.covered b member n low high
    have held := (sound.linked r mr b.id).mpr ⟨b, member, rfl, low, high⟩
    exact ⟨r, List.mem_filter.mpr ⟨mr, decide_eq_true held⟩, rfl⟩

end Sound

/-- What the rows of the store say together, after a run under these ranges. -/
structure Consistent (s : Store) (ranges : List PortRange) : Prop where
  /-- A binding, released or not, is linked to one port for each number of its span. -/
  spans : ∀ b ∈ s.bindings,
    b.first ≤ b.last ∧ s.linkedNumbers b.id = numbersFrom b.first b.last
  /-- No number is in the spans of two active bindings. -/
  disjoint : s.bindings.Pairwise fun a b => a.id ≠ b.id ∧ (a.isActive → b.isActive →
    ∀ n, ¬((a.first ≤ n ∧ n ≤ a.last) ∧ b.first ≤ n ∧ n ≤ b.last))
  /-- A port is shown as reserved if an active binding has its number. -/
  reserved : ∀ r ∈ s.ports.rows, s.isReserved r = true ↔ s.Occupied r.number
  /-- A binding belongs to an instance that joined. -/
  owned : ∀ b ∈ s.bindings, s.Registered b.owner
  /-- No number has two ports. -/
  numbered : s.ports.rows.Pairwise fun r q => r.id ≠ q.id ∧ r.number ≠ q.number
  /-- A port was in the range of some step when it was recorded. -/
  ranged : ∀ r ∈ s.ports.rows, ∃ range ∈ ranges, range.has r.number

theorem Sound.numbered {s : Store} (sound : Sound s) :
    s.ports.rows.Pairwise fun r q => r.id ≠ q.id ∧ r.number ≠ q.number := by
  refine s.ports.ascending.imp_of_mem fun mr mq below => ⟨fun same => ?_, by omega⟩
  rw [sound.portIds _ mr _ mq same] at below
  omega

theorem ranged_after (steps : List Step) :
    ∀ r ∈ (Store.empty.after steps).ports.rows,
      ∃ range ∈ steps.map (·.settings.range), range.has r.number := by
  refine after_induction (P := fun s => ∀ r ∈ s.ports.rows,
    ∃ range ∈ steps.map (·.settings.range), range.has r.number) steps ?_ ?_
  · intro r member
    cases member
  intro step member t u moved ranged r mr
  cases moved with
  | join => exact ranged r mr
  | release => exact ranged r mr
  | record inRange =>
    rcases PortTable.mem_fill.mp mr with old | ⟨low, high, -⟩
    · exact ranged r old
    · exact ⟨_, List.mem_map_of_mem member, inRange _ low high⟩
  | bind =>
    obtain ⟨q, mq, rfl⟩ := Sound.mem_bound.mp mr
    exact ranged q mq

/-- **No double booking.**  Whatever is asked of an empty store, in any order and
under any settings, its rows are consistent afterwards. -/
theorem after_consistent (steps : List Step) :
    Consistent (Store.empty.after steps) (steps.map (·.settings.range)) := by
  have sound := sound_after steps
  exact {
    spans := fun b member => ⟨sound.ordered b member, sound.linkedNumbers_eq member⟩
    disjoint := by
      refine (sound.latestFirst.and sound.apart).imp fun ⟨later, apart⟩ => ⟨by omega, ?_⟩
      intro first second n both
      rcases apart first second with below | below <;> omega
    reserved := fun r member => sound.isReserved_iff member
    owned := sound.owned
    numbered := sound.numbered
    ranged := ranged_after steps }

end PortPool
