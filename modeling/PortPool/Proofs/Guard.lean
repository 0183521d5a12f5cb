/-
# PortPool.Proofs.Guard -- what holds whoever writes

Rows are not only written by the service.  Whoever writes them directly (`Write`) may
link a port that lies outside the span of its binding, release a binding with any text,
or store a number that is no port, and of what the service keeps (`Sound`) little is
left.  What is left is what the rules of the store guard by themselves (`Guarded`),
and that nothing is ever lost (`Store.Extends`).

No rule looks at all of it.  A link is refused while its port belongs to an active
binding, whatever binding it leads to; a release is refused once there is one, even if
it would be taken back.  That a port never belongs to two active bindings needs both:
the first rule lets a port be linked to any number of released bindings, and none of
them becomes active again only because of the second.

Requests and direct writes come down to the same five changes of rows (`RowChange`).
Each of them keeps what is guarded, so it holds after every sequence of both
(`upon_guarded`).
-/
import PortPool.Proofs.Move

namespace PortPool

set_option autoImplicit false

open Relation (ReflTransGen)

open Store

/-! ## What is guarded -/

/-- What the rules of the store guard. -/
structure Guarded (s : Store) : Prop where
  /-- A port is linked to one active binding at most. -/
  single : ∀ r ∈ s.ports.rows, ∀ a ∈ s.bindings, ∀ b ∈ s.bindings,
    a.isActive → b.isActive → a.id ∈ r.holders → b.id ∈ r.holders → a = b
  /-- A port is linked to a binding once at most. -/
  once : ∀ r ∈ s.ports.rows, r.holders.Nodup
  /-- A link leads to a binding. -/
  linked : ∀ r ∈ s.ports.rows, ∀ h ∈ r.holders, ∃ b ∈ s.bindings, b.id = h
  /-- A binding belongs to an instance that joined. -/
  owned : ∀ b ∈ s.bindings, s.Registered b.owner
  /-- A binding ends where it starts or later. -/
  ordered : ∀ b ∈ s.bindings, b.first ≤ b.last
  /-- No number has two ports. -/
  numbers : s.ports.rows.Pairwise fun r q => r.number ≠ q.number
  /-- No id that is given has two instances. -/
  instanceIds : s.instances.Pairwise fun a b => a.id.isSome → a.id ≠ b.id
  /-- Nor has any id two ports or two bindings, and none was given that is still to come. -/
  portIds : ∀ r ∈ s.ports.rows, ∀ q ∈ s.ports.rows, r.id = q.id → r = q
  bindingIds : ∀ a ∈ s.bindings, ∀ b ∈ s.bindings, a.id = b.id → a = b
  portCounted : ∀ r ∈ s.ports.rows, r.id < s.nextPort
  bindingCounted : ∀ b ∈ s.bindings, b.id < s.nextBinding

/-- The row is the one there was, or that one released. -/
def BindingRow.Follows (before after : BindingRow) : Prop :=
  after = before ∨
    before.releasedAt = none ∧ ∃ text, after = { before with releasedAt := some text }

/-- Every row of the first store is in the second, with its links; only a binding that was
not released may have been released since. -/
structure Store.Extends (s t : Store) : Prop where
  instances : s.instances <+: t.instances
  ports : ∀ r ∈ s.ports.rows, ∃ q ∈ t.ports.rows,
    q.id = r.id ∧ q.number = r.number ∧ r.holders <:+ q.holders
  bindings : ∀ b ∈ s.bindings, ∃ c ∈ t.bindings, b.Follows c

namespace BindingRow

variable {a b c : BindingRow}

theorem Follows.refl (b : BindingRow) : b.Follows b := .inl rfl

/-- A release is kept for good. -/
theorem Follows.trans (first : a.Follows b) (second : b.Follows c) : a.Follows c := by
  rcases first with rfl | ⟨active, text, rfl⟩
  · exact second
  · rcases second with rfl | ⟨other, -⟩
    · exact .inr ⟨active, text, rfl⟩
    · cases other

end BindingRow

namespace Store.Extends

variable {s t u : Store}

theorem refl (s : Store) : s.Extends s where
  instances := List.prefix_rfl
  ports r member := ⟨r, member, rfl, rfl, List.suffix_rfl⟩
  bindings b member := ⟨b, member, .refl b⟩

theorem trans (first : s.Extends t) (second : t.Extends u) : s.Extends u where
  instances := first.instances.trans second.instances
  ports r member := by
    obtain ⟨q, mq, sameId, sameNumber, links⟩ := first.ports r member
    obtain ⟨p, mp, sameId', sameNumber', links'⟩ := second.ports q mq
    exact ⟨p, mp, sameId'.trans sameId, sameNumber'.trans sameNumber, links.trans links'⟩
  bindings b member := by
    obtain ⟨c, mc, follows⟩ := first.bindings b member
    obtain ⟨d, md, follows'⟩ := second.bindings c mc
    exact ⟨d, md, follows.trans follows'⟩

end Store.Extends

/-! ## The five changes of rows -/

/-- The store with a binding put in front of the holders of some ports. -/
def Store.holding (s : Store) (binding : Nat) (chosen : PortRow → Bool) : Store :=
  { s with
    ports := s.ports.mapHolders fun r => if chosen r then binding :: r.holders else r.holders }

/-- A change of rows that the rules of the store let pass. -/
inductive RowChange : Store → Store → Prop where
  | join {s : Store} {row : InstanceRow}
      (fresh : row.id.isSome → ∀ r ∈ s.instances, r.id ≠ row.id) : RowChange s (s.joined row)
  | record {s : Store} (number : Int) (count : Nat) : RowChange s (s.fillPorts number count)
  | bind {s : Store} {owner : String} {first last : Int} {reservedAt : String}
      {releasedAt : Option String} (ordered : first ≤ last) (registered : s.Registered owner) :
      RowChange s (s.withBinding owner first last reservedAt releasedAt)
  | link {s : Store} {b : BindingRow} {chosen : PortRow → Bool} (present : b ∈ s.bindings)
      (free : ∀ r ∈ s.ports.rows, chosen r → s.isReserved r = false ∧ b.id ∉ r.holders) :
      RowChange s (s.holding b.id chosen)
  | release {s : Store} {b : BindingRow} {releasedAt : String} (present : b ∈ s.bindings)
      (active : b.isActive) : RowChange s (s.released b.id releasedAt)

/-- Changes made one after the other. -/
abbrev RowChanges : Store → Store → Prop := ReflTransGen RowChange

namespace Guarded

variable {s t : Store}

theorem empty : Guarded Store.empty where
  single := by simp [Store.empty]
  once := by simp [Store.empty, PortTable.empty]
  linked := by simp [Store.empty, PortTable.empty]
  owned := by simp [Store.empty]
  ordered := by simp [Store.empty]
  numbers := .nil
  instanceIds := .nil
  portIds := by simp [Store.empty, PortTable.empty]
  bindingIds := by simp [Store.empty]
  portCounted := by simp [Store.empty, PortTable.empty]
  bindingCounted := by simp [Store.empty]

theorem apart (s : Store) : s.ports.rows.Pairwise fun r q => r.number ≠ q.number :=
  s.ports.ascending.imp fun below => by omega

/-- A port that is linked to an active binding counts as reserved. -/
theorem isReserved_of_active {r : PortRow} {a : BindingRow} (present : a ∈ s.bindings)
    (active : a.isActive) (held : a.id ∈ r.holders) : s.isReserved r = true := by
  simp only [isReserved, isActive, List.any_eq_true, Bool.and_eq_true, beq_iff_eq]
  exact ⟨a.id, held, a, present, rfl, active⟩

/-- No link leads to a binding that is still to come. -/
theorem nextBinding_notMem (guarded : Guarded s) {r : PortRow} (member : r ∈ s.ports.rows) :
    s.nextBinding ∉ r.holders := by
  intro held
  obtain ⟨b, mb, same⟩ := guarded.linked r member _ held
  have := guarded.bindingCounted b mb
  omega

/-! ## Each change keeps it -/

theorem join (guarded : Guarded s) {row : InstanceRow}
    (fresh : row.id.isSome → ∀ r ∈ s.instances, r.id ≠ row.id) : Guarded (s.joined row) where
  single := guarded.single
  once := guarded.once
  linked := guarded.linked
  owned b member := by
    obtain ⟨r, mr, same⟩ := guarded.owned b member
    exact ⟨r, List.mem_append_left _ mr, same⟩
  ordered := guarded.ordered
  numbers := guarded.numbers
  instanceIds := by
    simp only [joined, List.pairwise_append, List.mem_singleton, forall_eq]
    refine ⟨guarded.instanceIds, List.pairwise_singleton .., ?_⟩
    intro r mr given same
    exact fresh (same ▸ given) r mr same
  portIds := guarded.portIds
  bindingIds := guarded.bindingIds
  portCounted := guarded.portCounted
  bindingCounted := guarded.bindingCounted

theorem record (guarded : Guarded s) (number : Int) (count : Nat) :
    Guarded (s.fillPorts number count) where
  single r member a ma b mb activeA activeB heldA heldB := by
    rcases PortTable.mem_fill.mp member with old | ⟨-, -, unlinked, -⟩
    · exact guarded.single r old a ma b mb activeA activeB heldA heldB
    · rw [unlinked] at heldA
      cases heldA
  once r member := by
    rcases PortTable.mem_fill.mp member with old | ⟨-, -, unlinked, -⟩
    · exact guarded.once r old
    · rw [unlinked]
      exact List.nodup_nil
  linked r member h held := by
    rcases PortTable.mem_fill.mp member with old | ⟨-, -, unlinked, -⟩
    · exact guarded.linked r old h held
    · rw [unlinked] at held
      cases held
  owned := guarded.owned
  ordered := guarded.ordered
  numbers := apart _
  instanceIds := guarded.instanceIds
  portIds _ mr _ mq := PortTable.eq_of_mem_fill guarded.portCounted guarded.portIds mr mq
  bindingIds := guarded.bindingIds
  portCounted _ member := PortTable.id_lt_of_mem_fill guarded.portCounted member
  bindingCounted := guarded.bindingCounted

theorem bind (guarded : Guarded s) {owner : String} {first last : Int} {reservedAt : String}
    {releasedAt : Option String} (ordered : first ≤ last) (registered : s.Registered owner) :
    Guarded (s.withBinding owner first last reservedAt releasedAt) where
  single r member a ma b mb activeA activeB heldA heldB := by
    -- the new binding has no links yet
    rcases List.mem_cons.mp ma with rfl | ma
    · exact absurd heldA (guarded.nextBinding_notMem member)
    · rcases List.mem_cons.mp mb with rfl | mb
      · exact absurd heldB (guarded.nextBinding_notMem member)
      · exact guarded.single r member a ma b mb activeA activeB heldA heldB
  once := guarded.once
  linked r member h held := by
    obtain ⟨b, mb, same⟩ := guarded.linked r member h held
    exact ⟨b, List.mem_cons_of_mem _ mb, same⟩
  owned b member := by
    rcases List.mem_cons.mp member with rfl | old
    · exact registered
    · exact guarded.owned b old
  ordered b member := by
    rcases List.mem_cons.mp member with rfl | old
    · exact ordered
    · exact guarded.ordered b old
  numbers := guarded.numbers
  instanceIds := guarded.instanceIds
  portIds := guarded.portIds
  bindingIds a ma b mb same := by
    rcases List.mem_cons.mp ma with rfl | oldA <;> rcases List.mem_cons.mp mb with rfl | oldB
    · rfl
    · exact absurd same (Nat.ne_of_gt (guarded.bindingCounted b oldB))
    · exact absurd same (Nat.ne_of_lt (guarded.bindingCounted a oldA))
    · exact guarded.bindingIds a oldA b oldB same
  portCounted := guarded.portCounted
  bindingCounted b member := by
    show b.id < s.nextBinding + 1
    rcases List.mem_cons.mp member with rfl | old
    · exact Nat.lt_succ_self _
    · exact Nat.lt_succ_of_lt (guarded.bindingCounted b old)

/-- Ports that belong to no active binding may be linked to any. -/
theorem link (guarded : Guarded s) {c : BindingRow} {chosen : PortRow → Bool}
    (present : c ∈ s.bindings)
    (free : ∀ r ∈ s.ports.rows, chosen r → s.isReserved r = false ∧ c.id ∉ r.holders) :
    Guarded (s.holding c.id chosen) where
  single r member a ma b mb activeA activeB heldA heldB := by
    obtain ⟨q, mq, rfl⟩ := PortTable.mem_mapHolders.mp member
    by_cases isChosen : chosen q
    · -- an active holder of a chosen port is new, since there was none
      have isNew {d : BindingRow} (md : d ∈ s.bindings) (active : d.isActive)
          (held : d.id ∈ c.id :: q.holders) : d = c := by
        rcases List.mem_cons.mp held with same | old
        · exact guarded.bindingIds d md c present same
        · have reserved := isReserved_of_active md active old
          rw [(free q mq isChosen).1] at reserved
          cases reserved
      simp only [isChosen, if_true] at heldA heldB
      rw [isNew ma activeA heldA, isNew mb activeB heldB]
    · simp only [isChosen] at heldA heldB
      exact guarded.single q mq a ma b mb activeA activeB heldA heldB
  once r member := by
    obtain ⟨q, mq, rfl⟩ := PortTable.mem_mapHolders.mp member
    by_cases isChosen : chosen q
    · simp only [isChosen, if_true]
      exact List.nodup_cons.mpr ⟨(free q mq isChosen).2, guarded.once q mq⟩
    · simp only [isChosen]
      exact guarded.once q mq
  linked r member h held := by
    obtain ⟨q, mq, rfl⟩ := PortTable.mem_mapHolders.mp member
    by_cases isChosen : chosen q
    · simp only [isChosen, if_true] at held
      rcases List.mem_cons.mp held with rfl | old
      · exact ⟨c, present, rfl⟩
      · exact guarded.linked q mq h old
    · simp only [isChosen] at held
      exact guarded.linked q mq h held
  owned := guarded.owned
  ordered := guarded.ordered
  numbers := apart _
  instanceIds := guarded.instanceIds
  portIds r mr q mq same := by
    obtain ⟨r', mr', rfl⟩ := PortTable.mem_mapHolders.mp mr
    obtain ⟨q', mq', rfl⟩ := PortTable.mem_mapHolders.mp mq
    rw [guarded.portIds r' mr' q' mq' same]
  bindingIds := guarded.bindingIds
  portCounted r member := by
    obtain ⟨q, mq, rfl⟩ := PortTable.mem_mapHolders.mp member
    exact guarded.portCounted q mq
  bindingCounted := guarded.bindingCounted

theorem release (guarded : Guarded s) (id : Nat) (releasedAt : String) :
    Guarded (s.released id releasedAt) where
  single r member a ma b mb activeA activeB heldA heldB := by
    obtain ⟨a', ma', rfl⟩ := List.mem_map.mp ma
    obtain ⟨b', mb', rfl⟩ := List.mem_map.mp mb
    rw [BindingRow.marked_id] at heldA heldB
    -- what is active now was active before
    have wasA := ((BindingRow.isActive_marked ..).mp activeA).1
    have wasB := ((BindingRow.isActive_marked ..).mp activeB).1
    rw [guarded.single r member a' ma' b' mb' wasA wasB heldA heldB]
  once := guarded.once
  linked r member h held := by
    obtain ⟨b, mb, same⟩ := guarded.linked r member h held
    exact ⟨_, List.mem_map_of_mem mb, by rw [BindingRow.marked_id, same]⟩
  owned := by
    simp only [released, List.forall_mem_map, BindingRow.marked_owner]
    exact guarded.owned
  ordered := by
    simp only [released, List.forall_mem_map, BindingRow.marked_first, BindingRow.marked_last]
    exact guarded.ordered
  numbers := guarded.numbers
  instanceIds := guarded.instanceIds
  portIds := guarded.portIds
  bindingIds a ma b mb same := by
    obtain ⟨a', ma', rfl⟩ := List.mem_map.mp ma
    obtain ⟨b', mb', rfl⟩ := List.mem_map.mp mb
    rw [BindingRow.marked_id, BindingRow.marked_id] at same
    rw [guarded.bindingIds a' ma' b' mb' same]
  portCounted := guarded.portCounted
  bindingCounted := by
    simp only [released, List.forall_mem_map, BindingRow.marked_id]
    exact guarded.bindingCounted

end Guarded

/-! ## Each change loses nothing -/

namespace Store

variable {s : Store}

theorem extends_joined (row : InstanceRow) : s.Extends (s.joined row) :=
  { Extends.refl s with instances := List.prefix_append .. }

theorem extends_fillPorts (number : Int) (count : Nat) :
    s.Extends (s.fillPorts number count) := by
  refine { Extends.refl s with ports := ?_ }
  intro r member
  exact ⟨r, PortTable.mem_fill.mpr (.inl member), rfl, rfl, List.suffix_rfl⟩

theorem extends_withBinding (owner : String) (first last : Int) (reservedAt : String)
    (releasedAt : Option String) :
    s.Extends (s.withBinding owner first last reservedAt releasedAt) := by
  refine { Extends.refl s with bindings := ?_ }
  intro b member
  exact ⟨b, List.mem_cons_of_mem _ member, .refl b⟩

theorem extends_holding (binding : Nat) (chosen : PortRow → Bool) :
    s.Extends (s.holding binding chosen) := by
  refine { Extends.refl s with ports := ?_ }
  intro r member
  refine ⟨_, PortTable.mem_mapHolders.mpr ⟨r, member, rfl⟩, rfl, rfl, ?_⟩
  simp only
  split
  · exact List.suffix_cons ..
  · exact List.suffix_rfl

/-- The binding that is released was not released before. -/
theorem extends_released (guarded : Guarded s) {b : BindingRow} (present : b ∈ s.bindings)
    (active : b.isActive) (releasedAt : String) : s.Extends (s.released b.id releasedAt) := by
  refine { Extends.refl s with bindings := ?_ }
  intro c member
  refine ⟨_, List.mem_map_of_mem member, ?_⟩
  by_cases same : c.id = b.id
  · obtain rfl := guarded.bindingIds c member b present same
    refine .inr ⟨by simpa [BindingRow.isActive] using active, releasedAt, ?_⟩
    rw [BindingRow.marked, if_pos rfl]
  · rw [BindingRow.marked, if_neg same]
    exact .refl c

end Store

namespace Guarded

variable {s t : Store}

/-- **Every change keeps what is guarded, and loses nothing.** -/
theorem change (guarded : Guarded s) (changed : RowChange s t) : Guarded t ∧ s.Extends t := by
  cases changed with
  | join fresh => exact ⟨guarded.join fresh, extends_joined _⟩
  | record number count => exact ⟨guarded.record number count, extends_fillPorts number count⟩
  | bind ordered registered =>
    exact ⟨guarded.bind ordered registered, extends_withBinding ..⟩
  | link present free => exact ⟨guarded.link present free, extends_holding ..⟩
  | release present active =>
    exact ⟨guarded.release _ _, extends_released guarded present active _⟩

theorem changes (guarded : Guarded s) (changed : RowChanges s t) : Guarded t ∧ s.Extends t := by
  induction changed with
  | refl => exact ⟨guarded, .refl s⟩
  | tail _ last before =>
    obtain ⟨still, so_far⟩ := before
    obtain ⟨kept, further⟩ := still.change last
    exact ⟨kept, so_far.trans further⟩

end Guarded

/-! ## Requests and direct writes -/

/-- A request makes the same changes of rows. -/
theorem Move.rowChanges {joins : NewInstance → Prop} {range : PortRange} {now : Time.Instant}
    {s t : Store} (moved : Move joins range now s t) : RowChanges s t := by
  cases moved with
  | join asked fresh => exact .single (.join fun _ r member same => fresh ⟨r, member, same⟩)
  | record inRange => exact .single (.record ..)
  | @bind owner first last ordered registered known free =>
    let row : BindingRow := ⟨s.nextBinding, owner, first, last, Time.Rfc3339.stored now, none⟩
    have added : RowChange s
        (s.withBinding owner first last (Time.Rfc3339.stored now) none) := .bind ordered registered
    have present : row ∈ (s.withBinding owner first last row.reservedAt none).bindings :=
      List.mem_cons_self
    refine .tail (.single added) (.link present ?_)
    intro r member within
    simp only [Bool.and_eq_true, decide_eq_true_eq] at within
    have unlinked := free r member within.1 within.2
    exact ⟨isReserved_withBinding.mpr unlinked, unlinked.2⟩
  | release present active => exact .single (.release present active)

theorem next_rowChanges (settings : Settings) (now : Time.Instant) (s : Store) (op : Operation) :
    RowChanges s (op.next settings now s) := by
  have moves := next_moves settings now s op
  generalize op.next settings now s = t at moves ⊢
  induction moves with
  | refl => exact .refl
  | tail _ moved before => exact before.trans moved.rowChanges

/-- A cell that must be filled and is. -/
theorem filled_eq_ok {α : Type} {cell : String} {content : Option α} {a : α} :
    filled cell content = .ok a ↔ content = some a := by
  cases content <;> simp [filled]

namespace Store

variable {s t : Store}

theorem addInstance_rowChange {id name description joinedAt : Option String}
    (added : s.addInstance id name description joinedAt = .ok t) : RowChange s t := by
  simp only [addInstance, bind_eq_ok] at added
  obtain ⟨name, -, description, -, joinedAt, -, added⟩ := added
  split at added
  · cases added
  · rename_i unused
    cases added
    refine .join fun given r member same => unused ?_
    simp only [Bool.and_eq_true, List.any_eq_true, beq_iff_eq]
    exact ⟨given, r, member, same⟩

theorem addPort_rowChange {number : Option Int} (added : s.addPort number = .ok t) :
    RowChange s t := by
  simp only [addPort, bind_eq_ok] at added
  obtain ⟨number, -, added⟩ := added
  split at added
  · cases added
  · cases added
    exact .record number 1

theorem addBinding_rowChange {owner : Option String} {first last : Option Int}
    {reservedAt releasedAt : Option String}
    (added : s.addBinding owner first last reservedAt releasedAt = .ok t) : RowChange s t := by
  simp only [addBinding, bind_eq_ok] at added
  obtain ⟨owner, -, first, -, last, -, reservedAt, -, added⟩ := added
  split at added
  · cases added
  · rename_i ordered
    split at added
    · rename_i joined
      cases added
      simp only [List.any_eq_true, beq_iff_eq] at joined
      exact .bind (Int.not_lt.mp ordered) joined
    · cases added

/-- The rule for links looks at one port; it is the only one of its id. -/
theorem link_rowChange (guarded : Guarded s) {binding port : Option Int}
    (linked : s.link binding port = .ok t) : RowChange s t := by
  simp only [link] at linked
  split at linked
  · cases linked
  · rename_i notHeld
    simp only [bind_eq_ok] at linked
    obtain ⟨binding, -, id, isId, linked⟩ := linked
    obtain rfl := filled_eq_ok.mp isId
    split at linked
    · cases linked
    · rename_i notLinked
      split at linked
      · rename_i b r isBinding isRow
        cases linked
        have present := List.mem_of_find?_eq_some isBinding
        have named : (b.id : Int) = binding := by simpa using List.find?_some isBinding
        apply RowChange.link present
        intro q member chosen
        -- the row with the id is the one that was looked at
        have same : q = r := by
          refine guarded.portIds q member r (List.mem_of_find?_eq_some isRow) ?_
          have : (r.id : Int) = id := by simpa using List.find?_some isRow
          have : (q.id : Int) = id := by simpa using chosen
          omega
        rw [isRow, ← same] at notHeld notLinked
        simp only [Option.any_some, List.any_eq_true, beq_iff_eq, not_exists, not_and] at notLinked
        exact ⟨by simpa using notHeld, fun held => notLinked b.id held named⟩
      · cases linked

/-- Releasing with no instant leaves a binding as it is, since it must be active. -/
theorem setReleased_rowChanges (guarded : Guarded s) {binding : Int}
    {releasedAt : Option String} {count : Nat}
    (released : s.setReleased binding releasedAt = .ok (count, t)) : RowChanges s t := by
  simp only [setReleased] at released
  split at released
  · cases released
    exact .refl
  · rename_i b found
    have present := List.mem_of_find?_eq_some found
    split at released
    · rename_i active
      cases released
      cases releasedAt with
      | some text => exact .single (.release present active)
      | none =>
        have unchanged : s.bindings.map (fun c : BindingRow =>
            if c.id = b.id then { c with releasedAt := none } else c) = s.bindings := by
          refine List.map_congr_left (fun c member => ?_) |>.trans (List.map_id _)
          split
          · rename_i same
            obtain rfl := guarded.bindingIds c member b present same
            rw [← Option.isNone_iff_eq_none.mp active]
            rfl
          · rfl
        simp only [unchanged]
        exact .refl
    · cases released

end Store

namespace Guarded

variable {s t : Store}

theorem write (guarded : Guarded s) {row : Write} {count : Nat}
    (written : row.apply s = .ok (count, t)) : RowChanges s t := by
  cases row with
  | addInstance id name description joinedAt =>
    obtain ⟨u, added, same⟩ := map_eq_ok.mp written
    cases same
    exact .single (addInstance_rowChange added)
  | addPort number =>
    obtain ⟨u, added, same⟩ := map_eq_ok.mp written
    cases same
    exact .single (addPort_rowChange added)
  | addBinding owner first last reservedAt releasedAt =>
    obtain ⟨u, added, same⟩ := map_eq_ok.mp written
    cases same
    exact .single (addBinding_rowChange added)
  | addLink binding port =>
    obtain ⟨u, linked, same⟩ := map_eq_ok.mp written
    cases same
    exact .single (link_rowChange guarded linked)
  | setReleased binding releasedAt => exact setReleased_rowChanges guarded written

end Guarded

/-! ## Everything that happens to a store -/

/-- What is done to the store: a request of the service, or a row that someone writes. -/
inductive Deed where
  | request (step : Step)
  | write (row : Write)

/-- The store afterwards; what is refused leaves it as it is. -/
def Deed.next (s : Store) : Deed → Store
  | .request step => step.request.next step.settings step.now s
  | .write row =>
    match row.apply s with
    | .ok (_, t) => t
    | .error _ => s

/-- The store after one deed after the other. -/
def Store.upon (s : Store) (deeds : List Deed) : Store := deeds.foldl Deed.next s

namespace Guarded

variable {s : Store}

/-- One deed. -/
theorem next (guarded : Guarded s) (deed : Deed) :
    Guarded (deed.next s) ∧ s.Extends (deed.next s) := by
  cases deed with
  | request step => exact guarded.changes (next_rowChanges ..)
  | write row =>
    simp only [Deed.next]
    split
    · rename_i written
      exact guarded.changes (guarded.write written)
    · exact ⟨guarded, .refl s⟩

/-- Any number of them. -/
theorem upon (guarded : Guarded s) (deeds : List Deed) :
    Guarded (s.upon deeds) ∧ s.Extends (s.upon deeds) := by
  induction deeds generalizing s with
  | nil => exact ⟨guarded, .refl s⟩
  | cons deed deeds ih =>
    obtain ⟨kept, further⟩ := guarded.next deed
    obtain ⟨still, beyond⟩ := ih kept
    exact ⟨still, further.trans beyond⟩

end Guarded

/-- **Whatever is requested and written, in any order, the store stays guarded; and what it
said at any moment it goes on saying.** -/
theorem upon_guarded (earlier later : List Deed) :
    Guarded (Store.empty.upon (earlier ++ later)) ∧
      (Store.empty.upon earlier).Extends (Store.empty.upon (earlier ++ later)) := by
  have before := (Guarded.empty.upon earlier).1
  rw [Store.upon, List.foldl_append]
  exact before.upon later

end PortPool
