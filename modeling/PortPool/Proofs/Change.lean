/-
# PortPool.Proofs.Change -- what was done by an operation that succeeded

Each operation that writes is taken apart here, once.  Of one that succeeded its lemma
says all there is: which of the four changes it made to the store (`joined`,
`fillPorts`, `bound`, `released`), what it had found before it made them, and what it
answered.

Reserving comes in three forms that are one: one port is a span of size one
(`reserveOne_eq_reserveSpan`), and a size that is admitted is that of a span
(`reserve_inversion`).  A span is bound in a store that knows its ports, because it
did already or because it just recorded them (`Prepared`).  Releasing comes in two
forms, which differ only in how they find the binding (`bindingOf?`, `spanning?`) and end
it in the same way (`Ended`).
-/
import Mathlib.Data.List.Perm.Subperm
import PortPool.Operation
import PortPool.Proofs.Except
import PortPool.Proofs.Table
import PortPool.Proofs.Window

namespace PortPool

set_option autoImplicit false

open Time.Rfc3339 (stored)

namespace Store

/-! ## What is known -/

/-- An instance joined under this id. -/
def Registered (s : Store) (id : String) : Prop := ∃ r ∈ s.instances, r.id = some id

/-- The number has a row among the ports. -/
def Knows (s : Store) (n : Int) : Prop := ∃ r ∈ s.ports.rows, r.number = n

/-- The number is that of a port of the range that belongs to no active binding. -/
def Offers (s : Store) (range : PortRange) (n : Int) : Prop :=
  range.has n ∧ ∃ r ∈ s.ports.rows, r.number = n ∧ s.isReserved r = false

instance (s : Store) (id : String) : Decidable (s.Registered id) :=
  inferInstanceAs (Decidable (∃ r ∈ s.instances, r.id = some id))

instance (s : Store) (n : Int) : Decidable (s.Knows n) :=
  inferInstanceAs (Decidable (∃ r ∈ s.ports.rows, r.number = n))

theorem mem_freePorts {s : Store} {range : PortRange} {r : PortRow} :
    r ∈ s.freePorts range ↔ r ∈ s.ports.rows ∧ range.has r.number ∧ s.isReserved r = false := by
  simp [freePorts]

theorem mem_freeNumbers {s : Store} {range : PortRange} {n : Int} :
    n ∈ (s.freePorts range).map (·.number) ↔ s.Offers range n := by
  simp only [List.mem_map, mem_freePorts, Offers]
  constructor
  · rintro ⟨r, ⟨member, inRange, free⟩, rfl⟩
    exact ⟨inRange, r, member, rfl, free⟩
  · rintro ⟨inRange, r, member, rfl, free⟩
    exact ⟨r, ⟨member, inRange, free⟩, rfl⟩

theorem freeNumbers_ascending (s : Store) (range : PortRange) :
    ((s.freePorts range).map (·.number)).Pairwise (· < ·) :=
  List.pairwise_map.mpr (s.ports.ascending.filter _)

theorem knows_fillPorts {s : Store} {number n : Int} {count : Nat} :
    (s.fillPorts number count).Knows n ↔ s.Knows n ∨ number ≤ n ∧ n < number + count := by
  simp only [Knows, fillPorts, PortTable.mem_fill]
  constructor
  · rintro ⟨r, member | ⟨low, high, -⟩, rfl⟩
    · exact .inl ⟨r, member, rfl⟩
    · exact .inr ⟨low, high⟩
  · rintro (⟨r, member, rfl⟩ | ⟨low, high⟩)
    · exact ⟨r, .inl member, rfl⟩
    · by_cases known : ∃ r ∈ s.ports.rows, r.number = n
      · obtain ⟨r, member, same⟩ := known
        exact ⟨r, .inl member, same⟩
      · refine ⟨⟨(s.nextPort + (n - number)).toNat, n, []⟩, .inr ⟨low, high, rfl, ?_, ?_⟩, rfl⟩
        · simp only
          omega
        · exact fun q mq same => known ⟨q, mq, same⟩

/-- No row is lost. -/
theorem length_le_fillPorts (s : Store) (number : Int) (count : Nat) :
    s.ports.rows.length ≤ (s.fillPorts number count).ports.rows.length := by
  have nodup : s.ports.rows.Nodup := s.ports.ascending.imp fun below same => by
    rw [same] at below
    omega
  exact (List.subperm_of_subset nodup fun r member =>
    PortTable.mem_fill.mpr (.inl member)).length_le

/-! ## The four changes -/

/-- The store with one more instance. -/
def joined (s : Store) (row : InstanceRow) : Store :=
  { s with instances := s.instances ++ [row] }

/-- The store with one more binding, linked to no port yet. -/
def withBinding (s : Store) (owner : String) (first last : Int) (reservedAt : String)
    (releasedAt : Option String) : Store :=
  { s with
    bindings := ⟨s.nextBinding, owner, first, last, reservedAt, releasedAt⟩ :: s.bindings
    nextBinding := s.nextBinding + 1 }

/-- The store with all ports of a span linked to a binding. -/
def withLinks (s : Store) (binding : Nat) (first last : Int) : Store :=
  { s with
    ports := s.ports.mapHolders fun r =>
      if first ≤ r.number && r.number ≤ last then binding :: r.holders else r.holders }

/-- The store with one more binding, linked to the ports of its span. -/
def bound (s : Store) (owner : String) (first last : Int) (reservedAt : String) : Store :=
  (s.withBinding owner first last reservedAt none).withLinks s.nextBinding first last

end Store

namespace BindingRow

/-- The binding, marked as released if it has this id. -/
def marked (c : BindingRow) (id : Nat) (releasedAt : String) : BindingRow :=
  if c.id = id then { c with releasedAt := some releasedAt } else c

variable (c : BindingRow) (id : Nat) (releasedAt : String)

@[simp]
theorem marked_id : (c.marked id releasedAt).id = c.id := by unfold marked; split <;> rfl

@[simp]
theorem marked_owner : (c.marked id releasedAt).owner = c.owner := by unfold marked; split <;> rfl

@[simp]
theorem marked_first : (c.marked id releasedAt).first = c.first := by unfold marked; split <;> rfl

@[simp]
theorem marked_last : (c.marked id releasedAt).last = c.last := by unfold marked; split <;> rfl

theorem isActive_marked :
    (c.marked id releasedAt).isActive = true ↔ c.isActive = true ∧ c.id ≠ id := by
  unfold marked
  split <;> rename_i same <;> simp [isActive, same]

end BindingRow

namespace Store

/-- The store with a binding marked as released. -/
def released (s : Store) (id : Nat) (releasedAt : String) : Store :=
  { s with bindings := s.bindings.map (·.marked id releasedAt) }

end Store

/-- The row of an instance that joins. -/
def NewInstance.row (new : NewInstance) (now : Time.Instant) : InstanceRow :=
  ⟨some new.id, new.name, (Json.Value.object new.description).toText, stored now⟩

/-! ## Bindings and their rows -/

theorem PortNumber.val_of_ofInt? {i : Int} {p : PortNumber} (port : PortNumber.ofInt? i = some p) :
    (p.val : Int) = i := by
  simp only [PortNumber.ofInt?] at port
  split at port
  · rename_i within
    cases port
    simp only
    omega
  · cases port

/-- A binding that was read says what its row says. -/
theorem BindingRow.of_read {r : BindingRow} {b : Binding} (read : r.read = .ok b) :
    b.id = r.id ∧ b.owner = r.owner ∧ (b.first.val : Int) = r.first ∧ (b.last.val : Int) = r.last ∧
      b.isActive = r.isActive := by
  cases ended : r.releasedAt with
  | none =>
    simp only [BindingRow.read, ended, bind_eq_ok, readable_eq_ok, pure_eq_ok, bind_ok] at read
    obtain ⟨first, isFirst, last, isLast, reservedAt, -, same⟩ := read
    cases same
    exact ⟨rfl, rfl, PortNumber.val_of_ofInt? isFirst, PortNumber.val_of_ofInt? isLast,
      by simp [Binding.isActive, BindingRow.isActive, ended]⟩
  | some text =>
    simp only [BindingRow.read, ended, bind_eq_ok, readable_eq_ok, pure_eq_ok, map_eq_ok] at read
    obtain ⟨first, isFirst, last, isLast, reservedAt, -, _, ⟨releasedAt, -, rfl⟩, same⟩ := read
    cases same
    exact ⟨rfl, rfl, PortNumber.val_of_ofInt? isFirst, PortNumber.val_of_ofInt? isLast,
      by simp [Binding.isActive, BindingRow.isActive, ended]⟩

/-- A row that cannot be read is a fault of the store. -/
theorem BindingRow.error_store_of_read {r : BindingRow} {fault : Fault}
    (failed : r.read = .error fault) : fault = .store := by
  cases ended : r.releasedAt with
  | none =>
    simp only [read, ended, bind_eq_error, readable_eq_error, pure_eq_ok, bind_ok, reduceCtorEq,
      and_false, exists_false, or_false] at failed
    rcases failed with ⟨-, same⟩ | ⟨_, -, ⟨-, same⟩ | ⟨_, -, -, same⟩⟩ <;> exact same
  | some text =>
    simp only [read, ended, bind_eq_error, readable_eq_error, map_eq_error, pure_eq_ok,
      reduceCtorEq, and_false, exists_false, or_false] at failed
    rcases failed with ⟨-, same⟩ | ⟨_, -, ⟨-, same⟩ | ⟨_, -, ⟨-, same⟩ | ⟨_, -, -, same⟩⟩⟩ <;>
      exact same

namespace BindingRow

/-- The binding may be released in this name: it is its owner's, or none is named. -/
def AnswersTo (b : BindingRow) (named : Option String) : Prop :=
  ∀ id, named = some id → b.owner = id

/-- The binding has exactly this span, and may be released in this name. -/
structure Spans (b : BindingRow) (named : Option String) (first last : Int) : Prop where
  starts : b.first = first
  ends : b.last = last
  answers : b.AnswersTo named

theorem answersTo_owner (b : BindingRow) : b.AnswersTo (some b.owner) :=
  fun _ same => Option.some.inj same

end BindingRow

namespace Store

variable {s t : Store} {range : PortRange} {owner : String} {now : Time.Instant}

/-! ## Joining -/

theorem join_inversion {new : NewInstance} {i : Instance}
    (granted : s.join new now = .ok (i, t)) :
    ¬s.Registered new.id ∧ t = s.joined (new.row now) := by
  simp only [join, bind_eq_ok] at granted
  obtain ⟨found, -, granted⟩ := granted
  split at granted
  · cases granted
  · split at granted
    · rename_i u added
      cases granted
      simp only [addInstance, filled, bind_ok] at added
      split at added
      · cases added
      · rename_i notTaken
        cases added
        refine ⟨?_, rfl⟩
        rintro ⟨r, member, same⟩
        apply notTaken
        simpa using ⟨r, member, same⟩
    · cases granted

/-! ## Binding a span -/

theorem addBinding_eq_ok {first last : Int} {reservedAt : String} {releasedAt : Option String} :
    s.addBinding (some owner) (some first) (some last) (some reservedAt) releasedAt = .ok t ↔
      first ≤ last ∧ s.Registered owner ∧
        s.withBinding owner first last reservedAt releasedAt = t := by
  have present : (s.instances.any fun r => r.id == some owner) = true ↔ s.Registered owner := by
    simp [Registered]
  simp only [addBinding, filled, bind_ok]
  split
  · simp only [reduceCtorEq, false_iff, not_and]
    omega
  · rename_i ordered
    split <;> rename_i joined <;> rw [present] at joined
    · simp [joined, Int.not_lt.mp ordered, withBinding]
    · simp [joined]

theorem isReserved_withBinding {first last : Int} {reservedAt : String} {r : PortRow} :
    (s.withBinding owner first last reservedAt none).isReserved r = false ↔
      s.isReserved r = false ∧ s.nextBinding ∉ r.holders := by
  simp only [isReserved, isActive, withBinding, BindingRow.isActive, List.any_cons,
    List.any_eq_false, Bool.or_eq_true, not_or, Option.isNone_none, Bool.and_true, beq_iff_eq]
  constructor
  · exact fun h => ⟨fun i held => (h i held).2, fun held => (h _ held).1 rfl⟩
  · exact fun h i held => ⟨fun same => h.2 (same ▸ held), h.1 i held⟩

theorem linkSpan_eq_ok {binding : Nat} {first last : Int} :
    s.linkSpan binding first last = .ok t ↔
      (∀ r ∈ s.ports.rows, first ≤ r.number → r.number ≤ last → s.isReserved r = false) ∧
        s.withLinks binding first last = t := by
  have free : (s.ports.rows.any fun r =>
        (first ≤ r.number && r.number ≤ last) && s.isReserved r) = false ↔
      ∀ r ∈ s.ports.rows, first ≤ r.number → r.number ≤ last → s.isReserved r = false := by
    simp [List.any_eq_false]
  rw [← free]
  simp only [linkSpan]
  split <;> rename_i held
  · simp [held]
  · simp [Bool.not_eq_true _ ▸ held, withLinks]

/-- **A reservation binds a span of ports that are all free.** -/
theorem bind_eq_ok_iff {first last : Int} {b : Binding} :
    s.bind owner first last now = .ok (b, t) ↔
      first ≤ last ∧ s.Registered owner ∧
        (∀ r ∈ s.ports.rows, first ≤ r.number → r.number ≤ last →
          s.isReserved r = false ∧ s.nextBinding ∉ r.holders) ∧
        ⟨s.nextBinding, owner, PortNumber.wrap first, PortNumber.wrap last, now, none⟩ = b ∧
        s.bound owner first last (stored now) = t := by
  have written (u : Store) :
      (do
        let reservedAt := stored now
        let t ← s.addBinding (some owner) (some first) (some last) (some reservedAt) none
        t.linkSpan s.nextBinding first last) = .ok u ↔
      first ≤ last ∧ s.Registered owner ∧
        (∀ r ∈ s.ports.rows, first ≤ r.number → r.number ≤ last →
          s.isReserved r = false ∧ s.nextBinding ∉ r.holders) ∧
        s.bound owner first last (stored now) = u := by
    simp only [bind_eq_ok, addBinding_eq_ok]
    constructor
    · rintro ⟨_, ⟨ordered, registered, rfl⟩, linked⟩
      obtain ⟨free, rfl⟩ := linkSpan_eq_ok.mp linked
      exact ⟨ordered, registered, fun r member low high =>
        isReserved_withBinding.mp (free r member low high), rfl⟩
    · rintro ⟨ordered, registered, free, rfl⟩
      exact ⟨_, ⟨ordered, registered, rfl⟩, linkSpan_eq_ok.mpr ⟨fun r member low high =>
        isReserved_withBinding.mpr (free r member low high), rfl⟩⟩
  simp only [Store.bind]
  split <;> rename_i u outcome
  · obtain ⟨ordered, registered, free, rfl⟩ := (written u).mp outcome
    simp only [Except.ok.injEq, Prod.mk.injEq]
    exact ⟨fun answer => ⟨ordered, registered, free, answer⟩, fun h => h.2.2.2⟩
  · simp only [reduceCtorEq, false_iff]
    rintro ⟨ordered, registered, free, -, -⟩
    rw [(written _).mpr ⟨ordered, registered, free, rfl⟩] at outcome
    cases outcome

/-! ## Reserving -/

/-- The ports of a span of the range are known, or were recorded just now. -/
structure Prepared (s : Store) (range : PortRange) (first last : Int) (u : Store) : Prop where
  inRange : ∀ n, first ≤ n → n ≤ last → range.has n
  known : ∀ n, first ≤ n → n ≤ last → u.Knows n
  recorded : u = s ∨ ∃ count : Nat, u = s.fillPorts first count ∧ first + count - 1 = last

theorem start_le_nextNumber {next : Nat} (isNext : s.nextNumber range = .ok next) :
    range.start ≤ next := by
  simp only [nextNumber, bind_eq_ok] at isNext
  obtain ⟨largest, -, isNext⟩ := isNext
  split at isNext <;> cases isNext
  · exact Nat.le_refl _
  · exact Nat.le_max_right ..

/-- A pool that grows records the ports of the span. -/
theorem grow_inversion {size : Nat} {b : Binding} (positive : 0 < size)
    (granted : s.grow range owner size now = .ok (b, t)) :
    ∃ first last u, s.Prepared range first last u ∧
      u.bind owner first last now = .ok (b, t) := by
  simp only [grow, bind_eq_ok] at granted
  obtain ⟨next, isNext, granted⟩ := granted
  have low := start_le_nextNumber isNext
  split at granted
  · refine ⟨next, (next + size - 1 : Nat), s.fillPorts next size, ⟨?_, ?_, ?_⟩, granted⟩
    · intro n above below
      simp only [PortRange.has, Bool.and_eq_true, decide_eq_true_eq]
      omega
    · intro n above below
      exact knows_fillPorts.mpr (.inr ⟨above, by omega⟩)
    · exact .inr ⟨size, rfl, by omega⟩
  · cases granted

theorem Offers.knows {n : Int} (offered : s.Offers range n) : s.Knows n := by
  obtain ⟨-, r, member, same, -⟩ := offered
  exact ⟨r, member, same⟩

/-- **A span that is granted was bound where all of its ports are known.** -/
theorem reserveSpan_inversion {size : Nat} {b : Binding}
    (granted : s.reserveSpan range owner size now = .ok (b, t)) :
    ∃ first last u, s.Prepared range first last u ∧
      u.bind owner first last now = .ok (b, t) := by
  simp only [reserveSpan] at granted
  split at granted
  · cases granted
  · rename_i nonzero
    have positive : 0 < size := Nat.pos_of_ne_zero nonzero
    obtain ⟨_, -, granted⟩ := bind_eq_ok.mp granted
    split at granted
    · rename_i first found
      have lowest := (findWindowStart_eq_some (freeNumbers_ascending s range) positive).mp found
      have offered (n : Int) (above : first ≤ n) (below : n ≤ first + (size - 1 : Nat)) :
          s.Offers range n :=
        mem_freeNumbers.mp (isRun_iff_forall.mp lowest.run n above (by omega))
      refine ⟨first, first + (size - 1 : Nat), s, ⟨?_, ?_, .inl rfl⟩, granted⟩
      · exact fun n above below => (offered n above below).1
      · exact fun n above below => (offered n above below).knows
    · exact grow_inversion positive granted

/-- The numbers for which it was bound are the ends that are told. -/
theorem reserveSpan_bound {size : Nat} {b : Binding}
    (granted : s.reserveSpan range owner size now = .ok (b, t)) :
    ∃ u, s.Prepared range b.first.val b.last.val u ∧
      u.bind owner b.first.val b.last.val now = .ok (b, t) := by
  obtain ⟨first, last, u, prepared, bound⟩ := reserveSpan_inversion granted
  obtain ⟨ordered, -, -, told, -⟩ := bind_eq_ok_iff.mp bound
  have low := prepared.inRange first (Int.le_refl _) ordered
  have high := prepared.inRange last ordered (Int.le_refl _)
  have := range.stop_lt
  simp only [PortRange.has, Bool.and_eq_true, decide_eq_true_eq] at low high
  have starts : (b.first.val : Int) = first := by
    rw [← told]
    exact PortNumber.wrap_val (by omega) (by omega)
  have ends : (b.last.val : Int) = last := by
    rw [← told]
    exact PortNumber.wrap_val (by omega) (by omega)
  rw [starts, ends]
  exact ⟨u, prepared, bound⟩

/-- One port is a span of size one. -/
theorem reserveOne_eq_reserveSpan (s : Store) (range : PortRange) (owner : String)
    (now : Time.Instant) : s.reserveOne range owner now = s.reserveSpan range owner 1 now := by
  have lowest : findWindowStart ((s.freePorts range).map (·.number)) 1 =
      (s.freePorts range).head?.map (·.number) := by
    cases s.freePorts range with
    | nil => rfl
    | cons r rows => simp [findWindowStart, findWindow, List.findIdx?_cons]
  simp only [reserveOne, reserveSpan, Nat.one_ne_zero, if_false, lowest]
  cases (s.freePorts range).head? with
  | none => rfl
  | some r => simp

/-- Every size that is granted is that of a span. -/
theorem reserve_inversion {size : Option Int} {b : Binding}
    (granted : s.reserve range owner size now = .ok (b, t)) :
    ∃ n, s.reserveSpan range owner n now = .ok (b, t) := by
  simp only [reserve, reserveOne_eq_reserveSpan] at granted
  split at granted
  · exact ⟨1, granted⟩
  · split at granted
    · exact ⟨1, granted⟩
    · split at granted
      · cases granted
      · split at granted
        · cases granted
        · exact ⟨_, granted⟩

/-! ## Releasing -/

theorem setReleased_eq_ok {b : BindingRow} {releasedAt : String} {count : Nat}
    (present : b ∈ s.bindings) (marked : s.setReleased b.id (some releasedAt) = .ok (count, t)) :
    ∃ c ∈ s.bindings, c.id = b.id ∧ c.isActive ∧ t = s.released c.id releasedAt := by
  simp only [setReleased] at marked
  split at marked
  · rename_i missing
    have := List.find?_eq_none.mp missing b present
    simp at this
  · rename_i c found
    have same : (c.id : Int) = b.id := by simpa only [beq_iff_eq] using List.find?_some found
    split at marked
    · rename_i active
      cases marked
      exact ⟨c, List.mem_of_find?_eq_some found, by omega, active, rfl⟩
    · cases marked

/-- The active binding of this row is released, in the name of `named` and as the
policy allows, and the answer tells what the row says. -/
structure Ended (s : Store) (ownership : Ownership) (named : Option String) (now : Time.Instant)
    (row : BindingRow) (b : Binding) (t : Store) : Prop where
  present : row ∈ s.bindings
  active : row.isActive
  told : ∃ shown, row.read = .ok shown ∧ b = { shown with releasedAt := some now }
  owned : ∀ id, named = some id → row.owner = id
  permitted : ownership = .required → named ≠ none
  store : t = s.released row.id (stored now)

theorem checkOwnership_eq_ok {ownership : Ownership} {named : Option String}
    (passed : checkOwnership ownership named = .ok ()) :
    ownership = .required → named ≠ none := by
  rintro rfl rfl
  cases passed

theorem ownedBy_iff {named : Option String} {row : BindingRow} :
    ownedBy named row = true ↔ ∀ id, named = some id → row.owner = id := by
  cases named with
  | none => simp [ownedBy]
  | some id =>
    simp only [ownedBy, Option.all_some, beq_iff_eq, Option.some.injEq, forall_eq']
    exact eq_comm

/-- The active binding of a port, among those of the named instance. -/
def bindingOf? (s : Store) (named : Option String) (r : PortRow) : Option BindingRow :=
  s.bindings.find? fun b => r.holders.contains b.id && b.isActive && ownedBy named b

theorem of_bindingOf?_eq_some {named : Option String} {r : PortRow} {row : BindingRow}
    (found : s.bindingOf? named r = some row) :
    row ∈ s.bindings ∧ row.isActive ∧ row.AnswersTo named := by
  have matching := List.find?_some found
  simp only [Bool.and_eq_true] at matching
  exact ⟨List.mem_of_find?_eq_some found, matching.1.2, ownedBy_iff.mp matching.2⟩

section Spanning

variable {named : Option String} {first last : Int} {row : BindingRow}

/-- The binding of a span, among those of the named instance: an active one first, then the
latest. -/
def spanning? (s : Store) (named : Option String) (first last : Int) : Option BindingRow :=
  let spanning := s.bindings.filter fun b => b.first == first && b.last == last && ownedBy named b
  spanning.find? (·.isActive) <|> spanning.head?

theorem mem_spanning :
    row ∈ s.bindings.filter (fun b => b.first == first && b.last == last && ownedBy named b) ↔
      row ∈ s.bindings ∧ row.Spans named first last := by
  rw [List.mem_filter, Bool.and_eq_true, Bool.and_eq_true, beq_iff_eq, beq_iff_eq, ownedBy_iff]
  exact and_congr_right fun _ =>
    ⟨fun ⟨⟨starts, ends⟩, answers⟩ => ⟨starts, ends, answers⟩,
      fun spans => ⟨⟨spans.starts, spans.ends⟩, spans.answers⟩⟩

/-- One that was released is only found if all of them were. -/
theorem of_spanning?_eq_some (chosen : s.spanning? named first last = some row) :
    row ∈ s.bindings ∧ row.Spans named first last ∧ (row.isActive = false →
      ∀ other ∈ s.bindings, other.Spans named first last → other.isActive = false) := by
  rw [spanning?, Option.orElse_eq_orElse, Option.orElse_eq_or, Option.or_eq_some_iff] at chosen
  rcases chosen with found | ⟨noneActive, isHead⟩
  · obtain ⟨present, spans⟩ := mem_spanning.mp (List.mem_of_find?_eq_some found)
    have active : row.isActive = true := List.find?_some found
    exact ⟨present, spans, fun ended => by rw [active] at ended; cases ended⟩
  · obtain ⟨present, spans⟩ := mem_spanning.mp (List.mem_of_head? isHead)
    refine ⟨present, spans, fun _ other among spansToo => ?_⟩
    simpa using List.find?_eq_none.mp noneActive other (mem_spanning.mpr ⟨among, spansToo⟩)

end Spanning

theorem finish_ended {ownership : Ownership} {named : Option String} {row : BindingRow}
    {b : Binding} (present : row ∈ s.bindings) (active : row.isActive)
    (owned : ownedBy named row) (permitted : ownership = .required → named ≠ none)
    (granted : s.finish row now = .ok (b, t)) : s.Ended ownership named now row b t := by
  simp only [finish, bind_eq_ok] at granted
  obtain ⟨shown, told, granted⟩ := granted
  split at granted
  · rename_i marked
    cases granted
    obtain ⟨c, -, same, -, rfl⟩ := setReleased_eq_ok present marked
    exact ⟨present, active, ⟨shown, told, rfl⟩, ownedBy_iff.mp owned, permitted, by rw [same]⟩
  · cases granted

theorem releasePort_ended {ownership : Ownership} {number : PortNumber} {named : Option String}
    {b : Binding} (granted : s.releasePort ownership number named now = .ok (b, t)) :
    ∃ row, s.Ended ownership named now row b t := by
  simp only [releasePort, bind_eq_ok] at granted
  obtain ⟨_, permitted, _, -, granted⟩ := granted
  split at granted
  · cases granted
  · obtain ⟨_, -, granted⟩ := bind_eq_ok.mp granted
    split at granted
    · cases granted
    · rename_i row found
      obtain ⟨present, active, owned⟩ := of_bindingOf?_eq_some found
      exact ⟨row, finish_ended present active (ownedBy_iff.mpr owned)
        (checkOwnership_eq_ok permitted) granted⟩

theorem releaseSpan_ended {ownership : Ownership} {first last : PortNumber}
    {named : Option String} {b : Binding}
    (granted : s.releaseSpan ownership first last named now = .ok (b, t)) :
    ∃ row, s.Ended ownership named now row b t := by
  simp only [releaseSpan] at granted
  split at granted
  · cases granted
  · simp only [bind_eq_ok] at granted
    obtain ⟨_, permitted, _, -, granted⟩ := granted
    split at granted
    · cases granted
    · rename_i row chosen
      obtain ⟨shown, told, granted⟩ := bind_eq_ok.mp granted
      split at granted
      · rename_i active
        rw [(BindingRow.of_read told).2.2.2.2] at active
        obtain ⟨present, spans, -⟩ := of_spanning?_eq_some chosen
        exact ⟨row, finish_ended present active (ownedBy_iff.mpr spans.answers)
          (checkOwnership_eq_ok permitted) granted⟩
      · cases granted

theorem release_ended {ownership : Ownership} {request : ReleaseRequest} {b : Binding}
    (granted : s.release ownership request now = .ok (b, t)) :
    ∃ row, s.Ended ownership (request.instanceId.filter fun id => !id.isEmpty) now row b t := by
  obtain ⟨named, port, first, last⟩ := request
  rw [Store.release] at granted
  -- a port alone or both ends of a span; every other combination is refused
  rcases port with _ | port <;> rcases first with _ | first <;> rcases last with _ | last
  case some.none.none => exact releasePort_ended granted
  case none.some.some => exact releaseSpan_ended granted
  all_goals cases granted

end Store

/-! ## Requests -/

namespace Operation

variable {s t : Store} {answer : Answer}

theorem changing_eq_ok {α : Type} {wrap : α → Answer} {result : Except Fault (α × Store)} :
    changing wrap result = .ok (answer, t) ↔ ∃ a, result = .ok (a, t) ∧ wrap a = answer := by
  simp only [changing, map_eq_ok, Prod.exists, Prod.mk.injEq]
  constructor
  · rintro ⟨a, u, granted, wrapped, rfl⟩
    exact ⟨a, granted, wrapped⟩
  · rintro ⟨a, granted, wrapped⟩
    exact ⟨a, t, granted, wrapped, rfl⟩

theorem reading_eq_ok {result : Except Fault Answer} :
    reading s result = .ok (answer, t) ↔ result = .ok answer ∧ t = s := by
  simp only [reading, map_eq_ok, Prod.mk.injEq]
  constructor
  · rintro ⟨_, granted, rfl, rfl⟩
    exact ⟨granted, rfl⟩
  · rintro ⟨granted, rfl⟩
    exact ⟨answer, granted, rfl, rfl⟩

end Operation

end PortPool
