/-
# PortPool.Proofs.History -- the bindings are a log of what was answered

The list of bindings can be told from the answers of a run alone.  Each binding that
was answered to a request for ports stands in it once, the latest first, and is
closed at the instant that a release answered for its id, if one did (`history`).

The invariant is `Recorded`: the rows of the store are the rows of that log.  A
reservation adds an entry, which no earlier release can have named; a release closes
an entry that no earlier release named; and no other turn touches the rows.

Rows are texts, so listing them means reading them back.  That fails, as a whole, if
one of them tells an instant of a year without four digits, and only then
(`after_chronicle`).
-/
import PortPool.Proofs.Turn
import PortPool.Proofs.Time.Rfc3339

namespace PortPool

set_option autoImplicit false

open Time.Rfc3339 (read? stored read?_stored read?_stored_eq_none)

/-! ## Reading back what was written -/

/-- The instants that a binding tells. -/
def Binding.instants (b : Binding) : List Time.Instant := b.reservedAt :: b.releasedAt.toList

theorem readable_stored (t : Time.Instant) :
    readable (read? (stored t)) = .ok t ∨
      readable (read? (stored t)) = .error .store ∧ ¬t.Dated := by
  by_cases dated : t.Dated
  · rw [read?_stored dated.1 dated.2]
    exact .inl rfl
  · rw [read?_stored_eq_none dated]
    exact .inr ⟨rfl, dated⟩

/-- A row that was written for a binding says that binding, or cannot be read. -/
theorem Binding.read_row {b : Binding} (natural : 0 ≤ b.id) :
    b.row.read = .ok b ∨ b.row.read = .error .store ∧ ∃ t ∈ b.instants, ¬t.Dated := by
  obtain ⟨id, owner, first, last, reservedAt, releasedAt⟩ := b
  have same : ((id.toNat : Nat) : Int) = id := Int.toNat_of_nonneg natural
  simp only [BindingRow.read, Binding.row, PortNumber.ofInt?_val, readable, bind_ok, same]
  rcases readable_stored reservedAt with starts | ⟨starts, undated⟩
  · cases releasedAt with
    | none =>
      left
      simp only [readable] at starts
      simp [starts]
    | some releasedAt =>
      rcases readable_stored releasedAt with ends | ⟨ends, undated⟩
      · left
        simp only [readable] at starts ends
        simp [starts, ends]
      · right
        simp only [readable] at starts ends
        simp [starts, ends, instants, undated]
  · right
    simp only [readable] at starts
    simp [starts, instants, undated]

/-- What is read from a row that was written for a binding is that binding. -/
theorem Binding.eq_of_read_row {b shown : Binding} (read : b.row.read = .ok shown)
    (natural : 0 ≤ b.id) : shown = b := by
  rcases read_row natural with same | ⟨other, -⟩
  · exact Except.ok.inj (read.symm.trans same)
  · rw [read] at other
    cases other

/-- Rows that were written for bindings are listed as these, or not at all. -/
theorem mapM_read_row {bs : List Binding} (natural : ∀ b ∈ bs, 0 ≤ b.id) :
    (bs.map (·.row)).mapM (·.read) = .ok bs ∨
      (bs.map (·.row)).mapM (·.read) = .error .store ∧
        ∃ b ∈ bs, b.row.read = .error .store ∧ ∃ t ∈ b.instants, ¬t.Dated := by
  cases outcome : (bs.map (·.row)).mapM (·.read) with
  | ok shown =>
    left
    have each : bs.Forall₂ (fun b c => b.row.read = .ok c) shown :=
      List.forall₂_map_left_iff.mp (mapM_eq_ok.mp outcome)
    have same : bs.Forall₂ (· = ·) shown :=
      ((List.forall₂_and_left _ _).mpr ⟨natural, each⟩).imp fun _ _ both =>
        (Binding.eq_of_read_row both.2 both.1).symm
    rw [List.forall₂_eq_eq_eq] at same
    rw [same]
  | error fault =>
    obtain ⟨_, among, failed⟩ := exists_of_mapM_eq_error outcome
    obtain ⟨b, member, rfl⟩ := List.mem_map.mp among
    rcases Binding.read_row (natural b member) with read | ⟨unread, undated⟩
    · cases failed.symm.trans read
    · cases failed.symm.trans unread
      exact .inr ⟨rfl, b, member, unread, undated⟩

/-! ## The log of a run -/

/-- The bindings that were reserved, in the order of the requests. -/
def reservations (turns : List Turn) : List Binding := turns.filterMap (·.reserved?)

/-- The bindings that were released, as they were answered, in the order of the
requests. -/
def releases (turns : List Turn) : List Binding := turns.filterMap (·.released?)

/-- The binding, closed when it was released, if it was. -/
def Binding.closedBy (ended : List Binding) (b : Binding) : Binding :=
  { b with releasedAt := (ended.find? (·.id == b.id)).bind (·.releasedAt) }

/-- What the answers of a run say about bindings, the latest reservation first. -/
def history (turns : List Turn) : List Binding :=
  ((reservations turns).map (·.closedBy (releases turns))).reverse

/-- The filter admits the binding. -/
def BindingFilter.admits (f : BindingFilter) (b : Binding) : Bool :=
  f.instanceId.all (· == b.owner) && f.active.all (· == b.isActive)

namespace Binding

variable {ended : List Binding} {a b : Binding}

theorem find?_id_eq_none : ended.find? (·.id == b.id) = none ↔ ∀ c ∈ ended, c.id ≠ b.id := by
  simp

/-- What no release named is not closed. -/
theorem closedBy_of_forall_ne (active : b.releasedAt = none) (never : ∀ c ∈ ended, c.id ≠ b.id) :
    b.closedBy ended = b := by
  rw [closedBy, find?_id_eq_none.mpr never, Option.bind_none, ← active]

/-- A release of another binding makes no difference. -/
theorem closedBy_append_of_ne (other : b.id ≠ a.id) :
    a.closedBy (ended ++ [b]) = a.closedBy ended := by
  simp [closedBy, List.find?_append, other]

/-- The first release that names a binding closes it. -/
theorem closedBy_append_of_eq (never : ∀ c ∈ ended, c.id ≠ a.id) (same : b.id = a.id) :
    a.closedBy (ended ++ [b]) = { a with releasedAt := b.releasedAt } := by
  rw [closedBy, List.find?_append, find?_id_eq_none.mpr never]
  simp [same]

/-- Marking the rows of a binding as released is what its first release does. -/
theorem marked_row (natural : 0 ≤ a.id) (natural' : 0 ≤ b.id)
    (never : ∀ c ∈ ended, c.id ≠ b.id) (now : Time.Instant) :
    (a.closedBy ended).row.marked b.row.id (stored now) =
      (a.closedBy (ended ++ [{ b with releasedAt := some now }])).row := by
  by_cases same : b.id = a.id
  · have closed : a.closedBy (ended ++ [{ b with releasedAt := some now }]) =
        { a with releasedAt := some now } :=
      closedBy_append_of_eq (same ▸ never) same
    have named : (a.closedBy ended).row.id = b.row.id := by
      show a.id.toNat = b.id.toNat
      rw [same]
    rw [closed, BindingRow.marked, if_pos named]
    rfl
  · have kept : a.closedBy (ended ++ [{ b with releasedAt := some now }]) = a.closedBy ended :=
      closedBy_append_of_ne same
    have apart : (a.closedBy ended).row.id ≠ b.row.id := by
      show a.id.toNat ≠ b.id.toNat
      omega
    rw [kept, BindingRow.marked, if_neg apart]

theorem isActive_row : b.row.isActive = b.isActive := by
  simp [row, BindingRow.isActive, isActive]

end Binding

/-! ## The invariant -/

/-- The rows of the store are the log of these reservations and releases. -/
structure Recorded (s : Store) (granted ended : List Binding) : Prop where
  rows : s.bindings = ((granted.map (·.closedBy ended)).reverse).map (·.row)
  ascending : granted.Pairwise fun a b => a.id < b.id
  counted : ∀ b ∈ granted, 0 ≤ b.id ∧ b.id < s.nextBinding
  active : ∀ b ∈ granted, b.releasedAt = none
  closed : ∀ b ∈ ended, b.isActive = false ∧
    ∃ a ∈ granted, b = { a with releasedAt := b.releasedAt }
  once : ended.Pairwise fun a b => a.id ≠ b.id

namespace Recorded

variable {s t : Store} {granted ended : List Binding} {now : Time.Instant} {b : Binding}

theorem empty : Recorded Store.empty [] [] where
  rows := rfl
  ascending := .nil
  counted := by simp
  active := by simp
  closed := by simp
  once := .nil

/-- What was released was reserved before, under the same id. -/
theorem exists_id_eq (recorded : Recorded s granted ended) (member : b ∈ ended) :
    ∃ a ∈ granted, a.id = b.id := by
  obtain ⟨-, a, reserved, same⟩ := recorded.closed b member
  exact ⟨a, reserved, by rw [same]⟩

theorem reserve (recorded : Recorded s granted ended) (reserved : s.Reserved now b t) :
    Recorded t (granted ++ [b]) ended where
  rows := by
    have never : ∀ c ∈ ended, c.id ≠ b.id := by
      intro c member
      obtain ⟨a, earlier, same⟩ := recorded.exists_id_eq member
      have := recorded.counted a earlier
      have := reserved.identified
      omega
    rw [reserved.bindings, recorded.rows]
    simp [Binding.closedBy_of_forall_ne reserved.active never]
  ascending := by
    refine List.pairwise_append.mpr
      ⟨recorded.ascending, List.pairwise_singleton .., fun a earlier c latest => ?_⟩
    rw [List.mem_singleton.mp latest, reserved.identified]
    exact (recorded.counted a earlier).2
  counted c member := by
    have next := reserved.counter
    rcases List.mem_append.mp member with earlier | latest
    · have := recorded.counted c earlier
      omega
    · rw [List.mem_singleton.mp latest, reserved.identified]
      omega
  active c member := by
    rcases List.mem_append.mp member with earlier | latest
    · exact recorded.active c earlier
    · rw [List.mem_singleton.mp latest]
      exact reserved.active
  closed c member := by
    obtain ⟨ended, a, reserved, same⟩ := recorded.closed c member
    exact ⟨ended, a, List.mem_append_left _ reserved, same⟩
  once := recorded.once

/-- A row of the store is that of a reservation; while it is active, no release named it. -/
theorem exists_of_mem (recorded : Recorded s granted ended) {row : BindingRow}
    (present : row ∈ s.bindings) : ∃ a ∈ granted, row = (a.closedBy ended).row ∧
      (row.isActive → ∀ c ∈ ended, c.id ≠ a.id) := by
  rw [recorded.rows] at present
  simp only [List.mem_map, List.mem_reverse] at present
  obtain ⟨_, ⟨a, reserved, rfl⟩, rfl⟩ := present
  refine ⟨a, reserved, rfl, fun active c member same => ?_⟩
  rw [Binding.isActive_row] at active
  cases found : ended.find? (·.id == a.id) with
  | none => exact Binding.find?_id_eq_none.mp found c member same
  | some e =>
    have closed := (recorded.closed e (List.mem_of_find?_eq_some found)).1
    have open_ : e.isActive = true := by
      simpa only [Binding.isActive, Binding.closedBy, found, Option.bind_some] using active
    rw [closed] at open_
    cases open_

theorem release (recorded : Recorded s granted ended) {ownership : Ownership}
    {named : Option String} {row : BindingRow} (released : s.Ended ownership named now row b t) :
    Recorded t granted (ended ++ [b]) := by
  obtain ⟨a, reserved, rfl, never⟩ := recorded.exists_of_mem released.present
  replace never := never released.active
  obtain ⟨natural, below⟩ := recorded.counted a reserved
  obtain ⟨shown, told, rfl⟩ := released.told
  -- an active row says what was reserved
  obtain rfl : shown = a := by
    rw [Binding.eq_of_read_row told natural,
      Binding.closedBy_of_forall_ne (recorded.active a reserved) never]
  exact {
    rows := by
      rw [released.store, Store.released, recorded.rows]
      simp only [List.map_reverse, List.map_map]
      congr 1
      exact List.map_congr_left fun c member =>
        Binding.marked_row (recorded.counted c member).1 natural never now
    ascending := recorded.ascending
    counted := by
      rw [released.store]
      exact recorded.counted
    active := recorded.active
    closed := by
      intro c member
      rcases List.mem_append.mp member with earlier | latest
      · exact recorded.closed c earlier
      · rw [List.mem_singleton.mp latest]
        exact ⟨rfl, shown, reserved, rfl⟩
    once := by
      refine List.pairwise_append.mpr
        ⟨recorded.once, List.pairwise_singleton .., fun c earlier e latest => ?_⟩
      rw [List.mem_singleton.mp latest]
      exact never c earlier }

theorem keep (recorded : Recorded s granted ended) (bindings : t.bindings = s.bindings)
    (counter : t.nextBinding = s.nextBinding) : Recorded t granted ended where
  rows := bindings.trans recorded.rows
  ascending := recorded.ascending
  counted := by
    rw [counter]
    exact recorded.counted
  active := recorded.active
  closed := recorded.closed
  once := recorded.once

/-- **Every turn keeps the record.** -/
theorem turn (turn : Turn) (recorded : Recorded turn.store granted ended) :
    Recorded turn.next (granted ++ turn.reserved?.toList) (ended ++ turn.released?.toList) := by
  rcases turn.cases with ⟨b, isReserved, notReleased, reserved⟩ |
    ⟨row, b, notReserved, isReleased, released⟩ | ⟨notReserved, notReleased, bindings, counter⟩
  · simpa [isReserved, notReleased] using recorded.reserve reserved
  · simpa [notReserved, isReleased] using recorded.release released
  · simpa [notReserved, notReleased] using recorded.keep bindings counter

end Recorded

theorem reservations_singleton (turn : Turn) : reservations [turn] = turn.reserved?.toList := by
  cases reserved : turn.reserved? <;> simp [reservations, reserved]

theorem releases_singleton (turn : Turn) : releases [turn] = turn.released?.toList := by
  cases released : turn.released? <;> simp [releases, released]

theorem reservations_append (turns others : List Turn) :
    reservations (turns ++ others) = reservations turns ++ reservations others :=
  List.filterMap_append

theorem releases_append (turns others : List Turn) :
    releases (turns ++ others) = releases turns ++ releases others :=
  List.filterMap_append

theorem recorded_after (steps : List Step) :
    Recorded (Store.empty.after steps) (reservations (Store.empty.turns steps))
      (releases (Store.empty.turns steps)) := by
  induction steps using List.reverseRecOn with
  | nil => exact Recorded.empty
  | append_singleton steps step ih =>
    rw [turns_append, turns_cons, turns_nil, reservations_append, releases_append,
      reservations_singleton, releases_singleton, after_append]
    exact Recorded.turn ⟨Store.empty.after steps, step⟩ ih

/-! ## What is listed -/

theorem mem_of_mem_turns {s : Store} {steps : List Step} {turn : Turn}
    (member : turn ∈ s.turns steps) : turn.step ∈ steps := by
  induction steps generalizing s with
  | nil => cases member
  | cons step steps ih =>
    rw [turns_cons] at member
    rcases List.mem_cons.mp member with rfl | later
    · exact List.mem_cons_self
    · exact List.mem_cons_of_mem _ (ih later)

theorem Turn.reservedAt_eq {turn : Turn} {b : Binding} (reserved : turn.reserved? = some b) :
    b.reservedAt = turn.step.now := by
  rcases turn.cases with ⟨c, same, -, effect⟩ | ⟨_, _, other, -⟩ | ⟨other, -⟩
  · cases reserved.symm.trans same
    exact effect.reserved
  · cases reserved.symm.trans other
  · cases reserved.symm.trans other

theorem Turn.releasedAt_eq {turn : Turn} {b : Binding} (released : turn.released? = some b) :
    b.releasedAt = some turn.step.now := by
  rcases turn.cases with ⟨_, -, other, -⟩ | ⟨_, c, -, same, effect⟩ | ⟨-, other, -⟩
  · cases released.symm.trans other
  · cases released.symm.trans same
    obtain ⟨shown, -, rfl⟩ := effect.told
    rfl
  · cases released.symm.trans other

/-- The log tells no instants but those of its turns. -/
theorem exists_now_eq {turns : List Turn} {b : Binding} (member : b ∈ history turns)
    {t : Time.Instant} (told : t ∈ b.instants) : ∃ turn ∈ turns, turn.step.now = t := by
  simp only [history, List.mem_reverse, List.mem_map, reservations, List.mem_filterMap] at member
  obtain ⟨a, ⟨turn, mt, reserved⟩, rfl⟩ := member
  simp only [Binding.instants, Binding.closedBy, List.mem_cons, Option.mem_toList] at told
  rcases told with rfl | ended
  · exact ⟨turn, mt, (Turn.reservedAt_eq reserved).symm⟩
  · obtain ⟨e, found, ended⟩ := Option.bind_eq_some_iff.mp ended
    obtain ⟨turn, mt, released⟩ := List.mem_filterMap.mp (List.mem_of_find?_eq_some found)
    refine ⟨turn, mt, ?_⟩
    rw [Turn.releasedAt_eq released] at ended
    exact Option.some.inj ended

/-- Rows are filtered as the bindings that they say. -/
theorem Recorded.listBindings_eq {s : Store} {turns : List Turn}
    (recorded : Recorded s (reservations turns) (releases turns)) (filter : BindingFilter) :
    s.listBindings filter =
      (((history turns).filter filter.admits).map (·.row)).mapM (·.read) := by
  have same : (fun r : BindingRow => filter.instanceId.all (· == r.owner) &&
      filter.active.all (· == r.isActive)) ∘ (fun b : Binding => b.row) = filter.admits := by
    funext b
    simp only [Function.comp_apply, Binding.isActive_row, BindingFilter.admits]
    rfl
  simp only [Store.listBindings, recorded.rows, List.filter_map, same]
  rfl

theorem filter_admits_all (bs : List Binding) :
    bs.filter (BindingFilter.admits ⟨none, none⟩) = bs :=
  List.filter_eq_self.mpr fun _ _ => rfl

/-- The row of the binding is in the store and cannot be read, because it tells the instant of
a step at which the clock showed a year without four digits. -/
structure Binding.Illegible (steps : List Step) (s : Store) (b : Binding) : Prop where
  present : b.row ∈ s.bindings
  unread : b.row.read = .error .store
  undated : ∃ step ∈ steps, step.now ∈ b.instants ∧ ¬step.now.Dated

/-- What a run and the listings after it say about each other. -/
structure Chronicle (steps : List Step) (turns : List Turn) (s : Store) : Prop where
  /-- Every reservation opens a binding. -/
  opened : ∀ b ∈ reservations turns, b.isActive
  /-- Its id is above those of all earlier ones. -/
  ascending : (reservations turns).Pairwise fun a b => a.id < b.id
  /-- Every release answers a binding that was reserved, unchanged but for its end. -/
  closed : ∀ b ∈ releases turns, b.isActive = false ∧
    ∃ a ∈ reservations turns, b = { a with releasedAt := b.releasedAt }
  /-- No binding is released twice. -/
  once : (releases turns).Pairwise fun a b => a.id ≠ b.id
  /-- Every filter lists the entries of the log that it admits, in the order of the log, unless
  one of these cannot be read. -/
  listed : ∀ filter : BindingFilter,
    s.listBindings filter = .ok ((history turns).filter filter.admits) ∨
      s.listBindings filter = .error .store ∧
        ∃ b ∈ history turns, filter.admits b ∧ b.Illegible steps s
  /-- Without a filter this is the whole log. -/
  complete : s.listBindings ⟨none, none⟩ = .ok (history turns) ∨
    s.listBindings ⟨none, none⟩ = .error .store ∧ ∃ b ∈ history turns, b.Illegible steps s

/-- **The bindings are a complete log.**  Whatever is asked of an empty store, its
listings tell the reservations and the releases that were answered, and only these. -/
theorem after_chronicle (steps : List Step) :
    Chronicle steps (Store.empty.turns steps) (Store.empty.after steps) := by
  have recorded := recorded_after steps
  generalize turned : Store.empty.turns steps = turns at recorded
  have natural : ∀ b ∈ history turns, 0 ≤ b.id := by
    intro b member
    simp only [history, List.mem_reverse, List.mem_map] at member
    obtain ⟨a, reserved, rfl⟩ := member
    exact (recorded.counted a reserved).1
  have listed (filter : BindingFilter) :
      (Store.empty.after steps).listBindings filter =
          .ok ((history turns).filter filter.admits) ∨
        (Store.empty.after steps).listBindings filter = .error .store ∧
          ∃ b ∈ history turns, filter.admits b ∧ b.Illegible steps (Store.empty.after steps) := by
    rw [recorded.listBindings_eq]
    rcases mapM_read_row fun b member => natural b (List.mem_of_mem_filter member) with
      read | ⟨failed, b, member, unread, t, told, undated⟩
    · exact .inl read
    · obtain ⟨entered, admitted⟩ := List.mem_filter.mp member
      obtain ⟨turn, mt, rfl⟩ := exists_now_eq entered told
      have present : b.row ∈ (Store.empty.after steps).bindings :=
        recorded.rows ▸ List.mem_map_of_mem entered
      exact .inr ⟨failed, b, entered, admitted, present, unread, turn.step,
        mem_of_mem_turns (turned ▸ mt), told, undated⟩
  exact {
    opened := fun b reserved => by rw [Binding.isActive, recorded.active b reserved]; rfl
    ascending := recorded.ascending
    closed := recorded.closed
    once := recorded.once
    listed := listed
    complete := by
      rcases listed ⟨none, none⟩ with whole | ⟨failed, b, entered, -, illegible⟩
      · exact .inl (by rwa [filter_admits_all] at whole)
      · exact .inr ⟨failed, b, entered, illegible⟩ }

end PortPool
