/-
# PortPool.Proofs.Observation -- what a report of ports can change

A report adds rows that belong to nothing (`Store.Records`).  It never fails, and
whatever was offered is offered still.  Yet it is not without effect on later
reservations: the new rows are offered too, which may join two runs, and they lift
the growth point, which may leave too little room above.

`reserveSpan_after_observe` weighs the two: a span that could be had before a
report can be had after it exactly if offered and new numbers together hold a run
of its size, or every new number leaves room for it below the end of the range.
-/
import PortPool.Proofs.Exhaustion

namespace PortPool

set_option autoImplicit false

namespace Store

variable {s t u : Store} {range : PortRange} {owner : String} {size : Nat}
  {news others : Int → Prop}

/-! ## Recording -/

/-- `t` is `s` with rows, linked to nothing, for those of some numbers that had none. -/
structure Records (s : Store) (news : Int → Prop) (t : Store) : Prop where
  kept : ∀ r ∈ s.ports.rows, r ∈ t.ports.rows
  added : ∀ r ∈ t.ports.rows,
    r ∈ s.ports.rows ∨ (r.holders = [] ∧ news r.number ∧ ¬s.Knows r.number)
  known : ∀ n, news n → t.Knows n
  bindings : t.bindings = s.bindings
  instances : t.instances = s.instances
  nextBinding : t.nextBinding = s.nextBinding

namespace Records

theorem knows_iff (recorded : Records s news t) {n : Int} :
    t.Knows n ↔ s.Knows n ∨ news n := by
  constructor
  · rintro ⟨r, member, rfl⟩
    rcases recorded.added r member with old | ⟨-, isNew, -⟩
    · exact .inl ⟨r, old, rfl⟩
    · exact .inr isNew
  · rintro (⟨r, member, same⟩ | isNew)
    · exact ⟨r, recorded.kept r member, same⟩
    · exact recorded.known n isNew

theorem refl (s : Store) : Records s (fun _ => False) s :=
  ⟨fun _ member => member, fun _ member => .inl member, fun _ never => never.elim, rfl, rfl, rfl⟩

theorem trans (first : Records s news t) (second : Records t others u) :
    Records s (fun n => news n ∨ others n) u where
  kept r member := second.kept r (first.kept r member)
  added r member := by
    rcases second.added r member with before | ⟨unlinked, isNew, unknown⟩
    · rcases first.added r before with old | ⟨unlinked, isNew, unknown⟩
      · exact .inl old
      · exact .inr ⟨unlinked, .inl isNew, unknown⟩
    · refine .inr ⟨unlinked, .inr isNew, fun known => unknown ?_⟩
      exact first.knows_iff.mpr (.inl known)
  known n isNew := by
    rcases isNew with isNew | isNew
    · exact second.knows_iff.mpr (.inl (first.known n isNew))
    · exact second.known n isNew
  bindings := second.bindings.trans first.bindings
  instances := second.instances.trans first.instances
  nextBinding := second.nextBinding.trans first.nextBinding

theorem congr (recorded : Records s news t) (same : ∀ n, news n ↔ others n) :
    Records s others t := by
  have : news = others := funext fun n => propext (same n)
  rwa [← this]

theorem isReserved_eq (recorded : Records s news t) (r : PortRow) :
    t.isReserved r = s.isReserved r := by
  have active : t.isActive = s.isActive := by
    funext binding
    simp only [Store.isActive, recorded.bindings]
  simp only [Store.isReserved, active]

/-- What was offered stays so, and what is new is offered as well. -/
theorem offers_iff (recorded : Records s news t) {n : Int} :
    t.Offers range n ↔ s.Offers range n ∨ (range.has n ∧ news n ∧ ¬s.Knows n) := by
  constructor
  · rintro ⟨inRange, r, member, rfl, free⟩
    rw [recorded.isReserved_eq] at free
    rcases recorded.added r member with old | ⟨-, isNew, unknown⟩
    · exact .inl ⟨inRange, r, old, rfl, free⟩
    · exact .inr ⟨inRange, isNew, unknown⟩
  · rintro (⟨inRange, r, member, same, free⟩ | ⟨inRange, isNew, unknown⟩)
    · exact ⟨inRange, r, recorded.kept r member, same, by rwa [recorded.isReserved_eq]⟩
    · obtain ⟨r, member, rfl⟩ := recorded.known n isNew
      refine ⟨inRange, r, member, rfl, ?_⟩
      rcases recorded.added r member with old | ⟨unlinked, -, -⟩
      · exact absurd ⟨r, old, rfl⟩ unknown
      · simp [isReserved, unlinked]

theorem recalls_iff (recorded : Records s news t) : t.Recalls owner ↔ s.Recalls owner := by
  simp only [Recalls, getInstance, findInstance, recorded.instances]

/-- New numbers lift the growth point above themselves. -/
theorem growthPoint_le_iff (recorded : Records s news t) {m : Int} :
    t.growthPoint range ≤ m ↔
      s.growthPoint range ≤ m ∧ ∀ n, news n → ¬s.Knows n → n < m := by
  rw [Store.growthPoint_le_iff, Store.growthPoint_le_iff]
  constructor
  · rintro ⟨start, above⟩
    refine ⟨⟨start, fun n known => ?_⟩, fun n isNew _ => ?_⟩
    · exact above n (recorded.knows_iff.mpr (.inl known))
    · exact above n (recorded.known n isNew)
  · rintro ⟨⟨start, above⟩, aboveNew⟩
    refine ⟨start, fun n known => ?_⟩
    by_cases old : s.Knows n
    · exact above n old
    · rcases recorded.knows_iff.mp known with old' | isNew
      · exact absurd old' old
      · exact aboveNew n isNew old

end Records

/-- Filling an interval records its numbers. -/
theorem fillPorts_records (s : Store) (number : Int) (count : Nat) :
    Records s (fun n => number ≤ n ∧ n < number + count) (s.fillPorts number count) where
  kept r member := PortTable.mem_fill.mpr (.inl member)
  added r member := by
    rcases PortTable.mem_fill.mp member with old | ⟨low, high, unlinked, -, absent⟩
    · exact .inl old
    · exact .inr ⟨unlinked, ⟨low, high⟩, fun ⟨q, mq, same⟩ => absent q mq same⟩
  known n isNew := knows_fillPorts.mpr (.inr isNew)
  bindings := rfl
  instances := rfl
  nextBinding := rfl

theorem records_one (s : Store) (n : PortNumber) :
    Records s (· = n.val)
      (if (s.ports.find? n.val).isSome then s else s.fillPorts n.val 1) := by
  split <;> rename_i present
  · rw [PortTable.isSome_find?] at present
    exact ⟨fun _ member => member, fun _ member => .inl member,
      fun m same => same ▸ present, rfl, rfl, rfl⟩
  · exact (fillPorts_records s n.val 1).congr fun m => by omega

theorem findPort_of_knows {n : PortNumber} (known : s.Knows n.val) :
    ∃ port, s.findPort n = .ok (some port) := by
  obtain ⟨r, member, same⟩ := known
  have found : s.ports.find? n.val = some r := PortTable.find?_eq_some.mpr ⟨member, same⟩
  have number : PortNumber.ofInt? r.number = some n := by
    rw [same, PortNumber.ofInt?, dif_pos ⟨by omega, by omega⟩]
    rfl
  exact ⟨⟨r.id, n, s.isReserved r⟩, by simp [findPort, found, readPort, number, readable]⟩

/-- Recording never fails, and does just that. -/
theorem recordEach_records (numbers : List PortNumber) (s : Store) :
    ∃ ports t, recordEach numbers s = .ok (ports, t) ∧
      Records s (fun n => ∃ p ∈ numbers, (p.val : Int) = n) t := by
  induction numbers generalizing s with
  | nil => exact ⟨[], s, rfl, (Records.refl s).congr (by simp)⟩
  | cons p numbers ih =>
    have first := records_one s p
    obtain ⟨port, found⟩ := findPort_of_knows (first.known p.val rfl)
    obtain ⟨ports, t, rest, second⟩ :=
      ih (if (s.ports.find? p.val).isSome then s else s.fillPorts p.val 1)
    refine ⟨port :: ports, t, ?_, (first.trans second).congr fun n => ?_⟩
    · simp only [recordEach, found, rest, bind_ok, pure_eq_ok]
    · simp [eq_comm]

/-- The number is one of those reported, and in the range. -/
def Observed (range : PortRange) (reported : List PortNumber) (n : Int) : Prop :=
  range.has n ∧ ∃ p ∈ reported, (p.val : Int) = n

theorem observe_records (s : Store) (range : PortRange) (reported : List PortNumber) :
    ∃ ports t, s.observe range reported = .ok (ports, t) ∧
      Records s (Observed range reported) t := by
  obtain ⟨ports, t, granted, recorded⟩ := recordEach_records _ s
  refine ⟨ports, t, granted, recorded.congr fun n => ?_⟩
  constructor
  · rintro ⟨p, member, rfl⟩
    obtain ⟨present, inRange⟩ := mem_observed.mp member
    exact ⟨inRange, p, present, rfl⟩
  · rintro ⟨inRange, p, present, rfl⟩
    exact ⟨p, mem_observed.mpr ⟨present, inRange⟩, rfl⟩

/-! ## Reserving after a report -/

/-- The number is observed, and had no row before. -/
def Uncovers (s : Store) (range : PortRange) (reported : List PortNumber) (n : Int) : Prop :=
  Observed range reported n ∧ ¬s.Knows n

theorem Records.offers_observed_iff {reported : List PortNumber}
    (recorded : Records s (Observed range reported) t) {n : Int} :
    t.Offers range n ↔ s.Offers range n ∨ s.Uncovers range reported n := by
  rw [recorded.offers_iff]
  constructor
  · rintro (offered | ⟨-, isNew, unknown⟩)
    · exact .inl offered
    · exact .inr ⟨isNew, unknown⟩
  · rintro (offered | ⟨isNew, unknown⟩)
    · exact .inl offered
    · exact .inr ⟨isNew.1, isNew, unknown⟩

/-- The room that is left is what every new number leaves. -/
theorem Records.room_iff {reported : List PortNumber}
    (recorded : Records s (Observed range reported) t) :
    t.growthPoint range + size ≤ range.stop ↔
      s.growthPoint range + size ≤ range.stop ∧
        ∀ n, s.Uncovers range reported n → n + size < range.stop := by
  have point : t.growthPoint range ≤ range.stop - size ↔ _ := recorded.growthPoint_le_iff
  constructor
  · intro room
    obtain ⟨before, above⟩ := point.mp (by omega)
    refine ⟨by omega, fun n ⟨isNew, unknown⟩ => ?_⟩
    have := above n isNew unknown
    omega
  · rintro ⟨before, above⟩
    have := point.mpr ⟨by omega, fun n isNew unknown => by
      have := above n ⟨isNew, unknown⟩
      omega⟩
    omega

end Store

/-- **What a report leaves possible.**  It always succeeds, touches no binding and no
instance and takes back no offer; a span that was possible before stays so if there
is a run of its size among offered and new numbers, or room above every new one. -/
theorem reserveSpan_after_observe (steps : List Step) (range : PortRange) (owner : String)
    (size : Nat) (now later : Time.Instant) (reported : List PortNumber)
    (possible : ∃ b t, (Store.empty.after steps).reserveSpan range owner size now = .ok (b, t)) :
    ∃ ports u, (Store.empty.after steps).observe range reported = .ok (ports, u) ∧
      u.bindings = (Store.empty.after steps).bindings ∧
      u.instances = (Store.empty.after steps).instances ∧
      (∀ n, (Store.empty.after steps).Offers range n → u.Offers range n) ∧
      ((∃ b t, u.reserveSpan range owner size later = .ok (b, t)) ↔
        (∃ first, IsRun (fun n => (Store.empty.after steps).Offers range n ∨
          (Store.empty.after steps).Uncovers range reported n) size first) ∨
        ∀ n, (Store.empty.after steps).Uncovers range reported n → n + size < range.stop) := by
  obtain ⟨ports, u, observed, recorded⟩ :=
    Store.observe_records (Store.empty.after steps) range reported
  -- the store after the report is that of a longer run
  have isAfter : u =
      Store.empty.after (steps ++ [⟨⟨range, .optional⟩, now, .observe reported⟩]) := by
    simp [after_append, Operation.next, Operation.perform, Operation.changing, observed]
  have soundAfter : Sound u := isAfter ▸ sound_after _
  have boundedAfter : u.Bounded := isAfter ▸ bounded_after _
  have positive : 0 < size := by
    rcases Nat.eq_zero_or_pos size with rfl | positive
    · obtain ⟨b, t, granted⟩ := possible
      cases granted
    · exact positive
  rw [Store.reserveSpan_succeeds_iff (sound_after steps) (bounded_after steps) positive] at possible
  obtain ⟨recalled, possible⟩ := possible
  refine ⟨ports, u, observed, recorded.bindings, recorded.instances,
    fun n offered => recorded.offers_iff.mpr (.inl offered), ?_⟩
  have offers : u.Offers range = fun n => (Store.empty.after steps).Offers range n ∨
      (Store.empty.after steps).Uncovers range reported n :=
    funext fun n => propext recorded.offers_observed_iff
  rw [Store.reserveSpan_succeeds_iff soundAfter boundedAfter positive, recorded.recalls_iff,
    recorded.room_iff, offers]
  simp only [recalled, true_and]
  constructor
  · rintro (run | ⟨-, above⟩)
    · exact .inl run
    · exact .inr above
  · rintro (run | above)
    · exact .inl run
    · rcases possible with ⟨first, run⟩ | room
      · exact .inl ⟨first, run.mono fun n offered => .inl offered⟩
      · exact .inr ⟨room, above⟩

/-- An instance joins an empty pool. -/
def oneJoined : List Step :=
  Step.each ⟨threePorts, .optional⟩ (Time.Instant.ofUnix 0 0) [.join ⟨"abc", "host", []⟩]

theorem recalls_oneJoined : (Store.empty.after oneJoined).Recalls "abc" := ⟨_, rfl⟩

/-- A report of the lowest port leaves room for the other two. -/
theorem reserveSpan_after_lowest_observed :
    ∃ ports u, (Store.empty.after oneJoined).observe threePorts [.wrap 8000] = .ok (ports, u) ∧
      ∃ b t, u.reserveSpan threePorts "abc" 2 (Time.Instant.ofUnix 0 0) = .ok (b, t) := by
  obtain ⟨ports, u, observed, -, -, -, possible⟩ :=
    reserveSpan_after_observe oneJoined threePorts "abc" 2 (Time.Instant.ofUnix 0 0)
      (Time.Instant.ofUnix 0 0) [.wrap 8000] ⟨_, _, rfl⟩
  refine ⟨ports, u, observed, possible.mpr (.inr ?_)⟩
  rintro n ⟨⟨-, p, member, rfl⟩, -⟩
  rw [List.mem_singleton.mp member]
  decide

/-- Refuting pole: a report of the highest port leaves no room above it, and the
numbers below it have no rows. -/
theorem exhausted_by_highest_observed :
    ¬∀ (steps : List Step) (settings : Settings) (owner : String) (size : Nat)
        (now : Time.Instant) (reported : List PortNumber),
      (Store.empty.after steps).Registered owner → 0 < size →
      (∃ b t, (Store.empty.after steps).reserveSpan settings.range owner size now = .ok (b, t)) →
      ∃ b t, (Store.empty.after (steps ++ [⟨settings, now, .observe reported⟩])).reserveSpan
        settings.range owner size now = .ok (b, t) := by
  intro harmless
  have failed : ((Store.empty.after (oneJoined ++
      [⟨⟨threePorts, .optional⟩, Time.Instant.ofUnix 0 0, .observe [.wrap 8002]⟩])).reserveSpan
        threePorts "abc" 2 (Time.Instant.ofUnix 0 0)).isOk = false := by decide +kernel
  obtain ⟨b, t, granted⟩ := harmless oneJoined ⟨threePorts, .optional⟩ "abc" 2
    (Time.Instant.ofUnix 0 0) [.wrap 8002] (by decide +kernel) (by decide) ⟨_, _, rfl⟩
  cases failed.symm.trans (congrArg Except.isOk granted)

end PortPool
