/-
# PortPool.Proofs.Reservation -- what a reservation does, in every case

A reservation looks at four things: the size asked for, whether the instance
joined, which numbers of the range are offered (known and in no active span), and
the growth point, the first number above everything known.  `ReservationLaw` says
what comes of them, case by case, and `reserve_law` that every store a run leads
to obeys it.

Two steps bring every request to one shape: one port is a span of size one
(`reserveOne_eq_reserveSpan`), and an admitted size is a span of that size
(`reserve_eq_reserveSpan`).  A span then is bound where the lowest run of offered
numbers starts, or at the growth point; in both places all ports are free, which
is what `bind_of_free` asks for.  What it leaves behind is `Granted`: one row more
among the bindings, one link more at each port of the span, and nothing else.
-/
import PortPool.Proofs.Registry
import PortPool.Proofs.Soundness

namespace PortPool

set_option autoImplicit false

open Time.Rfc3339 (stored)

/-- No row has a number outside the range of ports. -/
def Store.Bounded (s : Store) : Prop := ∀ n, s.Knows n → 0 < n ∧ n < 65535

theorem bounded_after (steps : List Step) : (Store.empty.after steps).Bounded := by
  rintro n ⟨r, member, rfl⟩
  obtain ⟨range, -, inRange⟩ := ranged_after steps r member
  have := range.start_pos
  have := range.stop_lt
  simp only [PortRange.has, Bool.and_eq_true, decide_eq_true_eq] at inRange
  omega

/-! ## Sizes -/

/-- A size that is not admitted: not positive, or more than 32 bits hold. -/
def SizeRefused (size : Option Int) : Prop := ∃ n, size = some n ∧ (n ≤ 0 ∨ 4294967295 < n)

/-- How many ports are asked for: one if no number is given. -/
def askedPorts (size : Option Int) : Nat := (size.getD 1).toNat

theorem askedPorts_pos {size : Option Int} (admitted : ¬SizeRefused size) : 0 < askedPorts size := by
  cases size with
  | none => exact Nat.one_pos
  | some n =>
    have : ¬(n ≤ 0 ∨ 4294967295 < n) := fun bad => admitted ⟨n, rfl, bad⟩
    simp only [askedPorts, Option.getD_some]
    omega

namespace Store

variable {s t : Store} {range : PortRange} {owner : String} {now : Time.Instant}

/-! ## The growth point -/

/-- The first number above every known one, and not below the range. -/
def growthPoint (s : Store) (range : PortRange) : Int :=
  s.ports.rows.foldr (fun r top => max (r.number + 1) top) range.start

theorem start_le_growthPoint (s : Store) (range : PortRange) :
    range.start ≤ s.growthPoint range := by
  unfold growthPoint
  induction s.ports.rows with
  | nil => exact Int.le_refl _
  | cons r rows ih =>
    rw [List.foldr_cons]
    omega

theorem lt_growthPoint (range : PortRange) {n : Int} (known : s.Knows n) : n < s.growthPoint range := by
  obtain ⟨r, member, rfl⟩ := known
  unfold growthPoint
  generalize s.ports.rows = rows at member ⊢
  induction rows with
  | nil => cases member
  | cons q rows ih =>
    rw [List.foldr_cons]
    rcases List.mem_cons.mp member with rfl | later
    · omega
    · have := ih later
      omega

/-- The growth point is the start of the range or right above a known number. -/
theorem growthPoint_eq_or (s : Store) (range : PortRange) :
    s.growthPoint range = range.start ∨ s.Knows (s.growthPoint range - 1) := by
  unfold growthPoint Knows
  induction s.ports.rows with
  | nil => exact .inl rfl
  | cons q rows ih =>
    rw [List.foldr_cons]
    rcases Int.le_total (q.number + 1)
      (rows.foldr (fun r top => max (r.number + 1) top) (range.start : Int)) with below | above
    · rw [Int.max_eq_right below]
      rcases ih with start | ⟨r, member, same⟩
      · exact .inl start
      · exact .inr ⟨r, List.mem_cons_of_mem _ member, same⟩
    · rw [Int.max_eq_left above]
      exact .inr ⟨q, List.mem_cons_self, by omega⟩

theorem growthPoint_le_iff {m : Int} :
    s.growthPoint range ≤ m ↔ range.start ≤ m ∧ ∀ n, s.Knows n → n < m := by
  constructor
  · intro le
    have := start_le_growthPoint s range
    refine ⟨by omega, fun n known => ?_⟩
    have := lt_growthPoint range known
    omega
  · rintro ⟨start, above⟩
    rcases growthPoint_eq_or s range with same | known
    · omega
    · have := above _ known
      omega

theorem nextNumber_eq (bounded : s.Bounded) :
    s.nextNumber range = .ok (s.growthPoint range).toNat := by
  have low := start_le_growthPoint s range
  cases largest : s.ports.largest? with
  | none =>
    have none : s.growthPoint range = range.start := by
      rw [growthPoint, PortTable.largest?_eq_none.mp largest]
      rfl
    simp [nextNumber, largestPort, largest, none]
  | some m =>
    obtain ⟨known, above⟩ := PortTable.largest?_eq_some largest
    have within := bounded m known
    have high := lt_growthPoint range known
    have isMax : s.growthPoint range = max (m + 1) range.start := by
      rcases growthPoint_eq_or s range with start | ⟨r, member, same⟩
      · omega
      · have := above r member
        omega
    have port : PortNumber.ofInt? m = some ⟨m.toNat, by omega⟩ :=
      dif_pos ⟨by omega, by omega⟩
    simp only [nextNumber, largestPort, largest, port, readable, map_ok, bind_ok, pure_eq_ok]
    congr 1
    omega

/-! ## One shape for all requests -/

theorem reserve_eq_reserveSpan {size : Option Int} (admitted : ¬SizeRefused size) :
    s.reserve range owner size now = s.reserveSpan range owner (askedPorts size) now := by
  cases size with
  | none => exact reserveOne_eq_reserveSpan ..
  | some n =>
    have within : ¬(n ≤ 0 ∨ 4294967295 < n) := fun bad => admitted ⟨n, rfl, bad⟩
    by_cases one : n = 1
    · subst one
      exact reserveOne_eq_reserveSpan ..
    · have notSmall : ¬n < 1 := by omega
      have notLarge : ¬(UInt32.size : Int) ≤ n := by
        have : (UInt32.size : Int) = 4294967296 := rfl
        omega
      simp only [reserve, if_neg one, if_neg notSmall, if_neg notLarge, askedPorts, Option.getD_some]

/-! ## Binding free ports -/

/-- What is answered when a span is bound. -/
def grantedBinding (s : Store) (owner : String) (first last : Int) (now : Time.Instant) :
    Binding :=
  ⟨s.nextBinding, owner, PortNumber.wrap first, PortNumber.wrap last, now, none⟩

theorem bind_of_free {first last : Int} (ordered : first ≤ last) (joined : s.Registered owner)
    (free : ∀ r ∈ s.ports.rows, first ≤ r.number → r.number ≤ last →
      s.isReserved r = false ∧ s.nextBinding ∉ r.holders) :
    s.bind owner first last now =
      .ok (s.grantedBinding owner first last now, s.bound owner first last (stored now)) :=
  bind_eq_ok_iff.mpr ⟨ordered, joined, free, rfl, rfl⟩

theorem Offers.free (sound : Sound s) {r : PortRow} (offered : s.Offers range r.number)
    (member : r ∈ s.ports.rows) : s.isReserved r = false ∧ s.nextBinding ∉ r.holders := by
  obtain ⟨-, q, mq, same, free⟩ := offered
  obtain rfl := PortTable.eq_of_number_eq mq member same
  exact ⟨free, sound.nextBinding_notMem member⟩

/-! ## Reserving a span -/

variable {size : Nat}

theorem reserveSpan_of_getInstance_error {fault : Fault} (positive : 0 < size)
    (failed : s.getInstance owner = .error fault) :
    s.reserveSpan range owner size now = .error fault := by
  simp only [reserveSpan, if_neg (Nat.ne_of_gt positive), failed, bind_error]

theorem reserveSpan_reused (sound : Sound s) (positive : 0 < size) (recalled : s.Recalls owner)
    {first : Int} (lowest : IsLowestRun (s.Offers range) size first) :
    s.reserveSpan range owner size now =
      .ok (s.grantedBinding owner first (first + (size - 1 : Nat)) now,
        s.bound owner first (first + (size - 1 : Nat)) (stored now)) := by
  have found : findWindowStart ((s.freePorts range).map (·.number)) size = some first := by
    apply (findWindowStart_eq_some (freeNumbers_ascending s range) positive).mpr
    simpa only [mem_freeNumbers] using lowest
  have joined := recalled.registered
  obtain ⟨i, known⟩ := recalled
  simp only [reserveSpan, if_neg (Nat.ne_of_gt positive), known, bind_ok, found]
  refine bind_of_free (by omega) joined fun r member low high => ?_
  exact (isRun_iff_forall.mp lowest.run r.number low (by omega)).free sound member

theorem reserveSpan_of_noRun (positive : 0 < size) (recalled : s.Recalls owner)
    (noRun : ∀ first, ¬IsRun (s.Offers range) size first) :
    s.reserveSpan range owner size now = s.grow range owner size now := by
  have missing : findWindowStart ((s.freePorts range).map (·.number)) size = none := by
    apply (findWindowStart_eq_none (freeNumbers_ascending s range) positive).mpr
    simpa only [mem_freeNumbers] using noRun
  obtain ⟨i, known⟩ := recalled
  simp only [reserveSpan, if_neg (Nat.ne_of_gt positive), known, bind_ok, missing]

/-- The rows that growth adds are those above all others, linked to nothing. -/
theorem rows_fillPorts_growthPoint :
    (s.fillPorts (s.growthPoint range) size).ports.rows =
      s.ports.rows ++ freshRows s.nextPort (s.growthPoint range) size :=
  PortTable.fill_above fun r member => lt_growthPoint range ⟨r, member, rfl⟩

theorem grow_eq_ok (bounded : s.Bounded) (joined : s.Registered owner)
    (positive : 0 < size) (room : s.growthPoint range + size ≤ range.stop) :
    s.grow range owner size now =
      .ok ((s.fillPorts (s.growthPoint range) size).grantedBinding owner (s.growthPoint range)
          (s.growthPoint range + (size - 1 : Nat)) now,
        (s.fillPorts (s.growthPoint range) size).bound owner (s.growthPoint range)
          (s.growthPoint range + (size - 1 : Nat)) (stored now)) := by
  have low := start_le_growthPoint s range
  obtain ⟨next, isNext⟩ := Int.eq_ofNat_of_zero_le (show 0 ≤ s.growthPoint range by omega)
  rw [isNext] at room ⊢
  have last : ((next + size - 1 : Nat) : Int) = (next : Int) + (size - 1 : Nat) := by omega
  simp only [grow, nextNumber_eq bounded, bind_ok, isNext, Int.toNat_natCast]
  rw [if_pos (by omega), last]
  refine bind_of_free (by omega) joined fun r member low high => ?_
  rw [← isNext, rows_fillPorts_growthPoint, List.mem_append] at member
  rcases member with old | new
  · have := lt_growthPoint range ⟨r, old, rfl⟩
    omega
  · obtain ⟨-, -, unlinked, -⟩ := mem_freshRows.mp new
    simp [isReserved, unlinked]

theorem grow_eq_error (bounded : s.Bounded) (positive : 0 < size)
    (noRoom : range.stop < s.growthPoint range + size) :
    s.grow range owner size now = .error (.poolExhausted size range.start range.stop) := by
  have low := start_le_growthPoint s range
  simp only [grow, nextNumber_eq bounded, bind_ok]
  rw [if_neg (by omega)]

/-! ## What is granted -/

/-- A binding of the span is granted: it gets an id above all others and one link
to each port of the span, among them those created for it.  Nothing else changes. -/
structure Granted (s : Store) (owner : String) (now : Time.Instant) (first last : Int)
    (created : List PortRow) (b : Binding) (t : Store) : Prop where
  identified : b.id = s.nextBinding
  owned : b.owner = owner
  starts : (b.first.val : Int) = first
  ends : (b.last.val : Int) = last
  reserved : b.reservedAt = now
  active : b.releasedAt = none
  fresh : ∀ c ∈ s.bindings, c.id < s.nextBinding
  bindings : t.bindings = ⟨s.nextBinding, owner, first, last, stored now, none⟩ :: s.bindings
  linked : t.linkedNumbers s.nextBinding = numbersFrom first last
  rows : t.ports.rows = (s.ports.rows ++ created).map fun r =>
    if first ≤ r.number ∧ r.number ≤ last then { r with holders := s.nextBinding :: r.holders }
    else r
  instances : t.instances = s.instances
  portCount : t.nextPort = s.nextPort + created.length
  bindingCount : t.nextBinding = s.nextBinding + 1

theorem rows_bound {first last : Int} {reservedAt : String} :
    (s.bound owner first last reservedAt).ports.rows = s.ports.rows.map fun r =>
      if first ≤ r.number ∧ r.number ≤ last then { r with holders := s.nextBinding :: r.holders }
      else r := by
  show s.ports.rows.map _ = _
  apply List.map_congr_left
  intro r _
  by_cases within : first ≤ r.number ∧ r.number ≤ last
  · simp [within]
  · simp only [within, if_false]
    rw [if_neg (by simpa using within)]

/-- Binding a free span grants it; ports created for it stand behind all others. -/
theorem granted_bound {u : Store} {first last : Int} {created : List PortRow} (sound : Sound u)
    (ordered : first ≤ last) (joined : u.Registered owner)
    (known : ∀ n, first ≤ n → n ≤ last → u.Knows n)
    (free : ∀ r ∈ u.ports.rows, first ≤ r.number → r.number ≤ last → u.isReserved r = false)
    (low : 0 < first) (high : last < 65535)
    (same : u = { s with ports := u.ports, nextPort := s.nextPort + created.length })
    (rows : u.ports.rows = s.ports.rows ++ created) :
    Granted s owner now first last created (u.grantedBinding owner first last now)
      (u.bound owner first last (stored now)) := by
  have bindings : u.bindings = s.bindings := by rw [same]
  have counter : u.nextBinding = s.nextBinding := by rw [same]
  exact {
    identified := by rw [grantedBinding, counter]
    owned := rfl
    starts := PortNumber.wrap_val (by omega) (by omega)
    ends := PortNumber.wrap_val (by omega) (by omega)
    reserved := rfl
    active := rfl
    fresh := by
      rw [← counter, ← bindings]
      exact sound.counted
    bindings := by
      rw [← counter, ← bindings]
      rfl
    linked := by
      have clear : ∀ n, first ≤ n → n ≤ last → ¬u.Occupied n := by
        intro n below above
        obtain ⟨r, member, rfl⟩ := known n below above
        exact (sound.isReserved_eq_false member).mp (free r member below above)
      rw [← counter]
      exact (sound.bind ordered joined known clear).linkedNumbers_eq List.mem_cons_self
    rows := by rw [rows_bound, rows, counter]
    instances := by
      show u.instances = s.instances
      rw [same]
    portCount := by
      show u.nextPort = _
      rw [same]
    bindingCount := by
      show u.nextBinding + 1 = _
      rw [counter] }

/-- **The law of reservation.**  What comes of a request for `size` ports, in the
order in which it is decided. -/
structure ReservationLaw (s : Store) (range : PortRange) (owner : String) (size : Option Int)
    (now : Time.Instant) (outcome : Except Fault (Binding × Store)) : Prop where
  /-- A size that is not positive or beyond 32 bits is refused, and nothing else is. -/
  refused : (∃ flaw, outcome = .error (.invalidRequest flaw)) ↔ SizeRefused size
  /-- Then the instance must have joined. -/
  unregistered : outcome = .error (.instanceNotRegistered owner) ↔
    ¬SizeRefused size ∧ ¬s.Registered owner
  /-- Then its row must be one that the store can read. -/
  unread : outcome = .error .store ↔
    ¬SizeRefused size ∧ s.Registered owner ∧ ¬s.Recalls owner
  /-- Then the lowest run of offered numbers is bound, and no port is created. -/
  reused : ¬SizeRefused size → s.Recalls owner →
    (∃ first, IsRun (s.Offers range) (askedPorts size) first) →
    ∃ first b t, IsLowestRun (s.Offers range) (askedPorts size) first ∧ outcome = .ok (b, t) ∧
      Granted s owner now first (first + askedPorts size - 1) [] b t
  /-- If there is none, the numbers from the growth point on are created and bound. -/
  grown : ¬SizeRefused size → s.Recalls owner →
    (∀ first, ¬IsRun (s.Offers range) (askedPorts size) first) →
    s.growthPoint range + askedPorts size ≤ range.stop →
    ∃ b t, outcome = .ok (b, t) ∧
      Granted s owner now (s.growthPoint range) (s.growthPoint range + askedPorts size - 1)
        (freshRows s.nextPort (s.growthPoint range) (askedPorts size)) b t
  /-- If these leave the range, the pool is exhausted. -/
  exhausted : ¬SizeRefused size → s.Recalls owner →
    (∀ first, ¬IsRun (s.Offers range) (askedPorts size) first) →
    range.stop < s.growthPoint range + askedPorts size →
    outcome = .error (.poolExhausted (askedPorts size) range.start range.stop)

/-- If there is a run at all, one of them is the lowest. -/
theorem exists_isLowestRun {size : Nat} (positive : 0 < size)
    (run : ∃ first, IsRun (s.Offers range) size first) :
    ∃ first, IsLowestRun (s.Offers range) size first := by
  have ascends := freeNumbers_ascending s range
  cases found : findWindowStart ((s.freePorts range).map (·.number)) size with
  | none =>
    obtain ⟨first, isRun⟩ := run
    have noRun := (findWindowStart_eq_none ascends positive).mp found first
    simp only [mem_freeNumbers] at noRun
    exact absurd isRun noRun
  | some first =>
    have lowest := (findWindowStart_eq_some ascends positive).mp found
    simp only [mem_freeNumbers] at lowest
    exact ⟨first, lowest⟩

theorem reserveSpan_reused_granted (now : Time.Instant) (sound : Sound s) (positive : 0 < size)
    (recalled : s.Recalls owner) {first : Int}
    (lowest : IsLowestRun (s.Offers range) size first) :
    ∃ b t, s.reserveSpan range owner size now = .ok (b, t) ∧
      Granted s owner now first (first + size - 1) [] b t := by
  have last : first + (size - 1 : Nat) = first + size - 1 := by omega
  have offered := isRun_iff_forall.mp lowest.run
  have inRange (n : Int) (low : first ≤ n) (high : n ≤ first + size - 1) : 0 < n ∧ n < 65535 := by
    have := (offered n low (by omega)).1
    have := range.start_pos
    have := range.stop_lt
    simp only [PortRange.has, Bool.and_eq_true, decide_eq_true_eq] at *
    omega
  refine ⟨_, _, reserveSpan_reused sound positive recalled lowest, ?_⟩
  rw [last]
  refine granted_bound sound (by omega) recalled.registered ?_ ?_ ?_ ?_ rfl (by simp)
  · exact fun n low high => (offered n low (by omega)).knows
  · exact fun r member low high => ((offered r.number low (by omega)).free sound member).1
  · exact (inRange first (by omega) (by omega)).1
  · exact (inRange (first + size - 1) (by omega) (by omega)).2

theorem grow_granted (now : Time.Instant) (sound : Sound s) (bounded : s.Bounded) (joined : s.Registered owner)
    (positive : 0 < size) (room : s.growthPoint range + size ≤ range.stop) :
    ∃ b t, s.grow range owner size now = .ok (b, t) ∧
      Granted s owner now (s.growthPoint range) (s.growthPoint range + size - 1)
        (freshRows s.nextPort (s.growthPoint range) size) b t := by
  have last : s.growthPoint range + (size - 1 : Nat) = s.growthPoint range + size - 1 := by omega
  have low := start_le_growthPoint s range
  have := range.start_pos
  have := range.stop_lt
  refine ⟨_, _, grow_eq_ok bounded joined positive room, ?_⟩
  rw [last]
  refine granted_bound (sound.record _ _) (by omega) joined ?_ ?_ (by omega) (by omega) ?_
    rows_fillPorts_growthPoint
  · exact fun n low high => knows_fillPorts.mpr (.inr ⟨low, by omega⟩)
  · intro r member low high
    rw [rows_fillPorts_growthPoint, List.mem_append] at member
    rcases member with old | new
    · have := lt_growthPoint range ⟨r, old, rfl⟩
      omega
    · obtain ⟨-, -, unlinked, -⟩ := mem_freshRows.mp new
      simp [isReserved, unlinked]
  · rw [length_freshRows]
    rfl

theorem reserve_refused {size : Option Int} (refused : SizeRefused size) :
    ∃ flaw, s.reserve range owner size now = .error (.invalidRequest flaw) := by
  obtain ⟨n, rfl, bad⟩ := refused
  have notOne : n ≠ 1 := by omega
  simp only [reserve, if_neg notOne]
  by_cases small : n < 1
  · exact ⟨_, if_pos small⟩
  · have large : (UInt32.size : Int) ≤ n := by
      have : (UInt32.size : Int) = 4294967296 := rfl
      omega
    rw [if_neg small, if_pos large]
    exact ⟨_, rfl⟩

/-- A span is granted if there is an offered run of its size, or room to grow by it. -/
theorem reserveSpan_succeeds_iff (sound : Sound s) (bounded : s.Bounded) (positive : 0 < size) :
    (∃ b t, s.reserveSpan range owner size now = .ok (b, t)) ↔
      s.Recalls owner ∧ ((∃ first, IsRun (s.Offers range) size first) ∨
        s.growthPoint range + size ≤ range.stop) := by
  by_cases recalled : s.Recalls owner
  · simp only [recalled, true_and]
    by_cases run : ∃ first, IsRun (s.Offers range) size first
    · obtain ⟨first, lowest⟩ := exists_isLowestRun positive run
      rw [reserveSpan_reused sound positive recalled lowest]
      simp [run]
    · rw [reserveSpan_of_noRun positive recalled (not_exists.mp run)]
      by_cases room : s.growthPoint range + size ≤ range.stop
      · rw [grow_eq_ok bounded recalled.registered positive room]
        simp [room]
      · rw [grow_eq_error bounded positive (by omega)]
        simp [run, room]
  · simp only [recalled, false_and, iff_false]
    rintro ⟨b, t, granted⟩
    by_cases joined : s.Registered owner
    · rw [reserveSpan_of_getInstance_error positive (getInstance_of_registered joined recalled)]
        at granted
      cases granted
    · rw [reserveSpan_of_getInstance_error positive (getInstance_of_unregistered joined)]
        at granted
      cases granted

/-- The outcomes of an admitted request, one of which always occurs. -/
theorem reserve_cases (sound : Sound s) (bounded : s.Bounded) {size : Option Int}
    (admitted : ¬SizeRefused size) :
    (¬s.Registered owner ∧
      s.reserve range owner size now = .error (.instanceNotRegistered owner)) ∨
    ((s.Registered owner ∧ ¬s.Recalls owner) ∧
      s.reserve range owner size now = .error .store) ∨
    (s.Recalls owner ∧
      ((∃ b t, s.reserve range owner size now = .ok (b, t)) ∨
        s.reserve range owner size now =
          .error (.poolExhausted (askedPorts size) range.start range.stop))) := by
  have positive := askedPorts_pos admitted
  rw [reserve_eq_reserveSpan admitted]
  by_cases joined : s.Registered owner
  · by_cases recalled : s.Recalls owner
    · refine .inr (.inr ⟨recalled, ?_⟩)
      by_cases run : ∃ first, IsRun (s.Offers range) (askedPorts size) first
      · obtain ⟨first, lowest⟩ := exists_isLowestRun positive run
        obtain ⟨b, t, granted, -⟩ :=
          reserveSpan_reused_granted now sound positive recalled lowest
        exact .inl ⟨b, t, granted⟩
      · rw [reserveSpan_of_noRun positive recalled (not_exists.mp run)]
        by_cases room : s.growthPoint range + askedPorts size ≤ range.stop
        · obtain ⟨b, t, granted, -⟩ := grow_granted now sound bounded joined positive room
          exact .inl ⟨b, t, granted⟩
        · exact .inr (grow_eq_error bounded positive (by omega))
    · exact .inr (.inl ⟨⟨joined, recalled⟩, reserveSpan_of_getInstance_error positive
        (getInstance_of_registered joined recalled)⟩)
  · exact .inl ⟨joined, reserveSpan_of_getInstance_error positive
      (getInstance_of_unregistered joined)⟩

theorem reserve_obeys (sound : Sound s) (bounded : s.Bounded) (range : PortRange)
    (owner : String) (size : Option Int) (now : Time.Instant) :
    ReservationLaw s range owner size now (s.reserve range owner size now) where
  refused := by
    constructor
    · rintro ⟨flaw, refused⟩
      by_contra admitted
      rcases reserve_cases sound bounded admitted with
        ⟨-, other⟩ | ⟨-, other⟩ | ⟨-, ⟨b, t, other⟩ | other⟩ <;>
        exact absurd (refused.symm.trans other) (by simp)
    · exact reserve_refused
  unregistered := by
    constructor
    · intro unknown
      have admitted : ¬SizeRefused size := by
        intro bad
        obtain ⟨flaw, other⟩ := reserve_refused bad
        exact absurd (unknown.symm.trans other) (by simp)
      refine ⟨admitted, ?_⟩
      rcases reserve_cases sound bounded admitted with
        ⟨notJoined, -⟩ | ⟨-, other⟩ | ⟨-, ⟨b, t, other⟩ | other⟩
      · exact notJoined
      all_goals exact absurd (unknown.symm.trans other) (by simp)
    · rintro ⟨admitted, notJoined⟩
      rw [reserve_eq_reserveSpan admitted]
      exact reserveSpan_of_getInstance_error (askedPorts_pos admitted)
        (getInstance_of_unregistered notJoined)
  unread := by
    constructor
    · intro fault
      have admitted : ¬SizeRefused size := by
        intro bad
        obtain ⟨flaw, other⟩ := reserve_refused bad
        exact absurd (fault.symm.trans other) (by simp)
      refine ⟨admitted, ?_⟩
      rcases reserve_cases sound bounded admitted with
        ⟨-, other⟩ | ⟨unread, -⟩ | ⟨-, ⟨b, t, other⟩ | other⟩
      · exact absurd (fault.symm.trans other) (by simp)
      · exact unread
      all_goals exact absurd (fault.symm.trans other) (by simp)
    · rintro ⟨admitted, joined, unread⟩
      rw [reserve_eq_reserveSpan admitted]
      exact reserveSpan_of_getInstance_error (askedPorts_pos admitted)
        (getInstance_of_registered joined unread)
  reused admitted recalled run := by
    have positive := askedPorts_pos admitted
    obtain ⟨first, lowest⟩ := exists_isLowestRun positive run
    rw [reserve_eq_reserveSpan admitted]
    obtain ⟨b, t, granted⟩ := reserveSpan_reused_granted now sound positive recalled lowest
    exact ⟨first, b, t, lowest, granted⟩
  grown admitted recalled noRun room := by
    have positive := askedPorts_pos admitted
    rw [reserve_eq_reserveSpan admitted, reserveSpan_of_noRun positive recalled noRun]
    exact grow_granted now sound bounded recalled.registered positive room
  exhausted admitted recalled noRun noRoom := by
    have positive := askedPorts_pos admitted
    rw [reserve_eq_reserveSpan admitted, reserveSpan_of_noRun positive recalled noRun]
    exact grow_eq_error bounded positive noRoom

end Store

/-- **Reservation, input to output.**  The store that a run leads to obeys the law, for
every request under every range.  After a run of the service whoever joined is recalled,
so that nothing but the size, the instance and the ports decides. -/
theorem reserve_law (steps : List Step) (range : PortRange) (owner : String)
    (size : Option Int) (now : Time.Instant) :
    Store.ReservationLaw (Store.empty.after steps) range owner size now
        ((Store.empty.after steps).reserve range owner size now) ∧
      ((∀ step ∈ steps, step.Served) → (Store.empty.after steps).Registered owner →
        (Store.empty.after steps).Recalls owner) :=
  ⟨Store.reserve_obeys (sound_after steps) (bounded_after steps) range owner size now,
    fun served joined => recalls_after served joined⟩

end PortPool
