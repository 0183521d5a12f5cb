/-
# PortPool.Proofs.Packing -- how many spans of one size there are

Whoever asks for spans of one size again and again is refused at some point, and which
point that is can be told beforehand (`Store.capacity`).  Two sources are counted, the
maximal runs of offered numbers and the numbers above everything known, and they do not
mix: a span is taken from the runs as long as one is long enough, which leaves the growth
point where it is; after that the pool grows, and what it records is taken at once, which
leaves the runs as they are.  In either case room for one span is used up, no more
(`Ready.capacity_cases`).

`packing_law` says what follows for the calls that are made in a row (`Store.haul`).
-/
import PortPool.Proofs.Effect
import PortPool.Proofs.Runs

namespace PortPool

set_option autoImplicit false

/-! ## Room for spans of one size -/

/-- The first and the last number of a binding. -/
def Binding.span (b : Binding) : Nat × Nat := (b.first.val, b.last.val)

namespace Store

variable {s t : Store} {range : PortRange} {owner : String} {now : Time.Instant} {size : Nat}

/-- The maximal runs of adjacent numbers of the range that are known and in no active
binding. -/
def freeRuns (s : Store) (range : PortRange) : List (List Int) :=
  maximalRuns ((s.freePorts range).map (·.number))

/-- How many spans of one size the store has room for: in its free runs, and from the
growth point to the end of the range. -/
def capacity (s : Store) (range : PortRange) (size : Nat) : Nat :=
  ((s.freeRuns range).map (·.length / size)).sum +
    (range.stop - s.growthPoint range).toNat / size

theorem capacity_eq (s : Store) (range : PortRange) (size : Nat) :
    s.capacity range size = fit size ((s.freePorts range).map (·.number)) +
      (range.stop - s.growthPoint range).toNat / size := rfl

/-- The free runs are what is offered, cut where a neighbour is not. -/
theorem exists_of_mem_freeRuns {run : List Int} (member : run ∈ s.freeRuns range) :
    ∃ first last, first ≤ last ∧ run = numbersFrom first last ∧
      (∀ n, first ≤ n → n ≤ last → s.Offers range n) ∧
      ¬s.Offers range (first - 1) ∧ ¬s.Offers range (last + 1) := by
  simpa only [mem_freeNumbers] using
    exists_of_mem_maximalRuns (freeNumbers_ascending s range) member

/-- There is never room for more spans than there are numbers. -/
theorem capacity_le_size (s : Store) (range : PortRange) (size : Nat) :
    s.capacity range size ≤ range.size := by
  have low := start_le_growthPoint s range
  have below : (s.freePorts range).map (·.number) ⊆
      numbersFrom range.start (min (s.growthPoint range) range.stop - 1) := by
    intro n member
    obtain ⟨inRange, r, known, same, -⟩ := mem_freeNumbers.mp member
    have := lt_growthPoint range ⟨r, known, same⟩
    simp only [PortRange.has, Bool.and_eq_true, decide_eq_true_eq] at inRange
    rw [mem_numbersFrom]
    omega
  have distinct : ((s.freePorts range).map (·.number)).Nodup :=
    (freeNumbers_ascending s range).imp fun h => by omega
  have atMost := (List.subperm_of_subset distinct below).length_le
  have fits := fit_le_length size ((s.freePorts range).map (·.number))
  have room := Nat.div_le_self (range.stop - s.growthPoint range).toNat size
  have := range.start_lt_stop
  rw [length_numbersFrom] at atMost
  rw [capacity_eq, PortRange.size]
  omega

/-! ## What one call uses up -/

/-- Whether a number is known decides where the pool grows. -/
theorem growthPoint_congr (same : ∀ n, t.Knows n ↔ s.Knows n) :
    t.growthPoint range = s.growthPoint range := by
  refine Int.le_antisymm ?_ ?_
  · exact growthPoint_le_iff.mpr ⟨start_le_growthPoint s range, fun n known =>
      lt_growthPoint range ((same n).mp known)⟩
  · exact growthPoint_le_iff.mpr ⟨start_le_growthPoint t range, fun n known =>
      lt_growthPoint range ((same n).mpr known)⟩

theorem Granted.knows_iff {first last : Int} {created : List PortRow} {b : Binding}
    (granted : Granted s owner now first last created b t) {n : Int} :
    t.Knows n ↔ s.Knows n ∨ ∃ r ∈ created, r.number = n := by
  have number (r : PortRow) : (if first ≤ r.number ∧ r.number ≤ last then
      { r with holders := s.nextBinding :: r.holders } else r).number = r.number := by
    split <;> rfl
  simp only [Knows, granted.rows, List.mem_map, exists_exists_and_eq_and, number, List.mem_append,
    or_and_right, exists_or]

theorem Granted.occupied_iff {first last : Int} {created : List PortRow} {b : Binding}
    (granted : Granted s owner now first last created b t) {n : Int} :
    t.Occupied n ↔ s.Occupied n ∨ first ≤ n ∧ n ≤ last := by
  simp only [Occupied, granted.bindings, List.mem_cons, exists_eq_or_imp, BindingRow.isActive,
    Option.isNone_none, true_and]
  exact or_comm

/-- A store of which it is known what comes of a call of this instance. -/
structure Ready (s : Store) (owner : String) : Prop where
  sound : Sound s
  bounded : s.Bounded
  recalled : s.Recalls owner

/-- A span that was granted leaves a store behind of which the same is known. -/
theorem Ready.granted (ready : s.Ready owner) {b : Binding}
    (granted : s.reserveSpan range owner size now = .ok (b, t)) : t.Ready owner := by
  obtain ⟨first, last, u, prepared, bound⟩ := reserveSpan_inversion granted
  obtain ⟨-, -, -, -, isBound⟩ := bind_eq_ok_iff.mp bound
  have moved : Moves (fun _ => False) range now s t := reserveSpan_moves granted
  exact {
    sound := ready.sound.moves moved
    bounded := by
      intro n known
      rw [← isBound, Sound.knows_bound] at known
      rcases prepared.recorded with rfl | ⟨count, rfl, ends⟩
      · exact ready.bounded n known
      · rcases knows_fillPorts.mp known with old | ⟨low, high⟩
        · exact ready.bounded n old
        · have inRange := prepared.inRange n low (by omega)
          have := range.start_pos
          have := range.stop_lt
          simp only [PortRange.has, Bool.and_eq_true, decide_eq_true_eq] at inRange
          omega
    recalled := ready.recalled.kept (instances_moves moved) }

/-- A span taken from the runs is gone from what is offered. -/
theorem Granted.freeNumbers_reused (sound : Sound s) (soundAfter : Sound t) {first : Int}
    {b : Binding} (granted : Granted s owner now first (first + size - 1) [] b t) :
    (t.freePorts range).map (·.number) = ((s.freePorts range).map (·.number)).filter fun n =>
      decide (n < first ∨ first + size ≤ n) := by
  refine eq_of_ascending id (freeNumbers_ascending t range)
    ((freeNumbers_ascending s range).filter _) ?_
  intro n
  have knows : t.Knows n ↔ s.Knows n := by simp [granted.knows_iff]
  simp only [List.mem_filter, mem_freeNumbers, decide_eq_true_eq, soundAfter.offers_iff,
    sound.offers_iff, knows, granted.occupied_iff, not_or]
  constructor
  · rintro ⟨inRange, known, free, outside⟩
    exact ⟨⟨inRange, known, free⟩, by omega⟩
  · rintro ⟨⟨inRange, known, free⟩, outside⟩
    exact ⟨inRange, known, free, by omega⟩

/-- It leaves one window less in the runs. -/
theorem Granted.capacity_reused (sound : Sound s) (soundAfter : Sound t) (positive : 0 < size)
    {first : Int} {b : Binding} (lowest : IsLowestRun (s.Offers range) size first)
    (granted : Granted s owner now first (first + size - 1) [] b t) :
    t.capacity range size + 1 = s.capacity range size := by
  have knows (n : Int) : t.Knows n ↔ s.Knows n := by simp [granted.knows_iff]
  have lowestNumber : IsLowestRun (· ∈ (s.freePorts range).map (·.number)) size first := by
    simpa only [mem_freeNumbers] using lowest
  have removed := fit_remove (freeNumbers_ascending s range) positive lowestNumber
  rw [capacity_eq, capacity_eq, granted.freeNumbers_reused sound soundAfter,
    growthPoint_congr knows]
  omega

section Grown

variable {b : Binding} (granted : Granted s owner now (s.growthPoint range)
  (s.growthPoint range + size - 1) (freshRows s.nextPort (s.growthPoint range) size) b t)

include granted

theorem Granted.knows_grown {n : Int} : t.Knows n ↔
    s.Knows n ∨ s.growthPoint range ≤ n ∧ n < s.growthPoint range + size := by
  rw [granted.knows_iff, ← knows_fillPorts]
  simp only [Knows, rows_fillPorts_growthPoint, List.mem_append, or_and_right, exists_or]

/-- What the pool grows by is taken at once. -/
theorem Granted.offers_grown (sound : Sound s) (soundAfter : Sound t) {n : Int} :
    t.Offers range n ↔ s.Offers range n := by
  simp only [soundAfter.offers_iff, sound.offers_iff, granted.knows_grown, granted.occupied_iff,
    not_or]
  constructor
  · rintro ⟨inRange, known | new, free, outside⟩
    · exact ⟨inRange, known, free⟩
    · omega
  · rintro ⟨inRange, known, free⟩
    have := lt_growthPoint range known
    exact ⟨inRange, .inl known, free, by omega⟩

theorem Granted.growthPoint_grown (positive : 0 < size) :
    t.growthPoint range = s.growthPoint range + size := by
  have low := start_le_growthPoint s range
  apply Int.le_antisymm
  · refine growthPoint_le_iff.mpr ⟨by omega, ?_⟩
    intro n known
    rcases granted.knows_grown.mp known with old | new
    · have := lt_growthPoint range old
      omega
    · exact new.2
  · have highest : t.Knows (s.growthPoint range + size - 1) :=
      granted.knows_grown.mpr (.inr ⟨by omega, by omega⟩)
    have := lt_growthPoint range highest
    omega

/-- A span above everything known leaves less room there, and the runs as they are. -/
theorem Granted.capacity_grown (sound : Sound s) (soundAfter : Sound t) (positive : 0 < size)
    (room : s.growthPoint range + size ≤ range.stop) :
    t.capacity range size + 1 = s.capacity range size := by
  have same : (t.freePorts range).map (·.number) = (s.freePorts range).map (·.number) := by
    apply eq_of_ascending id (freeNumbers_ascending t range) (freeNumbers_ascending s range)
    intro n
    rw [mem_freeNumbers, mem_freeNumbers, granted.offers_grown sound soundAfter]
  have shorter : (range.stop - t.growthPoint range).toNat =
      (range.stop - s.growthPoint range).toNat - size := by
    rw [granted.growthPoint_grown positive]
    omega
  have enough : size ≤ (range.stop - s.growthPoint range).toNat := by omega
  rw [capacity_eq, capacity_eq, same, shorter, Nat.div_eq_sub_div positive enough]
  omega

end Grown

/-- A call takes the lowest run that is offered, or else grows the pool, or else is refused. -/
theorem Ready.reserveSpan_cases (ready : s.Ready owner) (positive : 0 < size)
    (range : PortRange) (now : Time.Instant) :
    (∃ first b t, IsLowestRun (s.Offers range) size first ∧
      s.reserveSpan range owner size now = .ok (b, t) ∧
      Granted s owner now first (first + size - 1) [] b t) ∨
    (∃ b t, (∀ first, ¬IsRun (s.Offers range) size first) ∧
      s.growthPoint range + size ≤ range.stop ∧
      s.reserveSpan range owner size now = .ok (b, t) ∧
      Granted s owner now (s.growthPoint range) (s.growthPoint range + size - 1)
        (freshRows s.nextPort (s.growthPoint range) size) b t) ∨
    ((∀ first, ¬IsRun (s.Offers range) size first) ∧
      range.stop < s.growthPoint range + size ∧ s.reserveSpan range owner size now =
        .error (.poolExhausted size range.start range.stop)) := by
  obtain ⟨sound, bounded, recalled⟩ := ready
  by_cases run : ∃ first, IsRun (s.Offers range) size first
  · obtain ⟨first, lowest⟩ := exists_isLowestRun positive run
    obtain ⟨b, t, answered, granted⟩ :=
      reserveSpan_reused_granted now sound positive recalled lowest
    exact .inl ⟨first, b, t, lowest, answered, granted⟩
  · have noRun := not_exists.mp run
    rw [reserveSpan_of_noRun positive recalled noRun]
    by_cases room : s.growthPoint range + size ≤ range.stop
    · obtain ⟨b, t, answered, granted⟩ :=
        grow_granted now sound bounded recalled.registered positive room
      exact .inr (.inl ⟨b, t, noRun, room, answered, granted⟩)
    · have noRoom := Int.not_le.mp room
      exact .inr (.inr ⟨noRun, noRoom, grow_eq_error bounded positive noRoom⟩)

/-- **Every call uses up room for one span, and is refused when there is none.** -/
theorem Ready.capacity_cases (ready : s.Ready owner) (positive : 0 < size) (range : PortRange)
    (now : Time.Instant) :
    (∃ b t, s.reserveSpan range owner size now = .ok (b, t) ∧ t.Ready owner ∧
      t.capacity range size + 1 = s.capacity range size) ∨
    (s.capacity range size = 0 ∧ s.reserveSpan range owner size now =
      .error (.poolExhausted size range.start range.stop)) := by
  rcases ready.reserveSpan_cases positive range now with
    ⟨first, b, t, lowest, answered, granted⟩ | ⟨b, t, noRun, room, answered, granted⟩ |
      ⟨noRun, noRoom, refused⟩
  · have readyAfter := ready.granted answered
    exact .inl ⟨b, t, answered, readyAfter,
      granted.capacity_reused ready.sound readyAfter.sound positive lowest⟩
  · have readyAfter := ready.granted answered
    exact .inl ⟨b, t, answered, readyAfter,
      granted.capacity_grown ready.sound readyAfter.sound positive room⟩
  · refine .inr ⟨?_, refused⟩
    have noWindow : fit size ((s.freePorts range).map (·.number)) = 0 := by
      apply fit_eq_zero (freeNumbers_ascending s range)
      simpa only [mem_freeNumbers] using noRun
    rw [capacity_eq, noWindow, Nat.zero_add]
    exact Nat.div_eq_of_lt (by omega)

/-- A span that is granted is a vacant run of the size asked for. -/
theorem Ready.granted_vacant (ready : s.Ready owner) (positive : 0 < size) {b : Binding}
    (answered : s.reserveSpan range owner size now = .ok (b, t)) :
    ∃ first created, IsRun (s.Vacant range) size first ∧
      Granted s owner now first (first + size - 1) created b t := by
  rcases ready.reserveSpan_cases positive range now with
    ⟨first, _, _, lowest, other, granted⟩ | ⟨_, _, -, room, other, granted⟩ | ⟨-, -, other⟩
  · cases answered.symm.trans other
    exact ⟨first, _, lowest.run.mono fun n => Offers.vacant ready.sound, granted⟩
  · cases answered.symm.trans other
    refine ⟨_, _, isRun_iff_forall.mpr ?_, granted⟩
    intro n low high
    exact vacant_of_growthPoint_le ready.sound low (by omega)
  · cases answered.symm.trans other

/-! ## Calls in a row -/

/-- What comes of calls in a row: the bindings that were granted, the fault of the call
that was refused, if one was, and the store at the end. -/
structure Haul where
  granted : List Binding
  refusal : Option Fault
  store : Store

/-- Reserve spans of one size, one call after the other, each at its instant, until one is
refused. -/
def haul (range : PortRange) (owner : String) (size : Nat) :
    List Time.Instant → Store → Haul
  | [], s => ⟨[], none, s⟩
  | now :: nows, s =>
    match s.reserveSpan range owner size now with
    | .error fault => ⟨[], some fault, s⟩
    | .ok (b, t) =>
      let others := haul range owner size nows t
      ⟨b :: others.granted, others.refusal, others.store⟩

theorem haul_of_ok {nows : List Time.Instant} {b : Binding}
    (granted : s.reserveSpan range owner size now = .ok (b, t)) :
    haul range owner size (now :: nows) s =
      ⟨b :: (haul range owner size nows t).granted, (haul range owner size nows t).refusal,
        (haul range owner size nows t).store⟩ := by
  simp only [haul, granted]

theorem haul_of_error {nows : List Time.Instant} {fault : Fault}
    (refused : s.reserveSpan range owner size now = .error fault) :
    haul range owner size (now :: nows) s = ⟨[], some fault, s⟩ := by
  simp only [haul, refused]

/-- As many calls are granted as there is room for, and what remains is room for the rest. -/
structure Packed (s : Store) (range : PortRange) (owner : String) (size : Nat)
    (nows : List Time.Instant) : Prop where
  granted : (haul range owner size nows s).granted.length =
    min nows.length (s.capacity range size)
  refusal : (haul range owner size nows s).refusal =
    if s.capacity range size < nows.length then
      some (.poolExhausted size range.start range.stop) else none
  remaining : (haul range owner size nows s).store.capacity range size =
    s.capacity range size - nows.length
  ready : (haul range owner size nows s).store.Ready owner

/-- **As many calls are granted as there is room for; the next one is refused.** -/
theorem Ready.packed (ready : s.Ready owner) (positive : 0 < size) (range : PortRange)
    (nows : List Time.Instant) : Packed s range owner size nows := by
  induction nows generalizing s with
  | nil => exact ⟨by simp [haul], by simp [haul], rfl, ready⟩
  | cons now nows ih =>
    rcases ready.capacity_cases positive range now with
      ⟨b, t, granted, readyAfter, used⟩ | ⟨none, refused⟩
    · have rest := ih readyAfter
      constructor
      · rw [haul_of_ok granted, List.length_cons, List.length_cons, rest.granted]
        omega
      · rw [haul_of_ok granted, List.length_cons, rest.refusal]
        simp only [← used, Nat.add_lt_add_iff_right]
      · rw [haul_of_ok granted, List.length_cons, rest.remaining]
        omega
      · rw [haul_of_ok granted]
        exact rest.ready
    · constructor
      · rw [haul_of_error refused, none, Nat.min_zero, List.length_nil]
      · rw [haul_of_error refused, none, List.length_cons, if_pos (Nat.succ_pos _)]
      · rw [haul_of_error refused, none, Nat.zero_sub]
      · rw [haul_of_error refused]
        exact ready

/-- With no run that is long enough, the spans follow each other from the growth point on. -/
theorem Ready.haul_of_noRun (ready : s.Ready owner) (positive : 0 < size)
    (noRun : ∀ first, ¬IsRun (s.Offers range) size first) (nows : List Time.Instant) {next : Nat}
    (isNext : s.growthPoint range = next) :
    (haul range owner size nows s).granted.map Binding.span =
      (List.range (min nows.length (s.capacity range size))).map fun i =>
        (next + i * size, next + i * size + size - 1) := by
  induction nows generalizing s next with
  | nil => simp [haul]
  | cons now nows ih =>
    rcases ready.reserveSpan_cases positive range now with
      ⟨first, _, _, lowest, -⟩ | ⟨b, t, -, room, answered, granted⟩ | ⟨-, -, refused⟩
    · exact absurd lowest.run (noRun first)
    · have readyAfter := ready.granted answered
      have used := granted.capacity_grown ready.sound readyAfter.sound positive room
      have isNextAfter : t.growthPoint range = (next + size : Nat) := by
        rw [granted.growthPoint_grown positive, isNext, Int.natCast_add]
      have noRunAfter (first : Int) : ¬IsRun (t.Offers range) size first := by
        intro run
        apply noRun first
        exact run.mono fun n => (granted.offers_grown ready.sound readyAfter.sound).mp
      have rest := ih readyAfter noRunAfter isNextAfter
      have starts := granted.starts
      have ends := granted.ends
      have count : min (now :: nows).length (s.capacity range size) =
          min nows.length (t.capacity range size) + 1 := by
        rw [List.length_cons]
        omega
      rw [haul_of_ok answered, count, List.range_succ_eq_map, List.map_cons, List.map_cons, rest,
        List.map_map]
      congr 1
      · rw [Binding.span]
        congr 1 <;> omega
      · apply List.map_congr_left
        intro i _
        rw [Function.comp_apply, Nat.succ_mul]
        congr 1 <;> omega
    · have none := (ready.packed positive range (now :: nows)).granted
      rw [haul_of_error refused] at none ⊢
      rw [← none]
      rfl

/-- **The law of packing.**  What comes of calls for spans of one size, made in a row until
one is refused. -/
structure PackingLaw (s : Store) (range : PortRange) (owner : String) (size : Nat) : Prop where
  /-- The free runs are made of what is offered. -/
  offered : (s.freeRuns range).flatten = (s.freePorts range).map (·.number)
  /-- None of them could be longer. -/
  maximal : ∀ run ∈ s.freeRuns range, ∃ first last, first ≤ last ∧ run = numbersFrom first last ∧
    (∀ n, first ≤ n → n ≤ last → s.Offers range n) ∧
    ¬s.Offers range (first - 1) ∧ ¬s.Offers range (last + 1)
  /-- As many calls are granted as there is room for. -/
  granted : 0 < size → s.Recalls owner → ∀ nows : List Time.Instant,
    (haul range owner size nows s).granted.length = min nows.length (s.capacity range size)
  /-- The next one finds the pool exhausted. -/
  refused : 0 < size → s.Recalls owner → ∀ nows : List Time.Instant,
    (haul range owner size nows s).refusal =
      if s.capacity range size < nows.length then
        some (.poolExhausted size range.start range.stop) else none
  /-- If no port is known, the spans follow each other from the start of the range on. -/
  fresh : 0 < size → s.Recalls owner → s.ports.rows = [] → ∀ nows : List Time.Instant,
    (haul range owner size nows s).granted.map Binding.span =
      (List.range (min nows.length ((range.stop - range.start) / size))).map fun i =>
        (range.start + i * size, range.start + i * size + size - 1)

theorem packingLaw (sound : Sound s) (bounded : s.Bounded) (range : PortRange) (owner : String)
    (size : Nat) : PackingLaw s range owner size where
  offered := List.flatten_splitBy ..
  maximal _ := exists_of_mem_freeRuns
  granted positive recalled nows :=
    (Ready.packed ⟨sound, bounded, recalled⟩ positive range nows).granted
  refused positive recalled nows :=
    (Ready.packed ⟨sound, bounded, recalled⟩ positive range nows).refusal
  fresh positive recalled unknown nows := by
    have isNext : s.growthPoint range = range.start := by
      rw [growthPoint, unknown]
      rfl
    have noRun (first : Int) : ¬IsRun (s.Offers range) size first := by
      intro run
      obtain ⟨r, member, -⟩ := (run 0 positive).knows
      rw [unknown] at member
      cases member
    have room : s.capacity range size = (range.stop - range.start) / size := by
      have width : (range.stop - s.growthPoint range).toNat = range.stop - range.start := by omega
      rw [capacity_eq, width, freePorts, unknown]
      exact Nat.zero_add _
    rw [← room]
    exact Ready.haul_of_noRun ⟨sound, bounded, recalled⟩ positive noRun nows isNext

end Store

/-- **Spans of one size are packed without waste.**  After every run, calls for spans of one
size by an instance that is recalled are granted exactly as often as the free runs and the
numbers above the growth point have room for, then the pool is exhausted.  After a run of
the service whoever joined is recalled. -/
theorem packing_law (steps : List Step) (range : PortRange) (owner : String) (size : Nat) :
    Store.PackingLaw (Store.empty.after steps) range owner size ∧
      ((∀ step ∈ steps, step.Served) → (Store.empty.after steps).Registered owner →
        (Store.empty.after steps).Recalls owner) :=
  ⟨Store.packingLaw (sound_after steps) (bounded_after steps) range owner size,
    fun served joined => recalls_after served joined⟩

/-- Ten numbers of which none is known have room for three spans of three. -/
example : Store.empty.capacity ⟨8000, 8010, by decide, by decide, by decide⟩ 3 = 3 := by decide

/-- Two of three ports were reserved and given back: they have room for one span of two, so that
the second call for one is refused.  A pool that knows no port yet has room for three spans of
one. -/
theorem packing_law_abc :
    let now := Time.Instant.ofUnix 0 0
    let s := Store.empty.after (oneJoined ++ Step.each ⟨threePorts, .optional⟩ now
      [.reserveSpan "abc" 2, .releasePort (.wrap 8000) none])
    s.Recalls "abc" ∧ s.freeRuns threePorts = [[8000, 8001]] ∧
      (Store.haul threePorts "abc" 2 [now, now] s).granted.length = 1 ∧
      (Store.haul threePorts "abc" 2 [now, now] s).refusal = some (.poolExhausted 2 8000 8003) ∧
      (Store.empty.after oneJoined).ports.rows = [] ∧
      (Store.haul threePorts "abc" 1 [now, now, now, now]
        (Store.empty.after oneJoined)).granted.map Binding.span =
          [(8000, 8000), (8001, 8001), (8002, 8002)] := by
  intro now s
  have recalled : s.Recalls "abc" := by
    simp only [s, after_append _ oneJoined]
    exact recalls_oneJoined.after _
  have free : (s.freePorts threePorts).map (·.number) = [8000, 8001] := by decide +kernel
  have runs : s.freeRuns threePorts = [[8000, 8001]] := by
    rw [Store.freeRuns, free]
    decide
  have room : s.capacity threePorts 2 = 1 := by
    rw [Store.capacity, runs]
    decide +kernel
  obtain ⟨law, -⟩ := packing_law (oneJoined ++ Step.each ⟨threePorts, .optional⟩ now
    [.reserveSpan "abc" 2, .releasePort (.wrap 8000) none]) threePorts "abc" 2
  have granted := law.granted (by decide) recalled [now, now]
  have refused := law.refused (by decide) recalled [now, now]
  have fresh := (packing_law oneJoined threePorts "abc" 1).1.fresh (by decide)
    recalls_oneJoined rfl [now, now, now, now]
  rw [room] at granted refused
  exact ⟨recalled, runs, granted, refused, rfl, fresh⟩

end PortPool
