/-
# PortPool.Proofs.Recording -- ports become known, and nothing else happens

Ports become known in two ways.  A host reports those in use on it, and of these the pool
records the ones in its range; or the pool is seeded with all of its range.  Both do the
same to the rows: each number that is new gets one, linked to nothing, and all else stays
(`Store.Records`).  For whoever reads the store that is a union of sets: the known numbers
and the new ones (`Store.Learns`).

So what is recorded matters only as a set of numbers.  A report may name them in any order
and as often as it likes (`observe_union`), and calls that record may follow each other in
any order: `records_after` says what comes of a list of them by the numbers alone, and then
a permutation of the list cannot matter (`seed_completes`).  Only the ids of new ports tell
the orders apart.
-/
import PortPool.Proofs.Lookup
import PortPool.Proofs.Runs

namespace PortPool

set_option autoImplicit false

/-! ## Requests that record -/

namespace Operation

/-- The request makes ports known. -/
def records : Operation → Bool
  | .observe _ | .seed => true
  | _ => false

end Operation

/-- The number is made known by the request of this step. -/
def Step.News (step : Step) (n : Int) : Prop :=
  match step.request with
  | .observe reported => Store.Observed step.settings.range reported n
  | .seed => step.settings.range.has n
  | _ => False

namespace Store

variable {s t u : Store} {range : PortRange} {news others : Int → Prop}

/-! ## What a reader of the store learns -/

/-- The links between bindings and ports, in the order of the ports: the id of the binding
and that of the port. -/
def links (s : Store) : List (Nat × Nat) :=
  s.ports.rows.flatMap fun r => r.holders.map fun h => (h, r.id)

/-- The known numbers, each with its flag, in ascending order. -/
def flags (s : Store) : List (Int × Bool) := s.ports.rows.map fun r => (r.number, s.isReserved r)

/-- Some numbers have become known, and nothing else has changed. -/
structure Learns (s : Store) (news : Int → Prop) (t : Store) : Prop where
  known : ∀ n, t.Knows n ↔ s.Knows n ∨ news n
  /-- A port that was known keeps its row, and its flag. -/
  kept : ∀ r ∈ s.ports.rows, r ∈ t.ports.rows ∧ t.isReserved r = s.isReserved r
  /-- A new one is free. -/
  free : ∀ r ∈ t.ports.rows, ¬s.Knows r.number → t.isReserved r = false
  links : t.links = s.links
  bindings : t.bindings = s.bindings
  instances : t.instances = s.instances

/-- Rows without links may be left out. -/
theorem links_eq_filter (s : Store) :
    s.links = (s.ports.rows.filter fun r => !r.holders.isEmpty).flatMap
      fun r => r.holders.map fun h => (h, r.id) := by
  unfold Store.links
  induction s.ports.rows with
  | nil => rfl
  | cons r rows ih =>
    rw [List.flatMap_cons, ih]
    cases none : r.holders with
    | nil => simp [none]
    | cons h hs => simp [none]

theorem mem_flags {p : Int × Bool} :
    p ∈ s.flags ↔ ∃ r ∈ s.ports.rows, r.number = p.1 ∧ s.isReserved r = p.2 := by
  obtain ⟨n, flag⟩ := p
  simp only [flags, List.mem_map, Prod.mk.injEq]

theorem flags_ascending (s : Store) : s.flags.Pairwise fun p q => p.1 < q.1 :=
  List.pairwise_map.mpr s.ports.ascending

namespace Records

/-- What only rows that were there pass, is passed by the same rows as before. -/
theorem filter_eq (recorded : Records s news t) {passes : PortRow → Bool}
    (others : ∀ r : PortRow, r.holders = [] → news r.number → passes r = false) :
    t.ports.rows.filter passes = s.ports.rows.filter passes := by
  refine eq_of_ascending (·.number) (t.ports.ascending.filter _) (s.ports.ascending.filter _)
    fun r => ?_
  simp only [List.mem_filter]
  refine and_congr_left fun passed => ⟨fun member => ?_, recorded.kept r⟩
  rcases recorded.added r member with old | ⟨unlinked, isNew, -⟩
  · exact old
  · rw [others r unlinked isNew] at passed
    cases passed

theorem links_eq (recorded : Records s news t) : t.links = s.links := by
  rw [links_eq_filter, recorded.filter_eq, ← links_eq_filter]
  intro r unlinked _
  rw [unlinked]
  rfl

/-- A new port is free. -/
theorem free (recorded : Records s news t) {r : PortRow} (member : r ∈ t.ports.rows)
    (unknown : ¬s.Knows r.number) : t.isReserved r = false := by
  rcases recorded.added r member with old | ⟨unlinked, -⟩
  · exact absurd ⟨r, old, rfl⟩ unknown
  · simp [isReserved, unlinked]

theorem learns (recorded : Records s news t) : s.Learns news t where
  known _ := recorded.knows_iff
  kept r member := ⟨recorded.kept r member, recorded.isReserved_eq r⟩
  free _ := recorded.free
  links := recorded.links_eq
  bindings := recorded.bindings
  instances := recorded.instances

theorem mem_flags_iff (recorded : Records s news t) {p : Int × Bool} :
    p ∈ t.flags ↔ p ∈ s.flags ∨ news p.1 ∧ ¬s.Knows p.1 ∧ p.2 = false := by
  rw [mem_flags, mem_flags]
  constructor
  · rintro ⟨r, member, numbered, flagged⟩
    rcases recorded.added r member with old | ⟨-, isNew, unknown⟩
    · exact .inl ⟨r, old, numbered, recorded.isReserved_eq r ▸ flagged⟩
    · rw [recorded.free member unknown] at flagged
      rw [numbered] at isNew unknown
      exact .inr ⟨isNew, unknown, flagged.symm⟩
  · rintro (⟨r, old, numbered, flagged⟩ | ⟨isNew, unknown, isFree⟩)
    · exact ⟨r, recorded.kept r old, numbered, (recorded.isReserved_eq r).trans flagged⟩
    · obtain ⟨r, member, numbered⟩ := recorded.known p.1 isNew
      refine ⟨r, member, numbered, ?_⟩
      rw [recorded.free member (numbered ▸ unknown), isFree]

/-- **What was known and what is new decide the flags.** -/
theorem flags_eq (recorded : Records s news t) (recordedToo : Records s others u)
    (same : ∀ n, news n ↔ others n) : t.flags = u.flags := by
  refine eq_of_ascending Prod.fst t.flags_ascending u.flags_ascending fun p => ?_
  rw [recorded.mem_flags_iff, recordedToo.mem_flags_iff, same]

end Records

/-! ## Ports that are looked up -/

theorem findPort_eq_ok_some {n : PortNumber} {p : Port} :
    s.findPort n = .ok (some p) ↔
      ∃ r ∈ s.ports.rows, r.number = n.val ∧ p = ⟨r.id, n, s.isReserved r⟩ := by
  have told {r : PortRow} (numbered : r.number = n.val) :
      (s.readPort r).map some = .ok (some p) ↔ p = ⟨r.id, n, s.isReserved r⟩ := by
    rw [readPort_of_number numbered, map_ok, Except.ok.injEq, Option.some.injEq, eq_comm]
  constructor
  · intro found
    unfold findPort at found
    split at found
    · cases found
    · rename_i r isRow
      obtain ⟨member, numbered⟩ := PortTable.find?_eq_some.mp isRow
      exact ⟨r, member, numbered, (told numbered).mp found⟩
  · rintro ⟨r, member, numbered, same⟩
    simp only [findPort, PortTable.find?_eq_some.mpr ⟨member, numbered⟩]
    exact (told numbered).mpr same

theorem number_of_findPort {n : PortNumber} {p : Port} (found : s.findPort n = .ok (some p)) :
    p.number = n := by
  obtain ⟨r, -, -, rfl⟩ := findPort_eq_ok_some.mp found
  rfl

/-- A port that is known is told as before. -/
theorem Records.findPort (recorded : Records s news t) {n : PortNumber} {p : Port}
    (found : s.findPort n = .ok (some p)) : t.findPort n = .ok (some p) := by
  obtain ⟨r, member, numbered, told⟩ := findPort_eq_ok_some.mp found
  refine findPort_eq_ok_some.mpr ⟨r, recorded.kept r member, numbered, ?_⟩
  rw [recorded.isReserved_eq, told]

/-! ## Reports -/

/-- The numbers of a report that are recorded, in this order. -/
def observed (range : PortRange) (reported : List PortNumber) : List PortNumber :=
  (ascending ((reported.filter fun n => range.has n.val).map (·.val))).map
    fun (n : Nat) => PortNumber.wrap (n : Int)

theorem observed_ascending (range : PortRange) (reported : List PortNumber) :
    (observed range reported).Pairwise (· < ·) := by
  rw [observed, List.pairwise_map]
  refine (pairwise_ascending _).imp_of_mem fun {a b} ma mb below => ?_
  have number {k : Nat} (member : k ∈ ascending ((reported.filter fun n => range.has n.val).map
      (·.val))) : (PortNumber.wrap k).val = k := by
    obtain ⟨n, -, rfl⟩ := List.mem_map.mp (mem_ascending.mp member)
    have := PortNumber.wrap_val (i := (n.val : Int)) (by omega) (by omega)
    omega
  rw [Fin.lt_def, number ma, number mb]
  exact below

/-- Which numbers are recorded depends on the set of those reported. -/
theorem observed_congr {reported others : List PortNumber}
    (same : ∀ n : PortNumber, range.has n.val → (n ∈ others ↔ n ∈ reported)) :
    observed range others = observed range reported := by
  have increasing (l : List PortNumber) :
      (observed range l).Pairwise fun a b => (a.val : Int) < b.val :=
    (observed_ascending range l).imp fun below => by
      have := Fin.lt_def.mp below
      omega
  refine eq_of_ascending (fun n => (n.val : Int)) (increasing others) (increasing reported)
    fun n => ?_
  exact mem_observed.trans ((and_congr_left fun inRange => same n inRange).trans mem_observed.symm)

/-- Each number is answered by its port, as the store shows it in the end. -/
theorem recordEach_found {numbers : List PortNumber} {ports : List Port}
    (done : recordEach numbers s = .ok (ports, t)) :
    ports.map (·.number) = numbers ∧ ∀ p ∈ ports, t.findPort p.number = .ok (some p) := by
  induction numbers generalizing s ports with
  | nil =>
    cases done
    exact ⟨rfl, nofun⟩
  | cons n numbers ih =>
    simp only [recordEach, bind_eq_ok] at done
    obtain ⟨_ | p, first, done⟩ := done
    · cases done
    · obtain ⟨⟨rest, u⟩, others, same⟩ := bind_eq_ok.mp done
      cases same
      obtain ⟨numbered, found⟩ := ih others
      -- the port stays as it was found, whatever is recorded after it
      obtain ⟨_, _, again, recorded⟩ := recordEach_records numbers
        (if (s.ports.find? n.val).isSome then s else s.fillPorts n.val 1)
      cases others.symm.trans again
      have isNumber : p.number = n := number_of_findPort first
      refine ⟨by rw [List.map_cons, isNumber, numbered], List.forall_mem_cons.mpr ⟨?_, found⟩⟩
      rw [isNumber]
      exact recorded.findPort first

/-- Where all is known, nothing is recorded. -/
theorem recordEach_of_found {ports : List Port}
    (found : ∀ p ∈ ports, t.findPort p.number = .ok (some p)) :
    recordEach (ports.map (·.number)) t = .ok (ports, t) := by
  induction ports with
  | nil => rfl
  | cons p ports ih =>
    obtain ⟨first, rest⟩ := List.forall_mem_cons.mp found
    obtain ⟨r, member, numbered, -⟩ := findPort_eq_ok_some.mp first
    have present : (t.ports.find? p.number.val).isSome :=
      PortTable.isSome_find?.mpr ⟨r, member, numbered⟩
    simp only [List.map_cons, recordEach, present, if_true, first, bind_ok, ih rest, pure_eq_ok]

/-- **The law of reports.**  What comes of a report that some numbers are in use. -/
structure ReportLaw (s : Store) (range : PortRange) (reported : List PortNumber)
    (ports : List Port) (t : Store) : Prop where
  /-- The numbers that lie in the range are answered, each once and in ascending order. -/
  ascending : ports.Pairwise (·.number < ·.number)
  listed : ∀ n, (∃ p ∈ ports, p.number = n) ↔ n ∈ reported ∧ range.has n.val
  /-- One that was known has the id and the flag that it had, and one that is new is free. -/
  old : ∀ p ∈ ports, ∀ r ∈ s.ports.rows, r.number = p.number.val →
    p.id = r.id ∧ p.reserved = s.isReserved r
  new : ∀ p ∈ ports, ¬s.Knows p.number.val → p.reserved = false
  /-- All of them are known from then on, and nothing else has changed. -/
  learns : s.Learns (Observed range reported) t
  found : ∀ p ∈ ports, t.findPort p.number = .ok (some p)
  /-- The same report once more gives the same answer and changes nothing. -/
  again : t.observe range reported = .ok (ports, t)

theorem reportLaw {reported : List PortNumber} {ports : List Port}
    (done : s.observe range reported = .ok (ports, t)) :
    s.ReportLaw range reported ports t := by
  obtain ⟨_, _, other, recorded⟩ := observe_records s range reported
  cases done.symm.trans other
  obtain ⟨numbers, found⟩ : ports.map (·.number) = observed range reported ∧ _ :=
    recordEach_found done
  exact {
    ascending := by
      have sorted := observed_ascending range reported
      rwa [← numbers, List.pairwise_map] at sorted
    listed := fun n => by
      rw [← List.mem_map, numbers]
      exact mem_observed
    old := fun p member r known same => by
      obtain ⟨q, mq, numbered, told⟩ := findPort_eq_ok_some.mp (found p member)
      obtain rfl := PortTable.eq_of_number_eq (recorded.kept r known) mq (same.trans numbered.symm)
      rw [told]
      exact ⟨rfl, recorded.isReserved_eq r⟩
    new := fun p member unknown => by
      obtain ⟨q, mq, numbered, told⟩ := findPort_eq_ok_some.mp (found p member)
      rw [told]
      exact recorded.learns.free q mq (numbered ▸ unknown)
    learns := recorded.learns
    found := found
    again := by
      have again := recordEach_of_found found
      rwa [numbers] at again }

/-! ## Seeding -/

theorem seed_records (s : Store) (range : PortRange) :
    Records s (fun n => range.has n) (s.seed range).2 := by
  refine (fillPorts_records s range.start range.size).congr fun n => ?_
  have := range.start_lt_stop
  simp only [PortRange.has, PortRange.size, Bool.and_eq_true, decide_eq_true_eq]
  omega

/-- How many ports of the range are known. -/
def knownIn (s : Store) (range : PortRange) : Nat :=
  s.ports.rows.countP fun r => range.has r.number

/-- If all of them are, there is one port for each number of the range. -/
theorem knownIn_of_known (known : ∀ n, range.has n → s.Knows n) :
    s.knownIn range = range.size := by
  have numbers : (s.ports.rows.filter fun r => range.has r.number).map (·.number) =
      numbersFrom range.start (range.stop - 1) := by
    refine eq_of_ascending id (List.pairwise_map.mpr (s.ports.ascending.filter _))
      (numbersFrom_ascending ..) fun n => ?_
    have within : n ∈ numbersFrom range.start (range.stop - 1) ↔ range.has n := by
      simp only [mem_numbersFrom, PortRange.has, Bool.and_eq_true, decide_eq_true_eq,
        Int.le_sub_one_iff]
    rw [within, List.mem_map]
    constructor
    · rintro ⟨r, member, rfl⟩
      exact (List.mem_filter.mp member).2
    · intro inRange
      obtain ⟨r, member, rfl⟩ := known n inRange
      exact ⟨r, List.mem_filter.mpr ⟨member, inRange⟩, rfl⟩
  have counted := congrArg List.length numbers
  rw [List.length_map, length_numbersFrom] at counted
  rw [knownIn, List.countP_eq_length_filter, counted, PortRange.size]
  omega

/-- The rows outside of the range stay, and inside there is one for each number. -/
theorem length_seed (s : Store) (range : PortRange) :
    (s.seed range).2.ports.rows.length + s.knownIn range =
      s.ports.rows.length + range.size := by
  have recorded := seed_records s range
  have complete := knownIn_of_known recorded.known
  generalize (s.seed range).2 = t at recorded complete ⊢
  have outside : (t.ports.rows.filter fun r => !range.has r.number) =
      s.ports.rows.filter fun r => !range.has r.number :=
    recorded.filter_eq fun r _ isNew => by rw [isNew, Bool.not_true]
  have parts := List.length_eq_length_filter_add (l := t.ports.rows) fun r => range.has r.number
  have partsToo := List.length_eq_length_filter_add (l := s.ports.rows) fun r => range.has r.number
  rw [outside] at parts
  rw [knownIn, List.countP_eq_length_filter] at complete ⊢
  omega

theorem seed_of_known (known : ∀ n, range.has n → s.Knows n) : (s.seed range).2.ports = s.ports := by
  apply PortTable.ext_mem
  intro r
  have recorded := seed_records s range
  refine ⟨fun member => ?_, recorded.kept r⟩
  rcases recorded.added r member with old | ⟨-, isNew, unknown⟩
  · exact old
  · exact absurd (known _ isNew) unknown

/-- **The law of seeding.**  What comes of seeding a range. -/
structure SeedLaw (s : Store) (range : PortRange) (count : Nat) (t : Store) : Prop where
  /-- It answers how many numbers of the range were not known. -/
  counted : count + s.knownIn range = range.size
  /-- All numbers of the range are known from then on, and nothing else has changed. -/
  learns : s.Learns (fun n => range.has n) t
  /-- Once more, there is nothing new, and the rows stay as they are. -/
  again : ∃ u, t.seed range = (0, u) ∧ u.ports = t.ports ∧ u.bindings = t.bindings ∧
    u.instances = t.instances

theorem seedLaw (s : Store) (range : PortRange) :
    s.SeedLaw range (s.seed range).1 (s.seed range).2 where
  counted := by
    have whole := length_seed s range
    have more := length_le_fillPorts s range.start range.size
    simp only [seed] at whole ⊢
    omega
  learns := (seed_records s range).learns
  again := by
    have same : ((s.seed range).2.seed range).2.ports = (s.seed range).2.ports :=
      seed_of_known (seed_records s range).known
    refine ⟨((s.seed range).2.seed range).2, Prod.ext ?_ rfl, same, rfl, rfl⟩
    show ((s.seed range).2.seed range).2.ports.rows.length - _ = 0
    rw [same, Nat.sub_self]

end Store

/-! ## Calls in any order -/

open Operation (changing)

/-- A call that records is granted, whatever store it meets. -/
theorem Step.records_perform {step : Step} (asks : step.request.records) (s : Store) :
    ∃ answer t, step.request.perform step.settings step.now s = .ok (answer, t) ∧
      Store.Records s step.News t := by
  obtain ⟨settings, now, request⟩ := step
  cases request with
  | observe reported =>
    obtain ⟨ports, t, done, recorded⟩ := Store.observe_records s settings.range reported
    exact ⟨.ports ports, t, by simp only [Operation.perform, changing, done, map_ok], recorded⟩
  | seed => exact ⟨_, _, rfl, Store.seed_records s settings.range⟩
  | _ => cases asks

/-- **What calls that record make known**, whatever their order. -/
theorem records_after {steps : List Step} (asks : ∀ step ∈ steps, step.request.records)
    (s : Store) : Store.Records s (fun n => ∃ step ∈ steps, step.News n) (s.after steps) := by
  induction steps generalizing s with
  | nil => exact (Store.Records.refl s).congr (by simp)
  | cons step steps ih =>
    obtain ⟨first, rest⟩ := List.forall_mem_cons.mp asks
    obtain ⟨answer, t, performed, recorded⟩ := step.records_perform first s
    have next : step.request.next step.settings step.now s = t := by
      rw [Operation.next, performed]
    rw [after_cons, next]
    exact (recorded.trans (ih rest t)).congr (by simp)

/-- **A report is a union of sets.**  It is granted in every store, obeys the law of
reports, and may as well name the numbers in another order or several times. -/
theorem observe_union (s : Store) (range : PortRange) (reported : List PortNumber) :
    ∃ ports t, s.observe range reported = .ok (ports, t) ∧ s.ReportLaw range reported ports t ∧
      ∀ others : List PortNumber,
        (∀ n : PortNumber, range.has n.val → (n ∈ others ↔ n ∈ reported)) →
          s.observe range others = .ok (ports, t) := by
  obtain ⟨ports, t, done, -⟩ := Store.observe_records s range reported
  refine ⟨ports, t, done, Store.reportLaw done, fun others same => ?_⟩
  have numbers : Store.observed range others = Store.observed range reported :=
    Store.observed_congr same
  show Store.recordEach (Store.observed range others) s = _
  rw [numbers]
  exact done

/-- **Seeding completes the range and does nothing else.**  It obeys the law of seeding in
every store; and calls that record, which are always granted, leave the same flags behind
in whatever order they come. -/
theorem seed_completes (s : Store) (range : PortRange) :
    s.SeedLaw range (s.seed range).1 (s.seed range).2 ∧
      ∀ steps others : List Step, (∀ step ∈ steps, step.request.records) → steps.Perm others →
        (∀ step ∈ steps, ∀ t : Store, ∃ answer u,
          step.request.perform step.settings step.now t = .ok (answer, u)) ∧
        (s.after steps).flags = (s.after others).flags := by
  refine ⟨Store.seedLaw s range, fun steps others asks perm => ⟨fun step among t => ?_, ?_⟩⟩
  · obtain ⟨answer, u, performed, -⟩ := step.records_perform (asks step among) t
    exact ⟨answer, u, performed⟩
  · have asksToo : ∀ step ∈ others, step.request.records := fun step among =>
      asks step (perm.mem_iff.mpr among)
    exact (records_after asks s).flags_eq (records_after asksToo s) fun n =>
      exists_congr fun step => and_congr_left fun _ => perm.mem_iff

/-- The order of two calls shows in the ids. -/
example :
    let ids (calls : List Operation) := (Store.empty.after (Step.each ⟨threePorts, .optional⟩
      (Time.Instant.ofUnix 0 0) calls)).ports.rows.map (·.id)
    ids [.observe [.wrap 8002], .seed] = [2, 3, 1] ∧
      ids [.seed, .observe [.wrap 8002]] = [1, 2, 3] := by
  decide +kernel

end PortPool
