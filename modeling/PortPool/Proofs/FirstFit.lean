/-
# PortPool.Proofs.FirstFit -- a seeded pool is a first-fit allocator

Once a pool was seeded it knows every number of its range, and no later request under
the same settings takes that away.  Then the growth point lies behind the range, so
growth never helps, and what the pool offers is exactly what is vacant: where ports
were recorded before, and in which order, does not matter any more.

`FirstFit` is an allocator that remembers nothing but the set of numbers that are
taken.  A run of the service makes demands on it (`Turn.demand?`): a reservation takes
as many numbers as it was admitted for, a release gives its span back.  Each turn is
one step of that allocator (`Turn.serve_take`), so a whole run gets the same spans
and the same faults from both (`seeded_firstFit`).
-/
import Mathlib.Data.Finset.Dedup
import Mathlib.Data.Finset.Lattice.Basic
import Mathlib.Data.Finset.SDiff
import Mathlib.Data.Finset.Filter
import PortPool.Proofs.Exhaustion
import PortPool.Proofs.Turn

namespace PortPool

set_option autoImplicit false

/-! ## The allocator -/

/-- What is asked of an allocator of numbers.  A request that was not admitted brings
its fault along. -/
inductive Demand where
  | take (admitted : Except Fault Nat)
  | giveBack (first last : Int)

namespace FirstFit

/-- The numbers of a span. -/
def span (first last : Int) : Finset Int := (numbersFrom first last).toFinset

@[simp] theorem mem_span {first last n : Int} : n ∈ span first last ↔ first ≤ n ∧ n ≤ last := by
  rw [span, List.mem_toFinset, mem_numbersFrom]

/-- The number is in the range and not taken. -/
def Free (range : PortRange) (taken : Finset Int) (n : Int) : Prop := range.has n ∧ n ∉ taken

instance (range : PortRange) (taken : Finset Int) : DecidablePred (Free range taken) := fun n =>
  inferInstanceAs (Decidable (range.has n ∧ n ∉ taken))

/-- Where the first run of free numbers starts. -/
def find? (range : PortRange) (taken : Finset Int) (size : Nat) : Option Int :=
  (numbersFrom range.start (range.stop - 1)).find? fun first =>
    decide (IsRun (Free range taken) size first)

/-- The first and the last number granted, or the fault, if an answer is due, and the
numbers that are taken then. -/
def serve (range : PortRange) (taken : Finset Int) :
    Demand → Option (Except Fault (Int × Int)) × Finset Int
  | .take (.error fault) => (some (.error fault), taken)
  | .take (.ok size) =>
    match find? range taken size with
    | some first =>
      (some (.ok (first, first + size - 1)), taken ∪ span first (first + size - 1))
    | none => (some (.error (.poolExhausted size range.start range.stop)), taken)
  | .giveBack first last => (none, taken \ span first last)

/-- The answers to some demands, one after the other, and the numbers taken in the end. -/
def run (range : PortRange) (taken : Finset Int) :
    List Demand → List (Except Fault (Int × Int)) × Finset Int
  | [] => ([], taken)
  | demand :: demands =>
    let (answer, taken) := serve range taken demand
    let (answers, taken) := run range taken demands
    (answer.toList ++ answers, taken)

variable {range : PortRange} {taken : Finset Int} {size : Nat}

theorem mem_of_isRun (positive : 0 < size) {first : Int}
    (isRun : IsRun (Free range taken) size first) :
    first ∈ numbersFrom range.start (range.stop - 1) := by
  have inRange := (isRun_iff_forall.mp isRun first (Int.le_refl _) (by omega)).1
  simp only [PortRange.has, Bool.and_eq_true, decide_eq_true_eq] at inRange
  exact mem_numbersFrom.mpr ⟨inRange.1, by omega⟩

/-- The run found is the lowest. -/
theorem isLowestRun_of_find? (positive : 0 < size) {first : Int}
    (found : find? range taken size = some first) :
    IsLowestRun (Free range taken) size first := by
  obtain ⟨isRun, before, after, same, skipped⟩ := List.find?_eq_some_iff_append.mp found
  refine ⟨of_decide_eq_true isRun, fun other below otherRun => ?_⟩
  have sorted := numbersFrom_ascending range.start (range.stop - 1)
  have member := mem_of_isRun positive otherRun
  rw [same] at sorted member
  obtain ⟨-, later, -⟩ := List.pairwise_append.mp sorted
  rcases List.mem_append.mp member with earlier | atOrAfter
  · simpa [otherRun] using skipped other earlier
  · rcases List.mem_cons.mp atOrAfter with rfl | behind
    · omega
    · have := (List.pairwise_cons.mp later).1 other behind
      omega

theorem not_isRun_of_find? (positive : 0 < size) (missing : find? range taken size = none)
    (first : Int) : ¬IsRun (Free range taken) size first := by
  intro isRun
  have := List.find?_eq_none.mp missing first (mem_of_isRun positive isRun)
  simp [isRun] at this

theorem find?_eq_some_iff (positive : 0 < size) {first : Int} :
    find? range taken size = some first ↔ IsLowestRun (Free range taken) size first := by
  constructor
  · exact isLowestRun_of_find? positive
  · intro lowest
    cases found : find? range taken size with
    | none => exact absurd lowest.run (not_isRun_of_find? positive found first)
    | some other =>
      have otherLowest := isLowestRun_of_find? positive found
      rcases Int.lt_trichotomy first other with below | same | above
      · exact absurd lowest.run (otherLowest.lowest first below)
      · rw [same]
      · exact absurd otherLowest.run (lowest.lowest other above)

theorem find?_eq_none_iff (positive : 0 < size) :
    find? range taken size = none ↔ ∀ first, ¬IsRun (Free range taken) size first := by
  constructor
  · exact not_isRun_of_find? positive
  · intro noRun
    cases found : find? range taken size with
    | none => rfl
    | some first => exact absurd (isLowestRun_of_find? positive found).run (noRun first)

end FirstFit

/-! ## Seeded stores -/

namespace Store

/-- Every number of the range is known. -/
def Seeded (s : Store) (range : PortRange) : Prop := ∀ n, range.has n → s.Knows n

/-- The numbers of the range that are in active spans. -/
def taken (s : Store) (range : PortRange) : Finset Int :=
  (FirstFit.span range.start (range.stop - 1)).filter s.Occupied

variable {s t : Store} {range : PortRange} {owner : String} {now : Time.Instant} {size : Nat}

theorem mem_taken {n : Int} : n ∈ s.taken range ↔ range.has n ∧ s.Occupied n := by
  simp only [taken, Finset.mem_filter, FirstFit.mem_span, PortRange.has, Bool.and_eq_true,
    decide_eq_true_eq, Int.le_sub_one_iff]

/-- What is free to the allocator is what is vacant. -/
theorem free_taken_eq : FirstFit.Free range (s.taken range) = s.Vacant range := by
  funext n
  apply propext
  simp only [FirstFit.Free, mem_taken, Vacant, not_and]
  constructor
  · rintro ⟨inRange, free⟩
    exact ⟨inRange, free inRange⟩
  · rintro ⟨inRange, free⟩
    exact ⟨inRange, fun _ => free⟩

theorem seeded_seed (s : Store) (range : PortRange) : (s.seed range).2.Seeded range := by
  intro n inRange
  refine knows_fillPorts.mpr (.inr ?_)
  simp only [PortRange.has, PortRange.size, Bool.and_eq_true, decide_eq_true_eq] at *
  omega

/-- No move forgets a number. -/
theorem Seeded.move {joins : NewInstance → Prop} {other : PortRange} (seeded : s.Seeded range)
    (moved : Move joins other now s t) : t.Seeded range := by
  intro n inRange
  have known := seeded n inRange
  cases moved with
  | join => exact known
  | record => exact knows_fillPorts.mpr (.inl known)
  | bind => exact Sound.knows_bound.mpr known
  | release => exact known

theorem Seeded.after (seeded : s.Seeded range) (steps : List Step) :
    (s.after steps).Seeded range :=
  after_induction (P := (Store.Seeded · range)) steps seeded
    fun _ _ _ _ moved seeded => seeded.move moved

/-- What a seeded pool offers is what is vacant. -/
theorem Seeded.offers_eq (seeded : s.Seeded range) (sound : Sound s) :
    s.Offers range = s.Vacant range := by
  funext n
  apply propext
  constructor
  · exact Offers.vacant sound
  · rintro ⟨inRange, free⟩
    exact sound.offers_iff.mpr ⟨inRange, seeded n inRange, free⟩

/-- A seeded pool has no room to grow. -/
theorem Seeded.stop_le_growthPoint (seeded : s.Seeded range) :
    (range.stop : Int) ≤ s.growthPoint range := by
  have := range.start_lt_stop
  have last : range.has (range.stop - 1) := by
    simp only [PortRange.has, Bool.and_eq_true, decide_eq_true_eq]
    omega
  have := lt_growthPoint range (seeded _ last)
  omega

/-- **A seeded pool grants the lowest vacant run, or is exhausted.** -/
theorem Seeded.reserveSpan_cases (seeded : s.Seeded range) (sound : Sound s)
    (bounded : s.Bounded) (now : Time.Instant) (positive : 0 < size)
    (recalled : s.Recalls owner) :
    (∃ first b t, IsLowestRun (s.Vacant range) size first ∧
      s.reserveSpan range owner size now = .ok (b, t) ∧
      Granted s owner now first (first + size - 1) [] b t) ∨
    ((∀ first, ¬IsRun (s.Vacant range) size first) ∧
      s.reserveSpan range owner size now =
        .error (.poolExhausted size range.start range.stop)) := by
  have offers := seeded.offers_eq sound
  by_cases run : ∃ first, IsRun (s.Offers range) size first
  · obtain ⟨first, lowest⟩ := exists_isLowestRun positive run
    obtain ⟨b, t, granted, effect⟩ :=
      reserveSpan_reused_granted now sound positive recalled lowest
    rw [offers] at lowest
    exact .inl ⟨first, b, t, lowest, granted, effect⟩
  · have noRun := not_exists.mp run
    have noRoom := seeded.stop_le_growthPoint
    right
    rw [reserveSpan_of_noRun positive recalled noRun]
    rw [offers] at noRun
    exact ⟨noRun, grow_eq_error bounded positive (by omega)⟩

end Store

/-! ## Taken numbers -/

namespace Store

variable {s t : Store} {range : PortRange} {now : Time.Instant} {b : Binding}

theorem Reserved.taken_eq (reserved : s.Reserved now b t)
    (inRange : ∀ n : Int, b.first.val ≤ n → n ≤ b.last.val → range.has n) :
    t.taken range = s.taken range ∪ FirstFit.span b.first.val b.last.val := by
  ext n
  simp only [mem_taken, reserved.occupied_iff, Finset.mem_union, FirstFit.mem_span]
  constructor
  · rintro ⟨within, occupied | span⟩
    · exact .inl ⟨within, occupied⟩
    · exact .inr span
  · rintro (⟨within, occupied⟩ | span)
    · exact ⟨within, .inl occupied⟩
    · exact ⟨inRange n span.1 span.2, .inr span⟩

theorem Ended.taken_eq (sound : Sound s) {ownership : Ownership} {named : Option String}
    {row : BindingRow} (ended : s.Ended ownership named now row b t) :
    t.taken range = s.taken range \ FirstFit.span b.first.val b.last.val := by
  ext n
  simp only [mem_taken, ended.occupied_iff sound, Finset.mem_sdiff, FirstFit.mem_span, and_assoc]

theorem taken_congr (bindings : t.bindings = s.bindings) : t.taken range = s.taken range := by
  ext n
  simp only [mem_taken, Occupied, bindings]

/-- The lowest run of free numbers is where the lowest vacant run is. -/
theorem find?_taken_eq_some {size : Nat} {first : Int} (positive : 0 < size)
    (lowest : IsLowestRun (s.Vacant range) size first) :
    FirstFit.find? range (s.taken range) size = some first := by
  rw [FirstFit.find?_eq_some_iff positive, free_taken_eq]
  exact lowest

theorem find?_taken_eq_none {size : Nat} (positive : 0 < size)
    (noRun : ∀ first, ¬IsRun (s.Vacant range) size first) :
    FirstFit.find? range (s.taken range) size = none := by
  rw [FirstFit.find?_eq_none_iff positive, free_taken_eq]
  exact noRun

end Store

/-! ## Requests as demands -/

namespace Operation

/-- The instance that asks for ports, and the size that is asked for if it is one. -/
def asks? : Operation → Option (String × Except Fault Nat)
  | .reserve owner none => some (owner, .ok 1)
  | .reserve owner (some n) =>
    some (owner,
      if n < 1 then .error (.invalidRequest (.sizeNotPositive n))
      else if UInt32.size ≤ n then .error (.invalidRequest (.sizeTooLarge n))
      else .ok n.toNat)
  | .reserveSpan owner size =>
    some (owner, if size = 0 then .error (.invalidRequest .sizeZero) else .ok size)
  | .reserveOne owner => some (owner, .ok 1)
  | _ => none

variable {request : Operation} {owner : String} {asked : Except Fault Nat}

theorem reserves_eq_isSome_asks? : request.reserves = request.asks?.isSome := by
  cases request with
  | reserve owner size => cases size <;> rfl
  | _ => rfl

theorem asked_pos (asks : request.asks? = some (owner, asked)) {size : Nat}
    (admitted : asked = .ok size) : 0 < size := by
  cases request with
  | reserve _ n =>
    cases n with
    | none =>
      cases asks
      cases admitted
      exact Nat.one_pos
    | some n =>
      cases asks
      split at admitted
      · cases admitted
      · split at admitted
        · cases admitted
        · cases admitted
          omega
  | reserveSpan _ n =>
    cases asks
    split at admitted
    · cases admitted
    · cases admitted
      omega
  | reserveOne =>
    cases asks
    cases admitted
    exact Nat.one_pos
  | _ => cases asks

/-- All requests for ports reserve a span of the size asked for. -/
theorem perform_of_asks? {settings : Settings} {now : Time.Instant} {s : Store}
    (asks : request.asks? = some (owner, asked)) :
    request.perform settings now s =
      changing .binding (asked >>= fun size => s.reserveSpan settings.range owner size now) := by
  cases request with
  | reserve _ n =>
    cases n with
    | none =>
      cases asks
      simp only [perform, bind_ok, ← Store.reserveOne_eq_reserveSpan]
      rfl
    | some n =>
      cases asks
      by_cases one : n = 1
      · subst one
        simp only [perform, Store.reserve, if_true, Store.reserveOne_eq_reserveSpan]
        rfl
      · simp only [perform, Store.reserve, if_neg one]
        split
        · rfl
        · split <;> rfl
  | reserveSpan _ n =>
    cases asks
    by_cases zero : n = 0
    · subst zero
      rfl
    · simp only [perform, if_neg zero, bind_ok]
  | reserveOne =>
    cases asks
    simp only [perform, bind_ok, Store.reserveOne_eq_reserveSpan]
  | _ => cases asks

end Operation

namespace Store

/-- The size that is granted if there is room: the one asked for, for an instance that is
recalled. -/
def admission (s : Store) (owner : String) (asked : Except Fault Nat) : Except Fault Nat := do
  let size ← asked
  let _ ← s.getInstance owner
  pure size

variable {s : Store} {owner : String} {asked : Except Fault Nat} {size : Nat}

theorem admission_eq_ok :
    s.admission owner asked = .ok size ↔ asked = .ok size ∧ s.Recalls owner := by
  simp only [admission, bind_eq_ok, pure_eq_ok, Recalls, Except.ok.injEq]
  constructor
  · rintro ⟨n, isOk, i, found, rfl⟩
    exact ⟨isOk, i, found⟩
  · rintro ⟨isOk, i, found⟩
    exact ⟨size, isOk, i, found, rfl⟩

/-- A request that is not admitted fails with the same fault. -/
theorem reserve_eq_error_of_admission (range : PortRange) (now : Time.Instant) {fault : Fault}
    (positive : ∀ size, asked = .ok size → 0 < size)
    (refused : s.admission owner asked = .error fault) :
    (asked >>= fun size => s.reserveSpan range owner size now) = .error fault := by
  cases asked with
  | error other =>
    cases refused
    rfl
  | ok size =>
    have failed : s.getInstance owner = .error fault := by
      cases found : s.getInstance owner with
      | ok i =>
        rw [admission, bind_ok, found] at refused
        cases refused
      | error other =>
        rw [admission, bind_ok, found] at refused
        cases refused
        rfl
    exact reserveSpan_of_getInstance_error (positive size rfl) failed

/-- What comes of a request for ports in a seeded pool. -/
theorem Seeded.perform_cases (settings : Settings) (seeded : s.Seeded settings.range)
    (sound : Sound s) (bounded : s.Bounded) (now : Time.Instant) {request : Operation}
    (asks : request.asks? = some (owner, asked)) :
    (∃ fault, s.admission owner asked = .error fault ∧
      request.perform settings now s = .error fault) ∨
    (∃ size first b t, s.admission owner asked = .ok size ∧ 0 < size ∧
      IsLowestRun (s.Vacant settings.range) size first ∧
      request.perform settings now s = .ok (.binding b, t) ∧ s.Reserved now b t ∧
      Granted s owner now first (first + size - 1) [] b t) ∨
    (∃ size, s.admission owner asked = .ok size ∧ 0 < size ∧
      (∀ first, ¬IsRun (s.Vacant settings.range) size first) ∧
      request.perform settings now s =
        .error (.poolExhausted size settings.range.start settings.range.stop)) := by
  rw [Operation.perform_of_asks? asks]
  cases admitted : s.admission owner asked with
  | error fault =>
    rw [reserve_eq_error_of_admission _ _ (fun _ => Operation.asked_pos asks) admitted]
    exact .inl ⟨fault, rfl, rfl⟩
  | ok size =>
    obtain ⟨isOk, recalled⟩ := admission_eq_ok.mp admitted
    have positive := Operation.asked_pos asks isOk
    rw [isOk, bind_ok]
    rcases seeded.reserveSpan_cases sound bounded now positive recalled with
      ⟨first, b, t, lowest, granted, effect⟩ | ⟨noRun, failed⟩
    · have reserved := reserveSpan_reserved granted
      rw [granted]
      exact .inr (.inl ⟨size, first, b, t, rfl, positive, lowest, rfl, reserved, effect⟩)
    · rw [failed]
      exact .inr (.inr ⟨size, rfl, positive, noRun, rfl⟩)

/-- **No reservation from a seeded pool creates a port.** -/
theorem Seeded.ports_next (settings : Settings) (seeded : s.Seeded settings.range)
    (sound : Sound s) (bounded : s.Bounded) (now : Time.Instant) {request : Operation}
    (reserves : request.reserves) :
    (request.next settings now s).ports.rows.map (fun r => (r.id, r.number)) =
        s.ports.rows.map (fun r => (r.id, r.number)) ∧
      (request.next settings now s).nextPort = s.nextPort := by
  rw [Operation.reserves_eq_isSome_asks?, Option.isSome_iff_exists] at reserves
  obtain ⟨⟨owner, asked⟩, asks⟩ := reserves
  rcases seeded.perform_cases settings sound bounded now asks with
    ⟨fault, -, failed⟩ | ⟨size, first, b, t, -, -, -, granted, -, effect⟩ | ⟨size, -, -, -, failed⟩
  · rw [Operation.next, failed]
    exact ⟨rfl, rfl⟩
  · rw [Operation.next, granted]
    refine ⟨?_, effect.portCount⟩
    rw [effect.rows, List.append_nil, List.map_map]
    refine List.map_congr_left fun r _ => ?_
    simp only [Function.comp_apply]
    split <;> rfl
  · rw [Operation.next, failed]
    exact ⟨rfl, rfl⟩

end Store

namespace Turn

/-- What the turn demands of an allocator of numbers. -/
def demand? (turn : Turn) : Option Demand :=
  match turn.step.request.asks? with
  | some (owner, asked) => some (.take (turn.store.admission owner asked))
  | none => turn.released?.map fun b => .giveBack b.first.val b.last.val

/-- What is answered to a request for ports: the ends of a span, or a fault. -/
def reply? (turn : Turn) : Option (Except Fault (Int × Int)) :=
  match turn.step.request.reserves, turn.outcome with
  | true, .ok (.binding b) => some (.ok (b.first.val, b.last.val))
  | true, .error fault => some (.error fault)
  | _, _ => none

variable {turn : Turn} {owner : String} {asked : Except Fault Nat}

theorem next_of_error {fault : Fault} (failed : turn.step.request.perform turn.step.settings
    turn.step.now turn.store = .error fault) : turn.next = turn.store := by
  rw [next, Operation.next, failed]

theorem reply?_of_error {fault : Fault} (asks : turn.step.request.reserves)
    (failed : turn.step.request.perform turn.step.settings turn.step.now turn.store =
      .error fault) : turn.reply? = some (.error fault) := by
  simp [reply?, outcome, asks, failed]

theorem next_of_ok {answer : Answer} {t : Store} (granted : turn.step.request.perform
    turn.step.settings turn.step.now turn.store = .ok (answer, t)) : turn.next = t := by
  rw [next, Operation.next, granted]

theorem reply?_of_ok {b : Binding} {t : Store} (asks : turn.step.request.reserves)
    (granted : turn.step.request.perform turn.step.settings turn.step.now turn.store =
      .ok (.binding b, t)) : turn.reply? = some (.ok (b.first.val, b.last.val)) := by
  simp [reply?, outcome, asks, granted]

/-- A request for ports is one step of the allocator. -/
theorem serve_take (sound : Sound turn.store) (bounded : turn.store.Bounded)
    (seeded : turn.store.Seeded turn.step.settings.range)
    (asks : turn.step.request.asks? = some (owner, asked)) :
    FirstFit.serve turn.step.settings.range (turn.store.taken turn.step.settings.range)
        (.take (turn.store.admission owner asked)) =
      (turn.reply?, turn.next.taken turn.step.settings.range) := by
  have reserves : turn.step.request.reserves = true := by
    rw [Operation.reserves_eq_isSome_asks?, asks]
    rfl
  rcases seeded.perform_cases _ sound bounded turn.step.now asks with
    ⟨fault, admitted, failed⟩ | ⟨size, first, b, t, admitted, positive, lowest, granted,
      reserved, effect⟩ | ⟨size, admitted, positive, noRun, failed⟩
  · rw [admitted, FirstFit.serve, next_of_error failed, reply?_of_error reserves failed]
  · have span (n : Int) (low : b.first.val ≤ n) (high : n ≤ b.last.val) :
        turn.step.settings.range.has n := by
      rw [effect.starts] at low
      rw [effect.ends] at high
      exact (isRun_iff_forall.mp lowest.run n low (by omega)).1
    simp only [admitted, FirstFit.serve, Store.find?_taken_eq_some positive lowest,
      next_of_ok granted, reply?_of_ok reserves granted, reserved.taken_eq span, effect.starts,
      effect.ends]
  · simp only [admitted, FirstFit.serve, Store.find?_taken_eq_none positive noRun,
      next_of_error failed, reply?_of_error reserves failed]

/-- **Every turn is what the allocator makes of its demand.** -/
theorem run_demand? (turn : Turn) (sound : Sound turn.store) (bounded : turn.store.Bounded)
    (seeded : turn.store.Seeded turn.step.settings.range) :
    FirstFit.run turn.step.settings.range (turn.store.taken turn.step.settings.range)
        turn.demand?.toList =
      (turn.reply?.toList, turn.next.taken turn.step.settings.range) := by
  cases asks : turn.step.request.asks? with
  | some ask =>
    obtain ⟨owner, asked⟩ := ask
    simp [demand?, asks, FirstFit.run, serve_take sound bounded seeded asks]
  | none =>
    have reservesNot : turn.step.request.reserves = false := by
      rw [Operation.reserves_eq_isSome_asks?, asks]
      rfl
    have silent : turn.reply? = none := by simp [reply?, reservesNot]
    rcases turn.cases with ⟨b, reserved, -⟩ | ⟨row, b, -, released, ended⟩ |
      ⟨-, notReleased, bindings, -⟩
    · simp [reserved?, reservesNot] at reserved
    · simp [demand?, asks, released, silent, FirstFit.run, FirstFit.serve, ended.taken_eq sound]
    · simp [demand?, asks, notReleased, silent, FirstFit.run, Store.taken_congr bindings]

end Turn

/-! ## Whole runs -/

/-- The steps that make these requests at these instants, all under the same settings. -/
def Step.under (settings : Settings) (requests : List (Time.Instant × Operation)) : List Step :=
  requests.map fun (now, request) => ⟨settings, now, request⟩

theorem FirstFit.run_append (range : PortRange) (taken : Finset Int)
    (demands others : List Demand) :
    run range taken (demands ++ others) =
      ((run range taken demands).1 ++ (run range (run range taken demands).2 others).1,
        (run range (run range taken demands).2 others).2) := by
  induction demands generalizing taken with
  | nil => rfl
  | cons demand demands ih => simp only [List.cons_append, run, ih, List.append_assoc]

theorem filterMap_cons_eq {α β : Type} (f : α → Option β) (a : α) (as : List α) :
    (a :: as).filterMap f = (f a).toList ++ as.filterMap f := by
  cases answer : f a <;> simp [answer]

/-- **A run of a seeded pool is a run of the allocator**, turn by turn. -/
theorem run_filterMap_demand? {before : List Step} {settings : Settings}
    (seeded : (Store.empty.after before).Seeded settings.range)
    (requests : List (Time.Instant × Operation)) :
    FirstFit.run settings.range ((Store.empty.after before).taken settings.range)
        (((Store.empty.after before).turns (Step.under settings requests)).filterMap
          (·.demand?)) =
      (((Store.empty.after before).turns (Step.under settings requests)).filterMap (·.reply?),
        ((Store.empty.after before).after (Step.under settings requests)).taken
          settings.range) := by
  induction requests generalizing before with
  | nil => rfl
  | cons timed requests ih =>
    obtain ⟨now, request⟩ := timed
    have first := Turn.run_demand? ⟨Store.empty.after before, settings, now, request⟩
      (sound_after before) (bounded_after before) seeded
    have rest := @ih (before ++ [⟨settings, now, request⟩])
      (by rw [after_append]; exact seeded.after _)
    rw [after_append] at rest
    have steps : Step.under settings ((now, request) :: requests) =
        ⟨settings, now, request⟩ :: Step.under settings requests := rfl
    have met : (Turn.mk (Store.empty.after before) ⟨settings, now, request⟩).next =
        (Store.empty.after before).after [⟨settings, now, request⟩] := rfl
    rw [steps, turns_cons, filterMap_cons_eq, filterMap_cons_eq, FirstFit.run_append, first, met,
      rest]
    rfl

/-- What is granted from a seeded pool. -/
structure FirstFitLaw (s : Store) (range : PortRange) : Prop where
  /-- A span is granted to an instance exactly if there is a vacant run of its size. -/
  granted : ∀ (owner : String) (size : Nat) (now : Time.Instant), 0 < size → s.Recalls owner →
    ((∃ b t, s.reserveSpan range owner size now = .ok (b, t)) ↔
      ∃ first, IsRun (s.Vacant range) size first)
  /-- The span is the lowest of them. -/
  lowest : ∀ (owner : String) (size : Nat) (now : Time.Instant) (b : Binding) (t : Store),
    s.reserveSpan range owner size now = .ok (b, t) →
    IsLowestRun (s.Vacant range) size b.first.val ∧ (b.last.val : Int) = b.first.val + size - 1
  /-- If there is none, the pool is exhausted. -/
  exhausted : ∀ (owner : String) (size : Nat) (now : Time.Instant), 0 < size → s.Recalls owner →
    (¬∃ first, IsRun (s.Vacant range) size first) →
    s.reserveSpan range owner size now = .error (.poolExhausted size range.start range.stop)
  /-- No request for ports creates a port, granted or not. -/
  created : ∀ (ownership : Ownership) (now : Time.Instant) (request : Operation),
    request.reserves →
    (request.next ⟨range, ownership⟩ now s).ports.rows.map (fun r => (r.id, r.number)) =
        s.ports.rows.map (fun r => (r.id, r.number)) ∧
      (request.next ⟨range, ownership⟩ now s).nextPort = s.nextPort

theorem Store.Seeded.firstFitLaw {s : Store} {range : PortRange} (seeded : s.Seeded range)
    (sound : Sound s) (bounded : s.Bounded) : FirstFitLaw s range where
  granted owner size now positive recalled := by
    rcases seeded.reserveSpan_cases sound bounded now positive recalled with
      ⟨first, b, t, lowest, granted, -⟩ | ⟨noRun, failed⟩
    · rw [granted]
      exact ⟨fun _ => ⟨first, lowest.run⟩, fun _ => ⟨b, t, rfl⟩⟩
    · rw [failed]
      constructor
      · rintro ⟨b, t, other⟩
        cases other
      · rintro ⟨first, run⟩
        exact absurd run (noRun first)
  lowest owner size now b t succeeded := by
    have positive : 0 < size := by
      rcases Nat.eq_zero_or_pos size with rfl | positive
      · cases succeeded
      · exact positive
    have recalled := ((Store.reserveSpan_succeeds_iff sound bounded positive).mp
      ⟨b, t, succeeded⟩).1
    rcases seeded.reserveSpan_cases sound bounded now positive recalled with
      ⟨first, c, u, lowest, granted, effect⟩ | ⟨-, failed⟩
    · cases succeeded.symm.trans granted
      rw [effect.starts, effect.ends]
      exact ⟨lowest, rfl⟩
    · cases succeeded.symm.trans failed
  exhausted owner size now positive recalled noRun := by
    rcases seeded.reserveSpan_cases sound bounded now positive recalled with
      ⟨first, _, _, lowest, -⟩ | ⟨-, failed⟩
    · exact absurd ⟨first, lowest.run⟩ noRun
    · exact failed
  created ownership now request reserves :=
    seeded.ports_next ⟨range, ownership⟩ sound bounded now reserves

/-- **A seeded pool is a first-fit allocator.**  After any run, seeding and any further
run under the same settings, ports are granted by the first-fit law, and the further run
has answered every request for ports as the allocator does that knew only the numbers
taken at the start.  After a run of the service whoever joined is recalled. -/
theorem seeded_firstFit (earlier : List Step) (settings : Settings) (seededAt : Time.Instant)
    (requests : List (Time.Instant × Operation)) :
    let before := earlier ++ [⟨settings, seededAt, .seed⟩]
    let steps := Step.under settings requests
    FirstFit.run settings.range ((Store.empty.after before).taken settings.range)
        (((Store.empty.after before).turns steps).filterMap (·.demand?)) =
      (((Store.empty.after before).turns steps).filterMap (·.reply?),
        (Store.empty.after (before ++ steps)).taken settings.range) ∧
    FirstFitLaw (Store.empty.after (before ++ steps)) settings.range ∧
    ((∀ step ∈ before ++ steps, step.Served) → ∀ owner,
      (Store.empty.after (before ++ steps)).Registered owner →
        (Store.empty.after (before ++ steps)).Recalls owner) := by
  intro before steps
  have seeded : (Store.empty.after before).Seeded settings.range := by
    rw [after_append]
    exact Store.seeded_seed (Store.empty.after earlier) settings.range
  refine ⟨?_, ?_, fun served owner joined => recalls_after served joined⟩
  · rw [after_append Store.empty before steps]
    exact run_filterMap_demand? seeded requests
  · refine Store.Seeded.firstFitLaw ?_ (sound_after _) (bounded_after _)
    rw [after_append Store.empty before steps]
    exact seeded.after steps

/-- An instance joins, the pool is seeded, and the first of three ports is reserved: the other
two are granted as one span, and three are refused. -/
theorem seeded_firstFit_abc :
    let now := Time.Instant.ofUnix 0 0
    let s := Store.empty.after ((oneJoined ++ [⟨⟨threePorts, .optional⟩, now, .seed⟩]) ++
      Step.under ⟨threePorts, .optional⟩ [(now, .reserveOne "abc")])
    s.Recalls "abc" ∧ IsRun (s.Vacant threePorts) 2 8001 ∧
      (∃ b t, s.reserveSpan threePorts "abc" 2 now = .ok (b, t) ∧
        IsLowestRun (s.Vacant threePorts) 2 b.first.val) ∧
      s.reserveSpan threePorts "abc" 3 now = .error (.poolExhausted 3 8000 8003) := by
  intro now s
  have law : FirstFitLaw s threePorts :=
    (seeded_firstFit oneJoined ⟨threePorts, .optional⟩ now [(now, .reserveOne "abc")]).2.1
  have recalled : s.Recalls "abc" := by
    simp only [s, List.append_assoc, after_append _ oneJoined]
    exact recalls_oneJoined.after _
  have run : IsRun (s.Vacant threePorts) 2 8001 := by decide +kernel
  obtain ⟨b, t, granted⟩ := (law.granted "abc" 2 now (by decide) recalled).mpr ⟨8001, run⟩
  have taken : ¬s.Vacant threePorts 8000 := by decide +kernel
  have noRun : ¬∃ first, IsRun (s.Vacant threePorts) 3 first := by
    rintro ⟨first, run⟩
    have low := (run 0 (by decide)).1
    have high := (run 2 (by decide)).1
    have start : threePorts.start = 8000 := rfl
    have stop : threePorts.stop = 8003 := rfl
    simp only [PortRange.has, Bool.and_eq_true, decide_eq_true_eq] at low high
    obtain rfl : first = 8000 := by omega
    exact taken (run 0 (by decide))
  exact ⟨recalled, run, ⟨b, t, granted, (law.lowest "abc" 2 now b t granted).1⟩,
    law.exhausted "abc" 3 now (by decide) recalled noRun⟩

end PortPool
