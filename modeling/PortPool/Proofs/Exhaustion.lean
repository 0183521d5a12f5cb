/-
# PortPool.Proofs.Exhaustion -- when the pool counts as exhausted

A number that was never recorded is in no active span, and still it is not offered:
the pool grows above everything it knows and never into a gap below.  So exhaustion
does not mean that the range has no free run left.  It means that every such run is
out of reach (`Store.OutOfReach`): it holds a number without a row, which the window
scan does not see, and starts no higher than some row, which growth does not go
below.  `poolExhausted_iff` says that this is exactly when a reservation fails so,
and `exhausted_beside_vacant_run` shows a short run of requests that ends there.
-/
import PortPool.Proofs.Reservation

namespace PortPool

set_option autoImplicit false

namespace Store

variable {s : Store} {range : PortRange} {owner : String} {now : Time.Instant} {size : Nat}

/-- The number is in the range and in no active span, whether it has a row or not. -/
def Vacant (s : Store) (range : PortRange) (n : Int) : Prop := range.has n ∧ ¬s.Occupied n

instance (s : Store) (range : PortRange) : DecidablePred (s.Vacant range) := fun n =>
  inferInstanceAs (Decidable (range.has n ∧ ¬s.Occupied n))

/-- Every vacant run of this size holds a number without a row, and some row has a
number no lower than its first. -/
def OutOfReach (s : Store) (range : PortRange) (size : Nat) : Prop :=
  ∀ first, IsRun (s.Vacant range) size first →
    (∃ n, first ≤ n ∧ n < first + size ∧ ¬s.Knows n) ∧ ∃ n, first ≤ n ∧ s.Knows n

theorem Offers.vacant (sound : Sound s) {n : Int} (offered : s.Offers range n) :
    s.Vacant range n := by
  obtain ⟨inRange, -, free⟩ := sound.offers_iff.mp offered
  exact ⟨inRange, free⟩

/-- What lies from the growth point on has no row, hence is in no span. -/
theorem vacant_of_growthPoint_le (sound : Sound s) {n : Int} (above : s.growthPoint range ≤ n)
    (below : n < range.stop) : s.Vacant range n := by
  have low := start_le_growthPoint s range
  refine ⟨?_, fun occupied => ?_⟩
  · simp only [PortRange.has, Bool.and_eq_true, decide_eq_true_eq]
    omega
  · have := lt_growthPoint range (sound.knows_of_occupied occupied)
    omega

/-- No offered run and no room to grow: that is what being out of reach comes to. -/
theorem outOfReach_iff (sound : Sound s) (positive : 0 < size) :
    s.OutOfReach range size ↔
      (∀ first, ¬IsRun (s.Offers range) size first) ∧
        range.stop < s.growthPoint range + size := by
  constructor
  · intro stuck
    constructor
    · intro first run
      obtain ⟨⟨n, low, high, unknown⟩, -⟩ := stuck first (run.mono fun n => Offers.vacant sound)
      exact unknown (isRun_iff_forall.mp run n low high).knows
    · by_contra room
      have run : IsRun (s.Vacant range) size (s.growthPoint range) :=
        isRun_iff_forall.mpr fun n low high => vacant_of_growthPoint_le sound low (by omega)
      obtain ⟨-, n, above, known⟩ := stuck _ run
      have := lt_growthPoint range known
      omega
  · rintro ⟨noRun, noRoom⟩ first run
    have vacant := isRun_iff_forall.mp run
    constructor
    · by_contra allKnown
      push Not at allKnown
      refine noRun first (isRun_iff_forall.mpr fun n low high => ?_)
      obtain ⟨inRange, free⟩ := vacant n low high
      exact sound.offers_iff.mpr ⟨inRange, allKnown n low high, free⟩
    · by_contra allBelow
      push Not at allBelow
      -- then the growth point is no higher than the run, which ends within the range
      have start := (vacant first (Int.le_refl _) (by omega)).1
      have stop := (vacant (first + size - 1) (by omega) (by omega)).1
      simp only [PortRange.has, Bool.and_eq_true, decide_eq_true_eq] at start stop
      rcases growthPoint_eq_or s range with same | known
      · omega
      · have : ¬first ≤ s.growthPoint range - 1 := fun low => allBelow _ low known
        omega

theorem reserveSpan_eq_poolExhausted_iff (sound : Sound s) (bounded : s.Bounded)
    (positive : 0 < size) :
    s.reserveSpan range owner size now = .error (.poolExhausted size range.start range.stop) ↔
      s.Recalls owner ∧ s.OutOfReach range size := by
  rw [outOfReach_iff sound positive]
  constructor
  · intro failed
    have recalled : s.Recalls owner := by
      by_contra unread
      by_cases joined : s.Registered owner
      · rw [reserveSpan_of_getInstance_error positive (getInstance_of_registered joined unread)]
          at failed
        cases failed
      · rw [reserveSpan_of_getInstance_error positive (getInstance_of_unregistered joined)]
          at failed
        cases failed
    have noRun : ∀ first, ¬IsRun (s.Offers range) size first := by
      intro first run
      obtain ⟨_, lowest⟩ := exists_isLowestRun positive ⟨first, run⟩
      rw [reserveSpan_reused sound positive recalled lowest] at failed
      cases failed
    refine ⟨recalled, noRun, ?_⟩
    by_contra room
    rw [reserveSpan_of_noRun positive recalled noRun,
      grow_eq_ok bounded recalled.registered positive (by omega)] at failed
    cases failed
  · rintro ⟨recalled, noRun, noRoom⟩
    rw [reserveSpan_of_noRun positive recalled noRun]
    exact grow_eq_error bounded positive noRoom

end Store

/-- **What exhaustion says.**  A reservation fails as exhausted exactly if every run
of vacant numbers of its size is out of reach.  It must be for an instance that is
recalled, as all that joined are after a run of the service. -/
theorem poolExhausted_iff (steps : List Step) (range : PortRange) (owner : String) (size : Nat)
    (now : Time.Instant) :
    ((Store.empty.after steps).reserveSpan range owner size now =
        .error (.poolExhausted size range.start range.stop) ↔
      0 < size ∧ (Store.empty.after steps).Recalls owner ∧
        (Store.empty.after steps).OutOfReach range size) ∧
    ((Store.empty.after steps).reserveOne range owner now =
        .error (.poolExhausted 1 range.start range.stop) ↔
      (Store.empty.after steps).Recalls owner ∧
        (Store.empty.after steps).OutOfReach range 1) ∧
    ((∀ step ∈ steps, step.Served) → (Store.empty.after steps).Registered owner →
      (Store.empty.after steps).Recalls owner) := by
  have sound := sound_after steps
  have bounded := bounded_after steps
  refine ⟨?_, ?_, fun served joined => recalls_after served joined⟩
  · rcases Nat.eq_zero_or_pos size with rfl | positive
    · simp [Store.reserveSpan]
    · rw [Store.reserveSpan_eq_poolExhausted_iff sound bounded positive]
      simp [positive]
  · rw [Store.reserveOne_eq_reserveSpan]
    exact Store.reserveSpan_eq_poolExhausted_iff sound bounded Nat.one_pos

/-- The range of three ports from 8000 on. -/
def threePorts : PortRange := ⟨8000, 8003, by decide, by decide, by decide⟩

/-- An instance joins, reserves two single ports and releases the second. -/
def releasedSecond : List Step :=
  Step.each ⟨threePorts, .optional⟩ (Time.Instant.ofUnix 0 0)
    [.join ⟨"abc", "host", []⟩, .reserveOne "abc", .reserveOne "abc", .releasePort (.wrap 8001) none]

/-- Refuting pole: two ports are asked for while 8001 and 8002 are vacant, yet 8002
has no row and the pool grows above 8001 only. -/
theorem exhausted_beside_vacant_run :
    ¬∀ (steps : List Step) (range : PortRange) (owner : String) (size : Nat)
        (now : Time.Instant), (Store.empty.after steps).Registered owner → 0 < size →
      (Store.empty.after steps).reserveSpan range owner size now =
        .error (.poolExhausted size range.start range.stop) →
      ∀ first, ¬IsRun ((Store.empty.after steps).Vacant range) size first := by
  intro truthful
  have failed : (Store.empty.after releasedSecond).reserveSpan threePorts "abc" 2
      (Time.Instant.ofUnix 0 0) = .error (.poolExhausted 2 8000 8003) := by rfl
  exact truthful releasedSecond threePorts "abc" 2 _ (by decide +kernel) (by decide) failed 8001
    (by decide +kernel)

end PortPool
