/-
# PortPool.Proofs.Reach -- who asks for less, or later, starts no higher

A span starts where the lowest run of offered numbers does, or at the growth point if
there is no run.  These are two rules, but one order: what is offered is known, so every
run starts below the growth point.  So a span that starts no higher than some number can
be had exactly if a run starts there or below, or the growth point lies there or below and
leaves room (`Store.Reaches`, `Store.Ready.exists_reserveSpan_iff`), whichever of the two
rules it is that decides.

Said in this way it is plain what helps: a smaller size keeps every run and leaves more
room, and a release adds to what is offered and leaves the growth point alone
(`reserveSpan_monotone`).
-/
import PortPool.Proofs.Packing
import PortPool.Proofs.Release
import PortPool.Proofs.Turn

namespace PortPool

set_option autoImplicit false

namespace Store

variable {s t : Store} {range : PortRange} {owner : String} {now : Time.Instant}
  {size : Nat} {start : Int}

/-! ## How low a span can start -/

/-- A span of this size can be had that starts no higher than this. -/
def Reaches (s : Store) (range : PortRange) (size : Nat) (start : Int) : Prop :=
  (∃ first, first ≤ start ∧ IsRun (s.Offers range) size first) ∨
    (s.growthPoint range ≤ start ∧ s.growthPoint range + size ≤ range.stop)

theorem Reaches.smaller (reaches : s.Reaches range size start) {fewer : Nat}
    (atMost : fewer ≤ size) : s.Reaches range fewer start := by
  rcases reaches with ⟨first, low, run⟩ | ⟨low, room⟩
  · exact .inl ⟨first, low, fun i below => run i (by omega)⟩
  · exact .inr ⟨low, by omega⟩

theorem Reaches.mono (reaches : s.Reaches range size start)
    (offers : ∀ n, s.Offers range n → t.Offers range n)
    (point : t.growthPoint range = s.growthPoint range) : t.Reaches range size start := by
  rcases reaches with ⟨first, low, run⟩ | room
  · exact .inl ⟨first, low, run.mono offers⟩
  · exact .inr (point ▸ room)

/-- Every run starts below the growth point. -/
theorem lt_growthPoint_of_isRun (positive : 0 < size) {first : Int}
    (run : IsRun (s.Offers range) size first) : first < s.growthPoint range := by
  have offered := run 0 positive
  rw [Int.natCast_zero, Int.add_zero] at offered
  exact lt_growthPoint range offered.knows

/-- **Which spans start no higher than a number.** -/
theorem Ready.exists_reserveSpan_iff (ready : s.Ready owner) (positive : 0 < size)
    (now : Time.Instant) :
    (∃ b t, s.reserveSpan range owner size now = .ok (b, t) ∧ (b.first.val : Int) ≤ start) ↔
      s.Reaches range size start := by
  constructor
  · rintro ⟨b, t, answered, low⟩
    rcases ready.reserveSpan_cases positive range now with
      ⟨first, _, _, lowest, other, granted⟩ | ⟨_, _, -, room, other, granted⟩ | ⟨-, -, other⟩
    · cases answered.symm.trans other
      exact .inl ⟨first, granted.starts ▸ low, lowest.run⟩
    · cases answered.symm.trans other
      exact .inr ⟨granted.starts ▸ low, room⟩
    · cases answered.symm.trans other
  · intro reaches
    rcases ready.reserveSpan_cases positive range now with
      ⟨first, b, t, lowest, answered, granted⟩ | ⟨b, t, noRun, room, answered, granted⟩ |
        ⟨noRun, noRoom, -⟩
    · refine ⟨b, t, answered, ?_⟩
      rw [granted.starts]
      rcases reaches with ⟨other, low, run⟩ | ⟨low, -⟩
      · exact Int.le_trans (Int.not_lt.mp fun below => lowest.lowest other below run) low
      · have := lt_growthPoint_of_isRun positive lowest.run
        omega
    · refine ⟨b, t, answered, ?_⟩
      rw [granted.starts]
      rcases reaches with ⟨first, -, run⟩ | ⟨low, -⟩
      · exact absurd run (noRun first)
      · exact low
    · rcases reaches with ⟨first, -, run⟩ | ⟨-, room⟩
      · exact absurd run (noRun first)
      · omega

/-- No span is granted that has no port. -/
theorem positive_of_reserveSpan {b : Binding}
    (granted : s.reserveSpan range owner size now = .ok (b, t)) : 0 < size := by
  rcases Nat.eq_zero_or_pos size with rfl | positive
  · cases granted
  · exact positive

/-! ## What a release leaves -/

namespace Ended

variable {ownership : Ownership} {named : Option String} {row : BindingRow} {b : Binding}
  (ended : s.Ended ownership named now row b t)

include ended

theorem ports_eq : t.ports = s.ports := by rw [ended.store, released]

theorem instances_eq : t.instances = s.instances := by rw [ended.store, released]

theorem knows_iff {n : Int} : t.Knows n ↔ s.Knows n := by rw [Knows, Knows, ended.ports_eq]

theorem growthPoint_eq : t.growthPoint range = s.growthPoint range := by
  rw [growthPoint, growthPoint, ended.ports_eq]

theorem ready (ready : s.Ready owner) : t.Ready owner where
  sound := by
    rw [ended.store]
    exact ready.sound.release _ _
  bounded n known := ready.bounded n (ended.knows_iff.mp known)
  recalled := by
    simp only [Recalls, getInstance, findInstance, ended.instances_eq]
    exact ready.recalled

/-- What is offered is what is known and was free before, or is given back. -/
theorem offers_iff (sound : Sound s) (soundAfter : Sound t) {n : Int} :
    t.Offers range n ↔ range.has n ∧ s.Knows n ∧
      (s.Occupied n → b.first.val ≤ n ∧ n ≤ b.last.val) := by
  rw [soundAfter.offers_iff, ended.knows_iff, ended.occupied_iff sound, not_and_not_right]

theorem offers_of_offers (sound : Sound s) (soundAfter : Sound t) {n : Int}
    (offered : s.Offers range n) : t.Offers range n := by
  obtain ⟨inRange, known, free⟩ := sound.offers_iff.mp offered
  exact (ended.offers_iff sound soundAfter).mpr ⟨inRange, known, fun held => absurd held free⟩

end Ended

end Store

/-- A binding that was given back was an active one. -/
theorem Operation.ended_of_releases {settings : Settings} {now : Time.Instant} {s t : Store}
    {request : Operation} {b : Binding} (releases : request.releases)
    (performed : request.perform settings now s = .ok (.binding b, t)) :
    ∃ row, s.Ended settings.ownership request.named now row b t := by
  cases perform_effect performed with
  | reserved asks granted =>
    rw [Turn.reserves_ne_releases asks] at releases
    cases releases
  | ended asks granted => exact ⟨_, granted⟩
  | other reservesNot releasesNot bindings counter =>
    rw [releasesNot] at releases
    cases releases

/-! ## Asking for less, and later -/

/-- **Fewer ports, and free ones, are had no higher.**  Where a span was granted, every
smaller one is granted to the same instance, and so is the span itself after any one
release; either starts no higher than it did. -/
theorem reserveSpan_monotone (steps : List Step) (range : PortRange) (owner : String)
    (size : Nat) (now : Time.Instant) (b : Binding) (t : Store)
    (granted : (Store.empty.after steps).reserveSpan range owner size now = .ok (b, t)) :
    (∀ (fewer : Nat) (later : Time.Instant), 1 ≤ fewer → fewer ≤ size → ∃ c u,
      (Store.empty.after steps).reserveSpan range owner fewer later = .ok (c, u) ∧
        c.first ≤ b.first) ∧
    ∀ (settings : Settings) (moment : Time.Instant) (request : Operation) (freed : Binding)
      (u : Store), request.releases →
      request.perform settings moment (Store.empty.after steps) = .ok (.binding freed, u) →
      ∀ later, ∃ c v, u.reserveSpan range owner size later = .ok (c, v) ∧ c.first ≤ b.first := by
  have sound := sound_after steps
  have positive : 0 < size := Store.positive_of_reserveSpan granted
  have ready : (Store.empty.after steps).Ready owner :=
    ⟨sound, bounded_after steps, (Store.owner_of_reserveSpan granted).2⟩
  have reaches : (Store.empty.after steps).Reaches range size b.first.val :=
    (ready.exists_reserveSpan_iff positive now).mp ⟨b, t, granted, Int.le_refl _⟩
  have low {c : Binding} (below : (c.first.val : Int) ≤ b.first.val) : c.first ≤ b.first := by
    rw [Fin.le_def]
    omega
  constructor
  · intro fewer later some_ atMost
    obtain ⟨c, u, answered, below⟩ :=
      (ready.exists_reserveSpan_iff some_ later).mpr (reaches.smaller atMost)
    exact ⟨c, u, answered, low below⟩
  · intro settings moment request freed u releases performed later
    obtain ⟨row, ended⟩ := Operation.ended_of_releases releases performed
    have readyAfter := ended.ready ready
    have reachesAfter := reaches.mono (fun n => ended.offers_of_offers sound readyAfter.sound)
      ended.growthPoint_eq
    obtain ⟨c, v, answered, below⟩ :=
      (readyAfter.exists_reserveSpan_iff positive later).mpr reachesAfter
    exact ⟨c, v, answered, low below⟩

/-- An instance joins and reserves the first of three ports. -/
def reservedFirst : List Step :=
  Step.each ⟨threePorts, .optional⟩ (Time.Instant.ofUnix 0 0)
    [.join ⟨"abc", "host", []⟩, .reserveOne "abc"]

/-- The other two ports can be had; so can one of them, and two ports once the first is
given back. -/
theorem reserveSpan_monotone_abc :
    (∃ b t, (Store.empty.after reservedFirst).reserveSpan threePorts "abc" 2
      (Time.Instant.ofUnix 0 0) = .ok (b, t) ∧ b.first = 8001) ∧
    (∃ c u, (Store.empty.after reservedFirst).reserveSpan threePorts "abc" 1
      (Time.Instant.ofUnix 0 0) = .ok (c, u) ∧ c.first ≤ 8001) ∧
    ∃ freed u, (Operation.releasePort (.wrap 8000) (some "abc")).perform ⟨threePorts, .required⟩
        (Time.Instant.ofUnix 0 0) (Store.empty.after reservedFirst) = .ok (.binding freed, u) ∧
      ∃ c v, u.reserveSpan threePorts "abc" 2 (Time.Instant.ofUnix 0 0) = .ok (c, v) ∧
        c.first ≤ 8001 := by
  obtain ⟨b, t, granted, starts⟩ : ∃ b t, (Store.empty.after reservedFirst).reserveSpan threePorts
      "abc" 2 (Time.Instant.ofUnix 0 0) = .ok (b, t) ∧ b.first = 8001 :=
    ⟨_, _, rfl, by decide +kernel⟩
  obtain ⟨freed, u, performed⟩ : ∃ freed u,
      (Operation.releasePort (.wrap 8000) (some "abc")).perform ⟨threePorts, .required⟩
        (Time.Instant.ofUnix 0 0) (Store.empty.after reservedFirst) = .ok (.binding freed, u) :=
    ⟨_, _, rfl⟩
  obtain ⟨smaller, afterwards⟩ :=
    reserveSpan_monotone reservedFirst threePorts "abc" 2 (Time.Instant.ofUnix 0 0) b t granted
  refine ⟨⟨b, t, granted, starts⟩, ?_, freed, u, performed, ?_⟩
  · exact starts ▸ smaller 1 (Time.Instant.ofUnix 0 0) (by decide) (by decide)
  · exact starts ▸ afterwards _ _ _ freed u (by decide) performed (Time.Instant.ofUnix 0 0)

end PortPool
