/-
# PortPool.Proofs.Reuse -- what is given back is handed out again

Once a span was reserved and given back, all of its numbers are known and free, and so is
whatever was known and free before (`Store.offers_restored`).  So the next request for as
many ports finds a run at least there: it creates no port, and starts no higher.

It may start lower.  If the pool had grown for the span, the numbers below the growth point
were too few for it, but together with the first of the new ones they may be enough.  For
that the run has to go on just below the span.  If the number there is not offered, or if
the pool had not grown at all, the same span is handed out again (`reserveSpan_again`).
-/
import PortPool.Proofs.Reach

namespace PortPool

set_option autoImplicit false

namespace Store

variable {s t u : Store} {range : PortRange} {owner : String} {now moment : Time.Instant}
  {size : Nat} {b freed : Binding}

/-- The ports that have a row: their ids and numbers. -/
def recorded (s : Store) : List (Nat × Int) := s.ports.rows.map fun r => (r.id, r.number)

/-! ## What a span leaves behind -/

theorem Prepared.knows_iff {first last : Int} (prepared : s.Prepared range first last u) {n : Int} :
    u.Knows n ↔ s.Knows n ∨ first ≤ n ∧ n ≤ last := by
  constructor
  · intro known
    rcases prepared.recorded with rfl | ⟨count, rfl, ends⟩
    · exact .inl known
    · rcases knows_fillPorts.mp known with old | ⟨low, high⟩
      · exact .inl old
      · exact .inr ⟨low, by omega⟩
  · rintro (known | ⟨low, high⟩)
    · rcases prepared.recorded with rfl | ⟨count, rfl, -⟩
      · exact known
      · exact knows_fillPorts.mpr (.inl known)
    · exact prepared.known n low high

/-- The numbers of a span are known once it is reserved. -/
theorem knows_of_reserveSpan (granted : s.reserveSpan range owner size now = .ok (b, t)) {n : Int} :
    t.Knows n ↔ s.Knows n ∨ b.first.val ≤ n ∧ n ≤ b.last.val := by
  obtain ⟨u, prepared, bound⟩ := reserveSpan_bound granted
  obtain ⟨-, -, -, -, rfl⟩ := bind_eq_ok_iff.mp bound
  rw [Sound.knows_bound, prepared.knows_iff]

theorem has_of_reserveSpan (granted : s.reserveSpan range owner size now = .ok (b, t)) {n : Int}
    (low : b.first.val ≤ n) (high : n ≤ b.last.val) : range.has n := by
  obtain ⟨u, prepared, -⟩ := reserveSpan_bound granted
  exact prepared.inRange n low high

section Restored

variable {ownership : Ownership} {named : Option String} {row : BindingRow} (sound : Sound s)
  (soundBound : Sound t) (granted : s.reserveSpan range owner size now = .ok (b, t))
  (ended : t.Ended ownership named moment row freed u) (same : freed.id = b.id)

include granted ended

/-- Who could be looked up before still can. -/
theorem recalls_restored {other : String} (recalled : s.Recalls other) : u.Recalls other := by
  have moved : Moves (fun _ => False) range now s t := reserveSpan_moves granted
  exact recalled.kept (ended.instances_eq ▸ instances_moves moved)

include soundBound same

/-- The binding that is given back has the span that was reserved. -/
theorem span_restored : freed.first = b.first ∧ freed.last = b.last := by
  have reserved := reserveSpan_reserved granted
  obtain ⟨shown, told, rfl⟩ := ended.told
  obtain ⟨identified, -, starts, ends, -⟩ := BindingRow.of_read told
  have isRow : row = b.row := by
    refine soundBound.eq_of_id_eq ended.present (reserved.bindings ▸ List.mem_cons_self) ?_
    have id : (row.id : Int) = b.id := identified.symm.trans same
    simp only [Binding.row]
    omega
  simp only [isRow, Binding.row] at starts ends
  exact ⟨Fin.ext (Int.ofNat_inj.mp starts), Fin.ext (Int.ofNat_inj.mp ends)⟩

include sound

/-- What was offered before is offered again, and so is the span. -/
theorem offers_restored {n : Int} :
    u.Offers range n ↔ s.Offers range n ∨ b.first.val ≤ n ∧ n ≤ b.last.val := by
  have soundFreed : Sound u := by
    rw [ended.store]
    exact soundBound.release _ _
  obtain ⟨starts, ends⟩ := span_restored soundBound granted ended same
  rw [ended.offers_iff soundBound soundFreed, knows_of_reserveSpan granted,
    (reserveSpan_reserved granted).occupied_iff, starts, ends, sound.offers_iff]
  constructor
  · rintro ⟨inRange, known | within, free⟩
    · by_cases within : b.first.val ≤ n ∧ n ≤ b.last.val
      · exact .inr within
      · exact .inl ⟨inRange, known, fun held => within (free (.inl held))⟩
    · exact .inr within
  · rintro (⟨inRange, known, free⟩ | within)
    · exact ⟨inRange, .inl known, fun held => held.resolve_left free⟩
    · exact ⟨has_of_reserveSpan granted within.1 within.2, .inr within, fun _ => within⟩

end Restored

/-! ## The next span -/

/-- What comes of asking in `u`, where `b` was reserved in `s` and given back: a span on
ports that have a row, no higher than that of `b`; it is the same if no port was created
for `b`, or if the number below it is not offered. -/
structure Regranted (s t u : Store) (range : PortRange) (b d : Binding) (v : Store) : Prop where
  fresh : ∀ c ∈ u.bindings, (c.id : Int) < d.id
  uncreated : v.recorded = u.recorded
  noHigher : d.first ≤ b.first
  unmoved : t.recorded = s.recorded ∨ ¬s.Offers range (b.first.val - 1) → d.span = b.span

theorem Granted.recorded_eq {first last : Int} {created : List PortRow}
    (granted : Granted s owner now first last created b t) :
    t.recorded = s.recorded ++ created.map fun r => (r.id, r.number) := by
  simp only [recorded, granted.rows, List.map_map, ← List.map_append]
  apply List.map_congr_left
  intro r _
  simp only [Function.comp_apply]
  split <;> rfl

theorem Ready.last_of_reserveSpan (ready : s.Ready owner) (positive : 0 < size)
    (granted : s.reserveSpan range owner size now = .ok (b, t)) :
    (b.last.val : Int) = b.first.val + size - 1 := by
  obtain ⟨first, created, -, granted⟩ := ready.granted_vacant positive granted
  rw [granted.starts, granted.ends]

/-- Where the span of `b` was given back, the lowest run starts there or below. -/
theorem Ready.exists_isLowestRun_restored (ready : s.Ready owner) (positive : 0 < size)
    (granted : s.reserveSpan range owner size now = .ok (b, t))
    (offers : ∀ n, u.Offers range n ↔ s.Offers range n ∨ b.first.val ≤ n ∧ n ≤ b.last.val) :
    ∃ first, IsLowestRun (u.Offers range) size first ∧ first ≤ b.first.val := by
  have last := ready.last_of_reserveSpan positive granted
  have run : IsRun (u.Offers range) size b.first.val :=
    isRun_iff_forall.mpr fun n low high => (offers n).mpr (.inr ⟨low, by omega⟩)
  obtain ⟨first, lowest⟩ := exists_isLowestRun positive ⟨_, run⟩
  exact ⟨first, lowest, Int.not_lt.mp fun below => lowest.lowest _ below run⟩

/-- No lower run is long enough, unless it goes on just below the span of `b`. -/
theorem Ready.start_restored (ready : s.Ready owner) (positive : 0 < size)
    (granted : s.reserveSpan range owner size now = .ok (b, t))
    (stays : t.recorded = s.recorded ∨ ¬s.Offers range (b.first.val - 1)) {first : Int}
    (run : IsRun (fun n => s.Offers range n ∨ b.first.val ≤ n ∧ n ≤ b.last.val) size first) :
    b.first.val ≤ first := by
  by_contra below
  have offered := isRun_iff_forall.mp run
  rcases ready.reserveSpan_cases positive range now with
    ⟨start, _, _, lowest, other, reused⟩ | ⟨_, _, noRun, -, other, grown⟩ | ⟨-, -, other⟩
  · cases granted.symm.trans other
    have starts := reused.starts
    have ends := reused.ends
    -- the span was offered before, so the run was too, and a lower one was taken
    refine lowest.lowest first (by omega) (isRun_iff_forall.mpr fun n low high => ?_)
    rcases offered n low high with before | within
    · exact before
    · exact isRun_iff_forall.mp lowest.run n (by omega) (by omega)
  · cases granted.symm.trans other
    have starts := grown.starts
    rcases stays with unchanged | apart
    · have created := grown.recorded_eq
      rw [unchanged, List.self_eq_append_right, List.map_eq_nil_iff] at created
      have := congrArg List.length created
      rw [length_freshRows, List.length_nil] at this
      omega
    · -- a run that ends below the span was too short before, so it goes on into the span
      refine noRun first (isRun_iff_forall.mpr fun n low high => ?_)
      rcases offered n low high with before | within
      · exact before
      · rcases offered (b.first.val - 1) (by omega) (by omega) with before | within
        · exact absurd before apart
        · omega
  · cases granted.symm.trans other

end Store

/-- **What is given back is found again before the pool grows.** -/
theorem reserveSpan_again (steps : List Step) (range : PortRange) (owner other : String)
    (size : Nat) (now moment later : Time.Instant) (settings : Settings) (request : Operation)
    (b freed : Binding) (t u : Store)
    (granted : (Store.empty.after steps).reserveSpan range owner size now = .ok (b, t))
    (releases : request.releases)
    (performed : request.perform settings moment t = .ok (.binding freed, u))
    (same : freed.id = b.id) :
    ((Store.empty.after steps).Recalls other → ∃ d v,
      u.reserveSpan range other size later = .ok (d, v) ∧
        Store.Regranted (Store.empty.after steps) t u range b d v) ∧
    ((∀ step ∈ steps, step.Served) → (Store.empty.after steps).Registered other →
      (Store.empty.after steps).Recalls other) := by
  refine ⟨fun recalled => ?_, fun served joined => recalls_after served joined⟩
  have sound := sound_after steps
  have positive := Store.positive_of_reserveSpan granted
  have ready : (Store.empty.after steps).Ready owner :=
    ⟨sound, bounded_after steps, (Store.owner_of_reserveSpan granted).2⟩
  have readyBound := ready.granted granted
  obtain ⟨row, ended⟩ := Operation.ended_of_releases releases performed
  have soundFreed := (ended.ready readyBound).sound
  have offers : ∀ n, u.Offers range n ↔ (Store.empty.after steps).Offers range n ∨
      b.first.val ≤ n ∧ n ≤ b.last.val :=
    fun n => Store.offers_restored sound readyBound.sound granted ended same
  obtain ⟨first, lowest, noHigher⟩ := ready.exists_isLowestRun_restored positive granted offers
  obtain ⟨d, v, answered, regranted⟩ := Store.reserveSpan_reused_granted later soundFreed positive
    (Store.recalls_restored granted ended recalled) lowest
  have starts := regranted.starts
  have ends := regranted.ends
  have last := ready.last_of_reserveSpan positive granted
  refine ⟨d, v, answered, ?_, ?_, ?_, fun stays => ?_⟩
  · intro c member
    rw [regranted.identified]
    exact_mod_cast regranted.fresh c member
  · rw [regranted.recorded_eq, List.map_nil, List.append_nil]
  · rw [Fin.le_def]
    omega
  · have noLower := ready.start_restored positive granted stays
      (lowest.run.mono fun n => (offers n).mp)
    rw [Binding.span, Binding.span]
    congr 1 <;> omega

/-- It need not be found in the same place: 8000 was too little for two ports, so the pool
grew to 8001 and 8002; once these are given back, 8000 and 8001 are the lowest two. -/
example : ((Store.empty.after (Step.each ⟨threePorts, .optional⟩ (Time.Instant.ofUnix 0 0)
    [.join ⟨"abc", "host", []⟩, .reserveOne "abc", .releasePort (.wrap 8000) none,
      .reserveSpan "abc" 2, .releasePort (.wrap 8001) none])).reserveSpan threePorts "abc" 2
        (Time.Instant.ofUnix 0 0)).toOption.map (·.1.span) = some (8000, 8001) := by
  decide +kernel

/-- Two of three ports are reserved and given back; then the same two are granted. -/
theorem reserveSpan_again_abc :
    ∃ b t freed u d v,
      (Store.empty.after oneJoined).reserveSpan threePorts "abc" 2 (Time.Instant.ofUnix 0 0) =
        .ok (b, t) ∧
      (Operation.releasePort (.wrap 8001) (some "abc")).perform ⟨threePorts, .required⟩
        (Time.Instant.ofUnix 1 0) t = .ok (.binding freed, u) ∧
      u.reserveSpan threePorts "abc" 2 (Time.Instant.ofUnix 2 0) = .ok (d, v) ∧
      d.span = (8000, 8001) := by
  obtain ⟨b, t, freed, u, granted, performed, same, span⟩ : ∃ b t freed u,
      (Store.empty.after oneJoined).reserveSpan threePorts "abc" 2 (Time.Instant.ofUnix 0 0) =
        .ok (b, t) ∧
      (Operation.releasePort (.wrap 8001) (some "abc")).perform ⟨threePorts, .required⟩
        (Time.Instant.ofUnix 1 0) t = .ok (.binding freed, u) ∧
      freed.id = b.id ∧ b.span = (8000, 8001) :=
    ⟨_, _, _, _, rfl, rfl, by decide +kernel, by decide +kernel⟩
  have apart : ¬(Store.empty.after oneJoined).Offers threePorts (b.first.val - 1) := by
    rintro ⟨inRange, -⟩
    rw [show b.first.val = 8000 from congrArg Prod.fst span] at inRange
    exact absurd inRange (by decide)
  obtain ⟨d, v, answered, regranted⟩ := (reserveSpan_again oneJoined threePorts "abc" "abc" 2
    (Time.Instant.ofUnix 0 0) (Time.Instant.ofUnix 1 0) (Time.Instant.ofUnix 2 0) _ _ b freed t u
    granted (by decide) performed same).1 recalls_oneJoined
  exact ⟨b, t, freed, u, d, v, granted, performed, answered, span ▸ regranted.unmoved (.inr apart)⟩

end PortPool
