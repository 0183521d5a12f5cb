/-
# PortPool.Proofs.Race -- threads that race for spans of one size

Any number of threads reserve spans of one size for one instance, each until it is
refused.  A call is one transaction, so that what the threads do is a sequence of calls;
in which order they come is left open (`Race.Allows`).

Whose call it is makes no difference to the store, and the clock is only written down: two
stores that differ in nothing but instants answer alike (`told_reserveSpan`).  Hence a
refusal holds for all, for good: the refused call changed nothing, and whoever calls next
finds the same store.  So the grants of a race are those of one loop, and only who gets
them is left to the schedule (`race_law`).
-/
import Mathlib.Data.Fintype.Card
import PortPool.Proofs.Packing

namespace PortPool

set_option autoImplicit false

open Time.Rfc3339 (stored)

namespace Store

variable {s t : Store} {range : PortRange} {owner : String} {size : Nat}
  {now later : Time.Instant}

/-! ## What the clock decides -/

/-- The store without the instants at which its bindings were reserved. -/
def undated (s : Store) : Store :=
  { s with bindings := s.bindings.map fun b => { b with reservedAt := "" } }

/-- What an outcome tells of the span that was granted and of the store, but not when. -/
def told (outcome : Except Fault (Binding × Store)) : Except Fault ((Nat × Nat) × Store) :=
  outcome.map fun (b, t) => (b.span, t.undated)

theorem isReserved_undated (s : Store) (r : PortRow) : s.undated.isReserved r = s.isReserved r := by
  have active : s.undated.isActive = s.isActive := by
    funext binding
    simp only [isActive, undated, List.any_map, Function.comp_def, BindingRow.isActive]
  rw [isReserved, isReserved, active]

theorem undated_bound (s : Store) (owner : String) (first last : Int) (earlier later : String) :
    (s.undated.bound owner first last later).undated = (s.bound owner first last earlier).undated := by
  simp [bound, withLinks, withBinding, undated, Function.comp_def]

theorem bind_eq_error {first last : Int}
    (blocked : ¬(first ≤ last ∧ s.Registered owner ∧ ∀ r ∈ s.ports.rows, first ≤ r.number →
      r.number ≤ last → s.isReserved r = false ∧ s.nextBinding ∉ r.holders)) :
    s.bind owner first last now = .error .store := by
  cases outcome : s.bind owner first last now with
  | ok done =>
    obtain ⟨b, t⟩ := done
    obtain ⟨ordered, registered, free, -⟩ := bind_eq_ok_iff.mp outcome
    exact absurd ⟨ordered, registered, free⟩ blocked
  | error fault =>
    simp only [Store.bind] at outcome
    split at outcome <;> cases outcome
    rfl

theorem told_bind_undated (s : Store) (owner : String) (first last : Int)
    (now later : Time.Instant) :
    told (s.undated.bind owner first last later) = told (s.bind owner first last now) := by
  by_cases free : first ≤ last ∧ s.Registered owner ∧ ∀ r ∈ s.ports.rows, first ≤ r.number →
      r.number ≤ last → s.isReserved r = false ∧ s.nextBinding ∉ r.holders
  · have undatedFree := free.2.2
    simp only [← isReserved_undated s] at undatedFree
    rw [bind_of_free free.1 free.2.1 free.2.2,
      bind_of_free (s := s.undated) free.1 free.2.1 undatedFree]
    simp only [told, map_ok, undated_bound s owner first last (stored now)]
    rfl
  · have blocked := free
    simp only [← isReserved_undated s] at blocked
    rw [bind_eq_error free, bind_eq_error (s := s.undated) blocked]

theorem told_reserveSpan_undated (s : Store) (range : PortRange) (owner : String) (size : Nat)
    (now later : Time.Instant) :
    told (s.undated.reserveSpan range owner size later) =
      told (s.reserveSpan range owner size now) := by
  have known : s.undated.getInstance owner = s.getInstance owner := rfl
  have offered : s.undated.freePorts range = s.freePorts range := by
    simp only [freePorts, isReserved_undated]
    rfl
  have next : s.undated.nextNumber range = s.nextNumber range := rfl
  simp only [reserveSpan, known, offered]
  split
  · rfl
  · cases s.getInstance owner with
    | error fault => simp only [bind_error]
    | ok i =>
      simp only [bind_ok]
      split
      · exact told_bind_undated ..
      · simp only [grow, next]
        cases s.nextNumber range with
        | error fault => simp only [bind_error]
        | ok number =>
          simp only [bind_ok]
          split
          · exact told_bind_undated (s.fillPorts number size) ..
          · rfl

/-- **Stores that differ in instants only answer alike, whatever the clock shows.** -/
theorem told_reserveSpan (alike : s.undated = t.undated) (range : PortRange) (owner : String)
    (size : Nat) (now later : Time.Instant) :
    told (s.reserveSpan range owner size now) = told (t.reserveSpan range owner size later) := by
  rw [← told_reserveSpan_undated s range owner size now now, alike,
    told_reserveSpan_undated t range owner size later now]

/-! ## A refusal is for good -/

/-- No call for spans of this size is granted any more. -/
def Spent (s : Store) (range : PortRange) (owner : String) (size : Nat) : Prop :=
  ∀ now, ∃ fault, s.reserveSpan range owner size now = .error fault

theorem spent_of_refused (alike : s.undated = t.undated) {fault : Fault}
    (refused : s.reserveSpan range owner size now = .error fault) : t.Spent range owner size := by
  intro later
  have same := told_reserveSpan alike range owner size now later
  rw [refused] at same
  cases outcome : t.reserveSpan range owner size later with
  | error other => exact ⟨other, rfl⟩
  | ok done =>
    rw [outcome] at same
    cases same

theorem Spent.congr (spent : s.Spent range owner size) (alike : s.undated = t.undated) :
    t.Spent range owner size := by
  intro later
  obtain ⟨fault, refused⟩ := spent later
  exact spent_of_refused alike refused later

theorem haul_of_spent (spent : s.Spent range owner size) (nows : List Time.Instant) :
    (haul range owner size nows s).granted = [] ∧ (haul range owner size nows s).store = s := by
  cases nows with
  | nil => exact ⟨rfl, rfl⟩
  | cons now nows =>
    obtain ⟨fault, refused⟩ := spent now
    rw [haul_of_error refused]
    exact ⟨rfl, rfl⟩

/-- A loop that met a refusal was carried to the end. -/
theorem spent_of_refusal {nows : List Time.Instant} {fault : Fault}
    (refused : (haul range owner size nows s).refusal = some fault) :
    (haul range owner size nows s).store.Spent range owner size := by
  induction nows generalizing s with
  | nil => cases refused
  | cons now nows ih =>
    cases outcome : s.reserveSpan range owner size now with
    | error other =>
      rw [haul_of_error outcome]
      exact spent_of_refused rfl outcome
    | ok done =>
      rw [haul_of_ok outcome] at refused ⊢
      exact ih refused

/-- **Loops that were carried to the end agree**, whatever their clocks showed. -/
theorem haul_congr {nows laters : List Time.Instant} (alike : s.undated = t.undated)
    (spent : (haul range owner size nows s).store.Spent range owner size)
    (spentToo : (haul range owner size laters t).store.Spent range owner size) :
    (haul range owner size nows s).granted.map Binding.span =
        (haul range owner size laters t).granted.map Binding.span ∧
      (haul range owner size nows s).store.undated =
        (haul range owner size laters t).store.undated := by
  induction nows generalizing s t laters with
  | nil =>
    -- `s` is spent, and so is `t`
    obtain ⟨granted, store⟩ := haul_of_spent (Spent.congr spent alike) laters
    rw [granted, store]
    exact ⟨rfl, alike⟩
  | cons now nows ih =>
    cases laters with
    | nil =>
      obtain ⟨granted, store⟩ := haul_of_spent (Spent.congr spentToo alike.symm) (now :: nows)
      rw [granted, store]
      exact ⟨rfl, alike⟩
    | cons later laters =>
      have same := told_reserveSpan alike range owner size now later
      cases outcome : s.reserveSpan range owner size now with
      | error fault =>
        obtain ⟨granted, store⟩ :=
          haul_of_spent (spent_of_refused rfl outcome) (now :: nows)
        obtain ⟨grantedToo, storeToo⟩ :=
          haul_of_spent (spent_of_refused alike outcome) (later :: laters)
        rw [granted, store, grantedToo, storeToo]
        exact ⟨rfl, alike⟩
      | ok done =>
        obtain ⟨b, u⟩ := done
        cases other : t.reserveSpan range owner size later with
        | error fault =>
          rw [outcome, other] at same
          cases same
        | ok doneToo =>
          obtain ⟨c, v⟩ := doneToo
          simp only [told, outcome, other, map_ok, Except.ok.injEq, Prod.mk.injEq] at same
          rw [haul_of_ok outcome] at spent ⊢
          rw [haul_of_ok other] at spentToo ⊢
          obtain ⟨spans, stores⟩ := ih same.2 spent spentToo
          exact ⟨by rw [List.map_cons, List.map_cons, same.1, spans], stores⟩

theorem reserveUpTo_eq_haul (limit : Nat) (s : Store) :
    reserveUpTo range owner size now limit s =
      ((haul range owner size (List.replicate limit now) s).granted,
        (haul range owner size (List.replicate limit now) s).store) := by
  induction limit generalizing s with
  | zero => rfl
  | succ limit ih =>
    rw [List.replicate_succ]
    cases outcome : s.reserveSpan range owner size now with
    | error fault => rw [haul_of_error outcome, reserveUpTo, outcome]
    | ok done =>
      rw [haul_of_ok outcome, reserveUpTo, outcome]
      simp only [ih]

/-- If no span is granted for want of a size or of the instance, none will be. -/
theorem spent_or_ready (sound : Sound s) (bounded : s.Bounded) (range : PortRange)
    (owner : String) (size : Nat) :
    s.Spent range owner size ∨ 0 < size ∧ s.Ready owner := by
  rcases Nat.eq_zero_or_pos size with rfl | positive
  · exact .inl fun now => ⟨_, rfl⟩
  · cases known : s.getInstance owner with
    | error fault =>
      exact .inl fun now => ⟨fault, reserveSpan_of_getInstance_error positive known⟩
    | ok i => exact .inr ⟨positive, sound, bounded, i, known⟩

/-- As many calls as the range has numbers leave nothing to be granted. -/
theorem spent_reserveAll (sound : Sound s) (bounded : s.Bounded) (range : PortRange)
    (owner : String) (size : Nat) (now : Time.Instant) :
    (s.reserveAll range owner size now).2.Spent range owner size := by
  rw [reserveAll, reserveUpTo_eq_haul]
  rcases spent_or_ready sound bounded range owner size with spent | ⟨positive, ready⟩
  · rwa [(haul_of_spent spent _).2]
  · have packed := ready.packed positive range (List.replicate range.size now)
    intro later
    rcases packed.ready.capacity_cases positive range later with
      ⟨b, t, -, -, used⟩ | ⟨-, refused⟩
    · have remaining := packed.remaining
      rw [List.length_replicate] at remaining
      have := capacity_le_size s range size
      omega
    · exact ⟨_, refused⟩

theorem length_granted_le (sound : Sound s) (bounded : s.Bounded) (nows : List Time.Instant) :
    (haul range owner size nows s).granted.length ≤ s.capacity range size := by
  rcases spent_or_ready sound bounded range owner size with spent | ⟨positive, ready⟩
  · rw [(haul_of_spent spent nows).1]
    exact Nat.zero_le _
  · rw [(ready.packed positive range nows).granted]
    exact Nat.min_le_right ..

end Store

/-! ## Races -/

/-- A call of one of the threads, and what its clock shows. -/
structure Call (threads : Nat) where
  thread : Fin threads
  now : Time.Instant

/-- How far a race has come: the store, what was granted to whom, and who was refused. -/
structure Race (threads : Nat) where
  store : Store
  granted : List (Fin threads × Binding)
  refused : Finset (Fin threads)

namespace Race

variable {threads : Nat}

/-- No thread has called yet. -/
def start (threads : Nat) (s : Store) : Race threads := ⟨s, [], ∅⟩

/-- One call. -/
def next (range : PortRange) (owner : String) (size : Nat) (race : Race threads)
    (call : Call threads) : Race threads :=
  match race.store.reserveSpan range owner size call.now with
  | .ok (b, t) => { race with store := t, granted := race.granted ++ [(call.thread, b)] }
  | .error _ => { race with refused := insert call.thread race.refused }

/-- One call after the other. -/
def after (range : PortRange) (owner : String) (size : Nat) (race : Race threads)
    (calls : List (Call threads)) : Race threads :=
  calls.foldl (next range owner size) race

/-- No thread calls again once it was refused. -/
def Allows (range : PortRange) (owner : String) (size : Nat) (race : Race threads) :
    List (Call threads) → Prop
  | [] => True
  | call :: calls =>
    call.thread ∉ race.refused ∧ (race.next range owner size call).Allows range owner size calls

/-- Every thread was refused. -/
def Finished (race : Race threads) : Prop := ∀ thread, thread ∈ race.refused

section Calls

variable {range : PortRange} {owner : String} {size : Nat} {race : Race threads}
  {call : Call threads}

theorem next_of_ok {b : Binding} {t : Store}
    (granted : race.store.reserveSpan range owner size call.now = .ok (b, t)) :
    race.next range owner size call =
      { race with store := t, granted := race.granted ++ [(call.thread, b)] } := by
  simp only [next, granted]

theorem next_of_error {fault : Fault}
    (refused : race.store.reserveSpan range owner size call.now = .error fault) :
    race.next range owner size call =
      { race with refused := insert call.thread race.refused } := by
  simp only [next, refused]

theorem after_cons (race : Race threads) (call : Call threads) (calls : List (Call threads)) :
    race.after range owner size (call :: calls) =
      (race.next range owner size call).after range owner size calls := rfl

theorem allows_append {calls more : List (Call threads)} :
    race.Allows range owner size (calls ++ more) ↔
      race.Allows range owner size calls ∧
        (race.after range owner size calls).Allows range owner size more := by
  induction calls generalizing race with
  | nil => simp [Allows, after]
  | cons call calls ih => simp only [List.cons_append, Allows, ih, after_cons, and_assoc]

/-! ## A race is a loop -/

/-- **Whoever calls, the calls do what they would do in a row.** -/
theorem after_eq_haul (race : Race threads) (calls : List (Call threads)) :
    (race.after range owner size calls).store =
        (Store.haul range owner size (calls.map (·.now)) race.store).store ∧
      (race.after range owner size calls).granted.map (·.2) =
        race.granted.map (·.2) ++
          (Store.haul range owner size (calls.map (·.now)) race.store).granted := by
  induction calls generalizing race with
  | nil => exact ⟨rfl, (List.append_nil _).symm⟩
  | cons call calls ih =>
    rw [after_cons, List.map_cons]
    cases outcome : race.store.reserveSpan range owner size call.now with
    | ok done =>
      obtain ⟨b, t⟩ := done
      rw [next_of_ok outcome, Store.haul_of_ok outcome]
      obtain ⟨store, granted⟩ := ih _
      exact ⟨store, by simpa using granted⟩
    | error fault =>
      -- the calls that follow find the same store, and are refused as well
      obtain ⟨store, granted⟩ := ih (race.next range owner size call)
      rw [next_of_error outcome] at store granted ⊢
      obtain ⟨nothing, unchanged⟩ :=
        Store.haul_of_spent (Store.spent_of_refused rfl outcome) (calls.map (·.now))
      rw [unchanged] at store
      rw [nothing] at granted
      rw [Store.haul_of_error outcome]
      exact ⟨store, granted⟩

/-- After a refusal nothing is granted any more. -/
theorem spent_of_mem_refused (calls : List (Call threads))
    (settled : ∀ thread ∈ race.refused, race.store.Spent range owner size) :
    ∀ thread ∈ (race.after range owner size calls).refused,
      (race.after range owner size calls).store.Spent range owner size := by
  induction calls generalizing race with
  | nil => exact settled
  | cons call calls ih =>
    rw [after_cons]
    apply ih
    cases outcome : race.store.reserveSpan range owner size call.now with
    | ok done =>
      rw [next_of_ok outcome]
      intro thread refused
      obtain ⟨fault, other⟩ := settled thread refused call.now
      cases outcome.symm.trans other
    | error fault =>
      rw [next_of_error outcome]
      exact fun _ _ => Store.spent_of_refused rfl outcome

/-- Each call is granted, or it is the last one of its thread. -/
theorem length_calls {calls : List (Call threads)}
    (allowed : race.Allows range owner size calls) :
    (race.after range owner size calls).granted.length +
        (race.after range owner size calls).refused.card =
      race.granted.length + race.refused.card + calls.length := by
  induction calls generalizing race with
  | nil => rfl
  | cons call calls ih =>
    obtain ⟨fresh, rest⟩ := allowed
    rw [after_cons, ih rest, List.length_cons]
    cases outcome : race.store.reserveSpan range owner size call.now with
    | ok done =>
      simp only [next_of_ok outcome, List.length_append, List.length_singleton]
      omega
    | error fault =>
      simp only [next_of_error outcome, Finset.card_insert_of_notMem fresh]
      omega

end Calls

/-! ## What is granted in a race -/

/-- What was granted so far since the store was `s`. -/
structure Safe (s : Store) (range : PortRange) (size : Nat) (race : Race threads) : Prop where
  sound : Sound race.store
  bounded : race.store.Bounded
  kept : ∀ n, s.Occupied n → race.store.Occupied n
  fits : ∀ g ∈ race.granted, range.start ≤ g.2.first.val ∧ g.2.last.val < range.stop ∧
    g.2.first.val + size = g.2.last.val + 1
  taken : ∀ g ∈ race.granted, ∀ n : Int, g.2.first.val ≤ n → n ≤ g.2.last.val →
    race.store.Occupied n ∧ ¬s.Occupied n
  apart : race.granted.Pairwise fun g h =>
    g.2.last.val < h.2.first.val ∨ h.2.last.val < g.2.first.val

variable {s : Store} {range : PortRange} {owner : String} {size : Nat} {race : Race threads}

theorem Safe.start (sound : Sound s) (bounded : s.Bounded) :
    (Race.start threads s).Safe s range size where
  sound := sound
  bounded := bounded
  kept _ occupied := occupied
  fits := by simp [Race.start]
  taken := by simp [Race.start]
  apart := .nil

theorem Safe.next (safe : race.Safe s range size) (call : Call threads) :
    (race.next range owner size call).Safe s range size := by
  cases outcome : race.store.reserveSpan range owner size call.now with
  | error fault =>
    rw [next_of_error outcome]
    exact ⟨safe.sound, safe.bounded, safe.kept, safe.fits, safe.taken, safe.apart⟩
  | ok done =>
    obtain ⟨b, t⟩ := done
    rcases Store.spent_or_ready safe.sound safe.bounded range owner size with
      spent | ⟨positive, ready⟩
    · obtain ⟨fault, refused⟩ := spent call.now
      cases outcome.symm.trans refused
    obtain ⟨first, created, run, granted⟩ := ready.granted_vacant positive outcome
    have vacant := isRun_iff_forall.mp run
    have readyAfter := ready.granted outcome
    have starts := granted.starts
    have ends := granted.ends
    have low := (vacant first (by omega) (by omega)).1
    have high := (vacant (first + size - 1) (by omega) (by omega)).1
    simp only [PortRange.has, Bool.and_eq_true, decide_eq_true_eq] at low high
    rw [next_of_ok outcome]
    constructor
    · exact readyAfter.sound
    · exact readyAfter.bounded
    · exact fun n occupied => granted.occupied_iff.mpr (.inl (safe.kept n occupied))
    · intro g member
      rcases List.mem_append.mp member with old | new
      · exact safe.fits g old
      · obtain rfl := List.mem_singleton.mp new
        simp only
        omega
    · intro g member n below above
      rcases List.mem_append.mp member with old | new
      · obtain ⟨taken, free⟩ := safe.taken g old n below above
        exact ⟨granted.occupied_iff.mpr (.inl taken), free⟩
      · obtain rfl := List.mem_singleton.mp new
        simp only at below above
        constructor
        · exact granted.occupied_iff.mpr (.inr ⟨by omega, by omega⟩)
        · intro occupied
          exact (vacant n (by omega) (by omega)).2 (safe.kept n occupied)
    · refine List.pairwise_append.mpr ⟨safe.apart, List.pairwise_singleton .., ?_⟩
      intro g old h new
      obtain rfl := List.mem_singleton.mp new
      -- a number of both spans would have been taken before it was granted
      by_contra meet
      simp only [not_or, Nat.not_lt] at meet
      have := safe.fits g old
      have both := (safe.taken g old (max g.2.first.val b.first.val : Nat) (by omega) (by omega)).1
      exact (vacant _ (by omega) (by omega)).2 both

theorem Safe.after (safe : race.Safe s range size) (calls : List (Call threads)) :
    (race.after range owner size calls).Safe s range size := by
  induction calls generalizing race with
  | nil => exact safe
  | cons call calls ih => exact ih (safe.next call)

theorem start_after (range : PortRange) (owner : String) (size : Nat) (s : Store)
    (calls : List (Call threads)) :
    ((start threads s).after range owner size calls).store =
        (Store.haul range owner size (calls.map (·.now)) s).store ∧
      ((start threads s).after range owner size calls).granted.map (·.2) =
        (Store.haul range owner size (calls.map (·.now)) s).granted :=
  after_eq_haul (start threads s) calls

/-- A race has no more calls than there are spans to grant and threads to refuse. -/
theorem length_calls_le (sound : Sound s) (bounded : s.Bounded) {calls : List (Call threads)}
    (allowed : (start threads s).Allows range owner size calls) :
    calls.length ≤ s.capacity range size + threads := by
  have count : ((start threads s).after range owner size calls).granted.length +
      ((start threads s).after range owner size calls).refused.card = calls.length := by
    simpa [start] using length_calls allowed
  have granted : ((start threads s).after range owner size calls).granted.length ≤
      s.capacity range size := by
    rw [← List.length_map, (start_after range owner size s calls).2]
    exact Store.length_granted_le sound bounded _
  have refused : ((start threads s).after range owner size calls).refused.card ≤ threads := by
    simpa using Finset.card_le_univ ((start threads s).after range owner size calls).refused
  omega

/-- As long as a thread was not refused the race goes on, and it comes to an end. -/
theorem exists_finished (sound : Sound s) (bounded : s.Bounded) (now : Time.Instant)
    {calls : List (Call threads)} (allowed : (start threads s).Allows range owner size calls) :
    ∃ others : List (Fin threads),
      (start threads s).Allows range owner size (calls ++ others.map (Call.mk · now)) ∧
        ((start threads s).after range owner size
          (calls ++ others.map (Call.mk · now))).Finished := by
  -- on the number of calls that are left
  induction left : s.capacity range size + threads - calls.length using Nat.strong_induction_on
    generalizing calls with
  | _ _ ih =>
    by_cases finished : ((start threads s).after range owner size calls).Finished
    · exact ⟨[], by simpa using allowed, by simpa using finished⟩
    · obtain ⟨thread, fresh⟩ := not_forall.mp finished
      have goesOn : (start threads s).Allows range owner size (calls ++ [⟨thread, now⟩]) :=
        allows_append.mpr ⟨allowed, fresh, trivial⟩
      have atMost := length_calls_le sound bounded goesOn
      rw [List.length_append, List.length_singleton] at atMost
      obtain ⟨others, ends, all⟩ := ih (s.capacity range size + threads - (calls.length + 1))
        (by omega) goesOn (by rw [List.length_append, List.length_singleton])
      refine ⟨thread :: others, ?_, ?_⟩
      · simpa using ends
      · simpa using all

/-- A race in which all threads were refused agrees with every loop that was carried to the
end. -/
theorem agrees_of_finished (any : 0 < threads) {calls : List (Call threads)}
    {nows : List Time.Instant}
    (finished : ((start threads s).after range owner size calls).Finished)
    (spent : (Store.haul range owner size nows s).store.Spent range owner size) :
    ((start threads s).after range owner size calls).granted.map (·.2.span) =
        (Store.haul range owner size nows s).granted.map Binding.span ∧
      ((start threads s).after range owner size calls).store.undated =
        (Store.haul range owner size nows s).store.undated := by
  obtain ⟨store, granted⟩ := start_after range owner size s calls
  have spentRace : ((start threads s).after range owner size calls).store.Spent range owner size := by
    refine spent_of_mem_refused calls ?_ ⟨0, any⟩ (finished _)
    intro thread refused
    cases Finset.notMem_empty thread refused
  rw [store] at spentRace ⊢
  obtain ⟨spans, stores⟩ := Store.haul_congr rfl spentRace spent
  refine ⟨?_, stores⟩
  calc ((start threads s).after range owner size calls).granted.map (·.2.span)
    _ = (((start threads s).after range owner size calls).granted.map (·.2)).map Binding.span := by
        rw [List.map_map]
        rfl
    _ = (Store.haul range owner size nows s).granted.map Binding.span := by rw [granted, spans]

/-- **The law of races.**  What comes of threads that reserve spans of one size for one
instance, each until it is refused, whatever their order. -/
structure Law (s : Store) (range : PortRange) (owner : String) (size threads : Nat) : Prop where
  /-- No order of calls goes on for ever. -/
  ends : ∀ calls, (start threads s).Allows range owner size calls →
    calls.length ≤ s.capacity range size + threads
  /-- Every one can be carried on until all threads are refused. -/
  completes : ∀ calls, (start threads s).Allows range owner size calls → ∀ now,
    ∃ others : List (Fin threads),
      (start threads s).Allows range owner size (calls ++ others.map (Call.mk · now)) ∧
        ((start threads s).after range owner size
          (calls ++ others.map (Call.mk · now))).Finished
  /-- What is granted lies in the range and has the size asked for. -/
  fits : ∀ calls, ∀ g ∈ ((start threads s).after range owner size calls).granted,
    range.start ≤ g.2.first.val ∧ g.2.last.val < range.stop ∧
      g.2.first.val + size = g.2.last.val + 1
  /-- No number is granted twice. -/
  disjoint : ∀ calls, ((start threads s).after range owner size calls).granted.Pairwise fun g h =>
    g.2.last.val < h.2.first.val ∨ h.2.last.val < g.2.first.val
  /-- Nor is one that is in the span of a binding that was active at the start. -/
  spares : ∀ calls, ∀ g ∈ ((start threads s).after range owner size calls).granted,
    ∀ b ∈ s.bindings, b.isActive → ∀ n : Int, g.2.first.val ≤ n → n ≤ g.2.last.val →
      ¬(b.first ≤ n ∧ n ≤ b.last)
  /-- What the calls did is what they would do in a row, made by one thread. -/
  sequential : ∀ calls,
    ((start threads s).after range owner size calls).store =
        (Store.haul range owner size (calls.map (·.now)) s).store ∧
      ((start threads s).after range owner size calls).granted.map (·.2) =
        (Store.haul range owner size (calls.map (·.now)) s).granted
  /-- When all threads were refused, the spans that were granted are those of one loop that
  goes on until it is refused, in this order, and the store is that of the loop but for
  instants.  It does not matter whether a thread called again after it was refused. -/
  confluent : 0 < threads → ∀ calls,
    ((start threads s).after range owner size calls).Finished → ∀ nows fault,
      (Store.haul range owner size nows s).refusal = some fault →
      ((start threads s).after range owner size calls).granted.map (·.2.span) =
          (Store.haul range owner size nows s).granted.map Binding.span ∧
        ((start threads s).after range owner size calls).store.undated =
          (Store.haul range owner size nows s).store.undated
  /-- Such a loop needs no more calls than the range has numbers. -/
  all : 0 < threads → ∀ calls,
    ((start threads s).after range owner size calls).Finished → ∀ now,
      ((start threads s).after range owner size calls).granted.map (·.2.span) =
          (s.reserveAll range owner size now).1.map Binding.span ∧
        ((start threads s).after range owner size calls).store.undated =
          (s.reserveAll range owner size now).2.undated

theorem law (sound : Sound s) (bounded : s.Bounded) (range : PortRange) (owner : String)
    (size threads : Nat) : Law s range owner size threads where
  ends _ := length_calls_le sound bounded
  completes _ allowed now := exists_finished sound bounded now allowed
  fits calls := ((Safe.start sound bounded).after calls).fits
  disjoint calls := ((Safe.start sound bounded).after calls).apart
  spares calls g member b present active n below above within :=
    (((Safe.start sound bounded).after calls).taken g member n below above).2
      ⟨b, present, active, within.1, within.2⟩
  sequential := start_after range owner size s
  confluent any _ finished _ _ refused :=
    agrees_of_finished any finished (Store.spent_of_refusal refused)
  all any _ finished now := by
    have spent := Store.spent_reserveAll sound bounded range owner size now
    rw [Store.reserveAll, Store.reserveUpTo_eq_haul] at spent ⊢
    exact agrees_of_finished any finished spent

end Race

/-- **Races are confluent.**  After every run, any number of threads that reserve spans of
one size for one instance come to an end in every order; what is granted is apart from each
other and from what was taken before; and when all were refused, one loop would have done
the same. -/
theorem race_law (steps : List Step) (range : PortRange) (owner : String) (size threads : Nat) :
    Race.Law (Store.empty.after steps) range owner size threads :=
  Race.law (sound_after steps) (bounded_after steps) range owner size threads

end PortPool
