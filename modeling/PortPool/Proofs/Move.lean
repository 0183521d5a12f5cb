/-
# PortPool.Proofs.Move -- what one request may do to the store

Whatever is asked of the store, it changes in one of four ways only: an instance
is added, ports are recorded, a span of free ports is bound, or a binding is
marked as released.  `Move` says under which conditions each of them happens and
what is written, and `next_moves` that every request, granted or not, is a sequence
of such moves.  It forgets what was asked and what was answered.

A run is a list of steps, each a request under the settings in force and at an
instant.  What holds of the empty store and is kept by every move of a run's steps
holds after the run (`after_induction`), whatever the operations were.
-/
import Mathlib.Logic.Relation
import PortPool.Proofs.Change

namespace PortPool

set_option autoImplicit false

open Relation (ReflTransGen)
open Time.Rfc3339 (stored)

open Store

/-- A change that a request may make, at an instant and under settings with this range.
`joins` are the instances that it may add. -/
inductive Move (joins : NewInstance → Prop) (range : PortRange) (now : Time.Instant) :
    Store → Store → Prop where
  | join {s : Store} {new : NewInstance} (asked : joins new) (fresh : ¬s.Registered new.id) :
      Move joins range now s (s.joined (new.row now))
  | record {s : Store} {number : Int} {count : Nat}
      (inRange : ∀ n, number ≤ n → n < number + count → range.has n) :
      Move joins range now s (s.fillPorts number count)
  | bind {s : Store} {owner : String} {first last : Int}
      (ordered : first ≤ last) (registered : s.Registered owner)
      (known : ∀ n, first ≤ n → n ≤ last → s.Knows n)
      (free : ∀ r ∈ s.ports.rows, first ≤ r.number → r.number ≤ last →
        s.isReserved r = false ∧ s.nextBinding ∉ r.holders) :
      Move joins range now s (s.bound owner first last (stored now))
  | release {s : Store} {b : BindingRow} (present : b ∈ s.bindings) (active : b.isActive) :
      Move joins range now s (s.released b.id (stored now))

/-- Changes made one after the other. -/
abbrev Moves (joins : NewInstance → Prop) (range : PortRange) (now : Time.Instant) :
    Store → Store → Prop :=
  ReflTransGen (Move joins range now)

namespace Store

variable {s t : Store} {joins : NewInstance → Prop} {range : PortRange} {owner : String}
  {now : Time.Instant}

/-! ## Joining, reserving and releasing -/

theorem join_moves {new : NewInstance} {i : Instance} (asked : joins new)
    (granted : s.join new now = .ok (i, t)) : Moves joins range now s t := by
  obtain ⟨fresh, rfl⟩ := join_inversion granted
  exact .single (.join asked fresh)

theorem bind_moves {first last : Int} {b : Binding}
    (known : ∀ n, first ≤ n → n ≤ last → s.Knows n)
    (granted : s.bind owner first last now = .ok (b, t)) : Move joins range now s t := by
  obtain ⟨ordered, registered, free, -, rfl⟩ := bind_eq_ok_iff.mp granted
  exact .bind ordered registered known free

theorem Prepared.moves {first last : Int} {u : Store} (prepared : s.Prepared range first last u) :
    Moves joins range now s u := by
  rcases prepared.recorded with rfl | ⟨count, rfl, ends⟩
  · exact .refl
  · exact .single (.record fun n above below => prepared.inRange n above (by omega))

theorem reserveSpan_moves {size : Nat} {b : Binding}
    (granted : s.reserveSpan range owner size now = .ok (b, t)) : Moves joins range now s t := by
  obtain ⟨first, last, u, prepared, granted⟩ := reserveSpan_inversion granted
  exact .tail prepared.moves (bind_moves prepared.known granted)

theorem Ended.moves {ownership : Ownership} {named : Option String} {row : BindingRow}
    {b : Binding} (ended : s.Ended ownership named now row b t) : Moves joins range now s t := by
  rw [ended.store]
  exact .single (.release ended.present ended.active)

/-! ## Observing and seeding -/

theorem recordEach_moves {numbers : List PortNumber} {ports : List Port}
    (inRange : ∀ n ∈ numbers, range.has n.val)
    (granted : recordEach numbers s = .ok (ports, t)) : Moves joins range now s t := by
  induction numbers generalizing s ports with
  | nil =>
    cases granted
    exact .refl
  | cons n numbers ih =>
    have recorded : Moves joins range now s
        (if (s.ports.find? n.val).isSome then s else s.fillPorts n.val 1) := by
      split
      · exact .refl
      · refine .single (.record fun m low high => ?_)
        rw [show m = n.val by omega]
        exact inRange n List.mem_cons_self
    simp only [recordEach, bind_eq_ok] at granted
    obtain ⟨_, -, granted⟩ := granted
    split at granted
    · cases granted
    · simp only [bind_eq_ok] at granted
      obtain ⟨⟨rest, u⟩, others, granted⟩ := granted
      cases granted
      exact recorded.trans (ih (fun m member => inRange m (List.mem_cons_of_mem _ member)) others)

theorem mem_observed {reported : List PortNumber} {n : PortNumber} :
    n ∈ (ascending ((reported.filter fun n => range.has n.val).map (·.val))).map
        (fun (n : Nat) => PortNumber.wrap (n : Int)) ↔ n ∈ reported ∧ range.has n.val := by
  have wrapped (m : PortNumber) : PortNumber.wrap ((m.val : Nat) : Int) = m := by
    have := PortNumber.wrap_val (i := (m.val : Int)) (by omega) (by omega)
    exact Fin.ext (by omega)
  simp only [List.mem_map, mem_ascending, List.mem_filter]
  constructor
  · rintro ⟨k, ⟨m, ⟨member, inRange⟩, rfl⟩, rfl⟩
    rw [wrapped]
    exact ⟨member, inRange⟩
  · rintro ⟨member, inRange⟩
    exact ⟨n.val, ⟨n, ⟨member, inRange⟩, rfl⟩, wrapped n⟩

theorem observe_moves {reported : List PortNumber} {ports : List Port}
    (granted : s.observe range reported = .ok (ports, t)) : Moves joins range now s t :=
  recordEach_moves (fun _ member => (mem_observed.mp member).2) granted

theorem seed_moves (s : Store) (range : PortRange) (now : Time.Instant) :
    Moves joins range now s (s.seed range).2 := by
  refine .single (.record fun n low high => ?_)
  simp only [PortRange.has, PortRange.size, Bool.and_eq_true, decide_eq_true_eq] at *
  omega

end Store

/-! ## Requests -/

open Operation (changing_eq_ok reading_eq_ok)

/-- **Every request makes moves under its own settings.** -/
theorem next_moves (settings : Settings) (now : Time.Instant) (s : Store) (op : Operation) :
    Moves (fun new => op = .join new) settings.range now s (op.next settings now s) := by
  simp only [Operation.next]
  split
  · rename_i answer t granted
    cases op with
    | join new =>
      obtain ⟨i, granted, -⟩ := changing_eq_ok.mp granted
      exact join_moves rfl granted
    | reserve owner size =>
      obtain ⟨b, granted, -⟩ := changing_eq_ok.mp granted
      obtain ⟨n, granted⟩ := reserve_inversion granted
      exact reserveSpan_moves granted
    | reserveSpan owner size =>
      obtain ⟨b, granted, -⟩ := changing_eq_ok.mp granted
      exact reserveSpan_moves granted
    | reserveOne owner =>
      obtain ⟨b, granted, -⟩ := changing_eq_ok.mp granted
      rw [reserveOne_eq_reserveSpan] at granted
      exact reserveSpan_moves granted
    | release request =>
      obtain ⟨b, granted, -⟩ := changing_eq_ok.mp granted
      obtain ⟨row, ended⟩ := release_ended granted
      exact ended.moves
    | releasePort number owner =>
      obtain ⟨b, granted, -⟩ := changing_eq_ok.mp granted
      obtain ⟨row, ended⟩ := releasePort_ended granted
      exact ended.moves
    | releaseSpan first last owner =>
      obtain ⟨b, granted, -⟩ := changing_eq_ok.mp granted
      obtain ⟨row, ended⟩ := releaseSpan_ended granted
      exact ended.moves
    | observe reported =>
      obtain ⟨ports, granted, -⟩ := changing_eq_ok.mp granted
      exact observe_moves granted
    | seed =>
      cases granted
      exact seed_moves s settings.range now
    | getInstance | findInstance | listInstances | listPorts | listBindings | findPort
    | findBinding =>
      obtain ⟨-, rfl⟩ := reading_eq_ok.mp granted
      exact .refl
  · exact .refl

/-! ## Runs -/

/-- One request, under the settings in force and at an instant. -/
structure Step where
  settings : Settings
  now : Time.Instant
  request : Operation

/-- A change that a step may make. -/
abbrev Step.Move (step : Step) : Store → Store → Prop :=
  PortPool.Move (fun new => step.request = .join new) step.settings.range step.now

/-- The store after a run: each request is carried out, and one that is refused
changes nothing. -/
def Store.after (s : Store) (steps : List Step) : Store :=
  steps.foldl (fun s step => step.request.next step.settings step.now s) s

/-- The steps that make these requests under the same settings, all at one instant. -/
def Step.each (settings : Settings) (now : Time.Instant) (requests : List Operation) :
    List Step :=
  requests.map fun request => ⟨settings, now, request⟩

@[simp]
theorem after_nil (s : Store) : s.after [] = s := rfl

@[simp]
theorem after_cons (s : Store) (step : Step) (steps : List Step) :
    s.after (step :: steps) =
      (step.request.next step.settings step.now s).after steps := rfl

theorem after_append (s : Store) (steps others : List Step) :
    s.after (steps ++ others) = (s.after steps).after others :=
  List.foldl_append

/-- **What every move of a run keeps holds after the run.** -/
theorem after_induction {P : Store → Prop} {s : Store} (steps : List Step) (initially : P s)
    (kept : ∀ step ∈ steps, ∀ t u, step.Move t u → P t → P u) :
    P (s.after steps) := by
  induction steps generalizing s with
  | nil => exact initially
  | cons step steps ih =>
    rw [after_cons]
    refine ih ?_ fun other member => kept other (List.mem_cons_of_mem _ member)
    have moves := next_moves step.settings step.now s step.request
    generalize step.request.next step.settings step.now s = u at moves
    induction moves with
    | refl => exact initially
    | tail _ move before => exact kept step List.mem_cons_self _ _ move before

end PortPool
