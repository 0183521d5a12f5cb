/-
# PortPool.Proofs.Turn -- a run, turn by turn

What a run says about the service is not only the store that it ends in but also what
was answered on the way.  A turn is a step together with the store that it meets, so
that its answer is known (`Turn.outcome`); `Store.turns` lists the turns of a run.

Of an answer only one thing matters to the bindings: which binding was reserved, or
which was released.  `Turn.cases` says of each turn which of the two it was, if any,
and what it did to the store.
-/
import PortPool.Proofs.Effect

namespace PortPool

set_option autoImplicit false

/-- A step of a run and the store that it meets. -/
structure Turn where
  store : Store
  step : Step

namespace Turn

/-- The store after the step. -/
def next (turn : Turn) : Store :=
  turn.step.request.next turn.step.settings turn.step.now turn.store

/-- What the step is answered. -/
def outcome (turn : Turn) : Except Fault Answer :=
  (turn.step.request.perform turn.step.settings turn.step.now turn.store).map (·.1)

/-- The binding that was answered to a request for ports. -/
def reserved? (turn : Turn) : Option Binding :=
  match turn.step.request.reserves, turn.outcome with
  | true, .ok (.binding b) => some b
  | _, _ => none

/-- The binding that was answered to a request that gives ports back. -/
def released? (turn : Turn) : Option Binding :=
  match turn.step.request.releases, turn.outcome with
  | true, .ok (.binding b) => some b
  | _, _ => none

theorem reserves_ne_releases {request : Operation} (asks : request.reserves) :
    request.releases = false := by
  cases request with
  | reserve | reserveSpan | reserveOne => rfl
  | _ => cases asks

/-- **What a turn did to the bindings, by its answer.** -/
theorem cases (turn : Turn) :
    (∃ b, turn.reserved? = some b ∧ turn.released? = none ∧
      turn.store.Reserved turn.step.now b turn.next) ∨
    (∃ row b, turn.reserved? = none ∧ turn.released? = some b ∧
      turn.store.Ended turn.step.settings.ownership turn.step.request.named turn.step.now row b
        turn.next) ∨
    (turn.reserved? = none ∧ turn.released? = none ∧
      turn.next.bindings = turn.store.bindings ∧
      turn.next.nextBinding = turn.store.nextBinding) := by
  obtain ⟨s, settings, now, request⟩ := turn
  simp only [reserved?, released?, outcome, next, Operation.next]
  cases performed : request.perform settings now s with
  | error fault =>
    refine .inr (.inr ⟨?_, ?_, rfl, rfl⟩)
    · cases request.reserves <;> rfl
    · cases request.releases <;> rfl
  | ok done =>
    obtain ⟨answer, t⟩ := done
    cases perform_effect performed with
    | @reserved b _ asks granted =>
      exact .inl ⟨b, by simp [asks], by simp [reserves_ne_releases asks], granted⟩
    | @ended row b _ asks granted =>
      have reservesNot : request.reserves = false := by
        cases reserving : request.reserves with
        | false => rfl
        | true =>
          rw [reserves_ne_releases reserving] at asks
          cases asks
      exact .inr (.inl ⟨row, b, by simp [reservesNot], by simp [asks], granted⟩)
    | other reservesNot releasesNot bindings counter =>
      exact .inr (.inr ⟨by simp [reservesNot], by simp [releasesNot], bindings, counter⟩)

/-- A binding is released by a request that gives ports back. -/
theorem of_released? {turn : Turn} {b : Binding} (released : turn.released? = some b) :
    turn.step.request.releases ∧ ∃ t, turn.step.request.perform turn.step.settings turn.step.now
      turn.store = .ok (.binding b, t) := by
  rw [released?] at released
  split at released
  · rename_i asks answered
    cases released
    obtain ⟨⟨answer, t⟩, performed, rfl⟩ := map_eq_ok.mp answered
    exact ⟨asks, t, performed⟩
  · cases released

end Turn

/-- The turns of a run, the first one first. -/
def Store.turns (s : Store) : List Step → List Turn
  | [] => []
  | step :: steps => ⟨s, step⟩ :: (Turn.mk s step).next.turns steps

@[simp]
theorem turns_nil (s : Store) : s.turns [] = [] := rfl

theorem turns_cons (s : Store) (step : Step) (steps : List Step) :
    s.turns (step :: steps) = ⟨s, step⟩ :: (s.after [step]).turns steps := rfl

theorem turns_append (s : Store) (steps others : List Step) :
    s.turns (steps ++ others) = s.turns steps ++ (s.after steps).turns others := by
  induction steps generalizing s with
  | nil => rfl
  | cons step steps ih =>
    rw [List.cons_append, turns_cons, turns_cons, ih, List.cons_append]
    rfl

end PortPool
