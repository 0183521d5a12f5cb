/-
# PortPool.Proofs.Http.Refusal -- what is refused or only read changes nothing

A request over HTTP that is not answered with success leaves the store as it was, its
counters included, and so does every request that is not a `POST`.  This is so for
whatever the store holds, and at whichever of its statements a call is refused: a call
is a script whose writes are stored with its commit, or not at all.
-/
import PortPool.Proofs.Http.Service
import PortPool.Proofs.Statements

namespace PortPool

set_option autoImplicit false

namespace Http

/-- The request was granted. -/
def Response.succeeds (r : Response) : Bool := 200 ≤ r.status && r.status < 300

theorem fault_succeeds (f : Fault) : (Response.fault f).succeeds = false := by
  cases f <;> rfl

section Refused

variable {settings : Settings} {now : Time.Instant} {s : Store} {r : Request}

theorem answer_snd {α : Type} [Wire.Record α] {status : Nat}
    {result : Except Fault (α × Store)} (granted : status = 200 ∨ status = 201)
    (refused : (answer status s result).1.succeeds = false) : (answer status s result).2 = s := by
  cases result with
  | error fault => rfl
  | ok done =>
    rcases granted with rfl | rfl <;> cases refused

theorem postObserved_refused (refused : (postObserved settings s r).1.succeeds = false) :
    (postObserved settings s r).2 = s := by
  simp only [postObserved] at refused ⊢
  split at refused
  · cases refused
  · rfl

theorem post_refused {route : Route}
    (refused : (post settings now s r route).1.succeeds = false) :
    (post settings now s r route).2 = s := by
  cases route with
  | instances => exact answer_snd (.inr rfl) refused
  | reserve => exact answer_snd (.inr rfl) refused
  | release => exact answer_snd (.inl rfl) refused
  | observed => exact postObserved_refused refused
  | health | oneInstance | ports | bindings => rfl

/-- Only a `POST` can change the store. -/
theorem serve_reading (reading : r.method ≠ "POST") : (serve settings now s r).2 = s := by
  rw [serve_snd, operation?, if_neg reading]
  rfl

/-- What is refused leaves the store as it was. -/
theorem serve_refused (refused : (serve settings now s r).1.succeeds = false) :
    (serve settings now s r).2 = s := by
  by_cases posted : r.method = "POST"
  · cases path : Route.ofPath r.path with
    | none => simp only [serve, path]
    | some route =>
      cases allowed : route.methods.contains "POST" with
      | true =>
        rw [serve_posted posted path allowed] at refused ⊢
        exact post_refused refused
      | false =>
        rw [serve_snd, operation?, if_pos posted, path]
        cases route <;> first | rfl | cases allowed
  · exact serve_reading posted

end Refused

end Http

/-- **What is refused or only read changes nothing.**  So it is with every request over
HTTP and with every call, whatever the store holds; and on a store that was written by
anyone, by the statements of the service or directly, the calls over HTTP are those
that are carried out statement by statement. -/
theorem refused_unchanged (settings : Settings) (now : Time.Instant) (s : Store) :
    (∀ r, ((Http.serve settings now s r).1.succeeds = false ∨ r.method ≠ "POST") →
      (Http.serve settings now s r).2 = s) ∧
    (∀ (request : Operation) (fault : Fault),
      ((request.script settings now).run s).1 = .error fault →
        ((request.script settings now).run s).2 = s) ∧
    ∀ deeds, s = Store.empty.upon deeds →
      (∀ request : Operation, (request.script settings now).run s =
        ((request.perform settings now s).map Prod.fst, request.next settings now s)) ∧
      ∀ r, (Http.serve settings now s r).2 =
        (Http.operation? r).elim s fun request => ((request.script settings now).run s).2 := by
  refine ⟨?_, ?_, ?_⟩
  · rintro r (refused | reading)
    · exact Http.serve_refused refused
    · exact Http.serve_reading reading
  · intro request fault refused
    exact Script.stored_of_refused (Operation.script_sealed settings now request)
      (Prod.ext refused rfl)
  · rintro deeds rfl
    have guarded := (Guarded.empty.upon deeds).1
    refine ⟨fun request => Operation.run_script settings now request guarded, fun r => ?_⟩
    rw [Http.serve_snd]
    cases Http.operation? r with
    | none => rfl
    | some request =>
      simp only [Option.elim_some, Operation.run_script settings now request guarded]

end PortPool
