/-
# PortPool.Proofs.Except -- opening attempts

Every operation is an attempt: a chain of steps of which each may fail.  These
lemmas take such a chain apart, one step at a time, from its outcome.
-/
import Mathlib.Data.List.Forall2
import PortPool.Store.Read

namespace PortPool

set_option autoImplicit false

variable {ε α β : Type}

@[simp]
theorem bind_ok (a : α) (f : α → Except ε β) : ((.ok a : Except ε α) >>= f) = f a := rfl

@[simp]
theorem bind_error (e : ε) (f : α → Except ε β) :
    ((.error e : Except ε α) >>= f) = .error e := rfl

@[simp]
theorem pure_eq_ok (a : α) : (pure a : Except ε α) = .ok a := rfl

@[simp]
theorem map_ok (f : α → β) (a : α) : (.ok a : Except ε α).map f = .ok (f a) := rfl

@[simp]
theorem map_error (f : α → β) (e : ε) : (.error e : Except ε α).map f = .error e := rfl

theorem bind_eq_ok {x : Except ε α} {f : α → Except ε β} {b : β} :
    (x >>= f) = .ok b ↔ ∃ a, x = .ok a ∧ f a = .ok b := by
  cases x <;> simp

theorem bind_eq_error {x : Except ε α} {f : α → Except ε β} {e : ε} :
    (x >>= f) = .error e ↔ x = .error e ∨ ∃ a, x = .ok a ∧ f a = .error e := by
  cases x <;> simp

theorem map_eq_ok {x : Except ε α} {f : α → β} {b : β} :
    x.map f = .ok b ↔ ∃ a, x = .ok a ∧ f a = b := by
  cases x <;> simp

theorem map_eq_error {x : Except ε α} {f : α → β} {e : ε} :
    x.map f = .error e ↔ x = .error e := by
  cases x <;> simp

theorem toOption_eq_some {x : Except ε α} {a : α} : x.toOption = some a ↔ x = .ok a := by
  cases x <;> simp [Except.toOption]

/-! ## An attempt for each element -/

/-- What is related to a list, element by element, has an element for each of the list. -/
theorem exists_of_forall₂ {R : α → β → Prop} {l : List α} {bs : List β} (related : l.Forall₂ R bs)
    {a : α} (member : a ∈ l) : ∃ b ∈ bs, R a b := by
  induction related with
  | nil => cases member
  | cons first _ ih =>
    rcases List.mem_cons.mp member with rfl | later
    · exact ⟨_, List.mem_cons_self, first⟩
    · obtain ⟨b, among, rest⟩ := ih later
      exact ⟨b, List.mem_cons_of_mem _ among, rest⟩

section Each

variable {f : α → Except ε β} {l : List α} {bs : List β}

/-- **All succeed if each does**, with its result for each element. -/
theorem mapM_eq_ok : l.mapM f = .ok bs ↔ l.Forall₂ (fun a b => f a = .ok b) bs := by
  induction l generalizing bs with
  | nil => simp [eq_comm]
  | cons a l ih =>
    simp only [List.mapM_cons, bind_eq_ok, List.forall₂_cons_left_iff, ih, pure_eq_ok,
      Except.ok.injEq]
    constructor
    · rintro ⟨b, first, bs, rest, rfl⟩
      exact ⟨b, bs, first, rest, rfl⟩
    · rintro ⟨b, bs, first, rest, rfl⟩
      exact ⟨b, first, bs, rest, rfl⟩

/-- They fail as one of them does. -/
theorem exists_of_mapM_eq_error {e : ε} (failed : l.mapM f = .error e) :
    ∃ a ∈ l, f a = .error e := by
  induction l with
  | nil => cases failed
  | cons a l ih =>
    rw [List.mapM_cons, bind_eq_error] at failed
    rcases failed with first | ⟨b, -, failed⟩
    · exact ⟨a, List.mem_cons_self, first⟩
    rcases bind_eq_error.mp failed with rest | ⟨bs, -, done⟩
    · obtain ⟨c, among, fails⟩ := ih rest
      exact ⟨c, List.mem_cons_of_mem _ among, fails⟩
    · cases done

theorem exists_of_mapM_eq_ok (done : l.mapM f = .ok bs) {a : α} (member : a ∈ l) :
    ∃ b ∈ bs, f a = .ok b :=
  exists_of_forall₂ (mapM_eq_ok.mp done) member

theorem exists_of_mem_mapM (done : l.mapM f = .ok bs) {b : β} (member : b ∈ bs) :
    ∃ a ∈ l, f a = .ok b :=
  exists_of_forall₂ (mapM_eq_ok.mp done).flip member

/-- If each succeeds with a result that is related to its element, so are all results. -/
theorem exists_forall₂_of_mapM {R : α → β → Prop} (each : ∀ a ∈ l, ∃ b, f a = .ok b ∧ R a b) :
    ∃ bs, l.mapM f = .ok bs ∧ l.Forall₂ R bs := by
  cases outcome : l.mapM f with
  | error e =>
    obtain ⟨a, among, failed⟩ := exists_of_mapM_eq_error outcome
    obtain ⟨b, done, -⟩ := each a among
    cases failed.symm.trans done
  | ok bs =>
    refine ⟨bs, rfl, ((List.forall₂_and_left _ _).mpr ⟨each, mapM_eq_ok.mp outcome⟩).imp ?_⟩
    rintro a b ⟨⟨c, done, related⟩, told⟩
    cases done.symm.trans told
    exact related

theorem mapM_of_forall {g : α → β} (each : ∀ a ∈ l, f a = .ok (g a)) :
    l.mapM f = .ok (l.map g) :=
  mapM_eq_ok.mpr (List.forall₂_map_right_iff.mpr (List.forall₂_same.mpr each))

theorem mapM_congr {g : α → Except ε β} (same : ∀ a ∈ l, f a = g a) : l.mapM f = l.mapM g := by
  induction l with
  | nil => rfl
  | cons a l ih =>
    rw [List.mapM_cons, List.mapM_cons, same a List.mem_cons_self,
      ih fun b later => same b (List.mem_cons_of_mem _ later)]

end Each

/-! ## Reading -/

@[simp]
theorem readable_eq_ok {o : Option α} {a : α} : readable o = .ok a ↔ o = some a := by
  cases o <;> simp [readable]

@[simp]
theorem readable_eq_error {o : Option α} {fault : Fault} :
    readable o = .error fault ↔ o = none ∧ fault = .store := by
  cases o <;> simp [readable, eq_comm]

end PortPool
