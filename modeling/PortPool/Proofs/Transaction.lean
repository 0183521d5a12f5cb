/-
# PortPool.Proofs.Transaction -- whole or not at all

A call does not reach the store at one blow.  It opens a transaction, looks something
up, writes a row and another one, and may be refused at each of these statements, when
others have already been carried out.  A `Script` is a call as the sequence of its
statements, and `Script.exec` carries them out on a connection, one after the other: a
transaction works on a copy, which takes the place of the store when it commits and is
lost when the call returns without that.

`Script.atOnce` is the other view: what the statements come to if nothing is said about
copies.  The two agree for scripts that write within a transaction only and do nothing
after it (`Script.Sealed`).  Such a call has its whole effect or none (`run_of_sealed`);
in particular, whoever is refused leaves nothing behind.
-/
import PortPool.Proofs.Except

namespace PortPool

set_option autoImplicit false

/-! ## Connections -/

/-- What a connection sees: the store, and the copy on which an open transaction works. -/
structure Connection where
  stored : Store
  copy : Option Store := none

namespace Connection

/-- The rows that a statement meets. -/
def seen (c : Connection) : Store := c.copy.getD c.stored

/-- A transaction is opened. -/
def begun (c : Connection) : Connection := ⟨c.stored, some c.stored⟩

/-- A statement has left these rows; outside of a transaction they are stored at once. -/
def written (c : Connection) (s : Store) : Connection :=
  match c.copy with
  | some _ => ⟨c.stored, some s⟩
  | none => ⟨s, none⟩

/-- The open transaction is stored. -/
def committed (c : Connection) : Connection := ⟨c.seen, none⟩

end Connection

/-! ## Scripts -/

/-- A call, statement by statement.  A statement that writes takes effect or fails; what
follows a statement that reads may depend on what it saw. -/
inductive Script (α : Type) where
  | done (a : α)
  | fail (fault : Fault)
  | begin (rest : Script α)
  | read (rest : Store → Script α)
  | write (change : Store → Except Fault Store) (rest : Script α)
  | commit (rest : Script α)

namespace Script

variable {α β : Type}

/-- One script after another. -/
def bind : Script α → (α → Script β) → Script β
  | done a, next => next a
  | fail fault, _ => fail fault
  | begin rest, next => begin (rest.bind next)
  | read rest, next => read fun s => (rest s).bind next
  | write change rest, next => write change (rest.bind next)
  | commit rest, next => commit (rest.bind next)

instance : Monad Script where
  pure := done
  bind := bind

/-- What is decided without a look at the store. -/
def decided : Except Fault α → Script α
  | .ok a => done a
  | .error fault => fail fault

/-- A statement that reads. -/
def query (look : Store → Except Fault α) : Script α := read fun s => decided (look s)

/-- A statement that writes. -/
def change (f : Store → Except Fault Store) : Script Unit := write f (done ())

/-- What is done within one transaction. -/
def transaction (body : Script α) : Script α := begin (body >>= fun a => commit (done a))

/-- Carry a script out on a connection. -/
def exec : Script α → Connection → Except Fault α × Connection
  | done a, c => (.ok a, c)
  | fail fault, c => (.error fault, c)
  | begin rest, c => rest.exec c.begun
  | read rest, c => (rest c.seen).exec c
  | write change rest, c =>
    match change c.seen with
    | .ok s => rest.exec (c.written s)
    | .error fault => (.error fault, c)
  | commit rest, c => rest.exec c.committed

/-- The outcome of a call, and what is stored after it.  The copy of a transaction that
is still open is lost. -/
def run (p : Script α) (s : Store) : Except Fault α × Store :=
  let (outcome, c) := p.exec ⟨s, none⟩
  (outcome, c.stored)

/-- What the statements come to, if they succeed. -/
def atOnce : Script α → Store → Except Fault (α × Store)
  | done a, s => .ok (a, s)
  | fail fault, _ => .error fault
  | begin rest, s => rest.atOnce s
  | read rest, s => (rest s).atOnce s
  | write change rest, s => do rest.atOnce (← change s)
  | commit rest, s => rest.atOnce s

/-! ## The view of a script as a whole -/

@[simp]
theorem atOnce_pure (a : α) (s : Store) : (pure a : Script α).atOnce s = .ok (a, s) := rfl

@[simp]
theorem atOnce_fail (fault : Fault) (s : Store) :
    (fail fault : Script α).atOnce s = .error fault := rfl

@[simp]
theorem atOnce_decided (x : Except Fault α) (s : Store) :
    (decided x).atOnce s = x.map (·, s) := by
  cases x <;> rfl

@[simp]
theorem atOnce_query (look : Store → Except Fault α) (s : Store) :
    (query look).atOnce s = (look s).map (·, s) :=
  atOnce_decided (look s) s

@[simp]
theorem atOnce_change (f : Store → Except Fault Store) (s : Store) :
    (change f).atOnce s = (f s).map ((), ·) := by
  simp only [change, atOnce]
  cases f s <;> rfl

theorem atOnce_bind (p : Script α) (next : α → Script β) (s : Store) :
    (p >>= next).atOnce s = p.atOnce s >>= fun (a, t) => (next a).atOnce t := by
  show (p.bind next).atOnce s = _
  induction p generalizing s with
  | done a => rfl
  | fail fault => rfl
  | begin rest ih => exact ih s
  | read rest ih => exact ih s s
  | write change rest ih =>
    simp only [bind, atOnce]
    cases change s with
    | ok t => exact ih t
    | error fault => rfl
  | commit rest ih => exact ih s

theorem atOnce_map (f : α → β) (p : Script α) (s : Store) :
    (f <$> p).atOnce s = (p.atOnce s).map fun (a, t) => (f a, t) := by
  show (p >>= fun a => done (f a)).atOnce s = _
  rw [atOnce_bind]
  cases p.atOnce s <;> rfl

theorem atOnce_transaction (body : Script α) (s : Store) :
    (transaction body).atOnce s = body.atOnce s := by
  show (body >>= fun a => commit (done a)).atOnce s = _
  rw [atOnce_bind]
  cases body.atOnce s <;> rfl

/-! ## Transactions -/

/-- No transaction is opened or committed. -/
def Inner : Script α → Prop
  | done _ | fail _ => True
  | begin _ | commit _ => False
  | read rest => ∀ s, (rest s).Inner
  | write _ rest => rest.Inner

/-- Whatever is written is written within a transaction, and nothing comes after that.
`inside` says whether one is open. -/
def Sealed (inside : Bool) : Script α → Prop
  | done _ => inside = false
  | fail _ => True
  | begin rest => inside = false ∧ rest.Sealed true
  | read rest => ∀ s, (rest s).Sealed inside
  | write _ rest => inside = true ∧ rest.Sealed true
  | commit rest => inside = true ∧ ∃ a, rest = done a

theorem inner_decided (x : Except Fault α) : (decided x).Inner := by
  cases x <;> trivial

theorem inner_query (look : Store → Except Fault α) : (query look).Inner :=
  fun s => inner_decided (look s)

theorem inner_change (f : Store → Except Fault Store) : (change f).Inner := trivial

theorem Inner.bind {p : Script α} {next : α → Script β} (first : p.Inner)
    (rest : ∀ a, (next a).Inner) : (p >>= next).Inner := by
  show (p.bind next).Inner
  induction p with
  | done a => exact rest a
  | fail fault => trivial
  | read _ ih => exact fun s => ih s (first s)
  | write _ _ ih => exact ih first
  | begin _ _ => exact first.elim
  | commit _ _ => exact first.elim

theorem Inner.mapM {step : α → Script β} (each : ∀ a, (step a).Inner) (l : List α) :
    (l.mapM' step).Inner := by
  induction l with
  | nil => trivial
  | cons a l ih => exact (each a).bind fun _ => ih.bind fun _ => trivial

theorem Inner.forM {step : α → Script PUnit} (each : ∀ a, (step a).Inner) (l : List α) :
    (forM l step).Inner := by
  induction l with
  | nil => trivial
  | cons a l ih => exact (each a).bind fun _ => ih

theorem sealed_query (look : Store → Except Fault α) : (query look).Sealed false := by
  intro s
  dsimp only
  cases look s <;> trivial

theorem Inner.sealed {body : Script α} (inner : body.Inner) : (transaction body).Sealed false := by
  refine ⟨rfl, ?_⟩
  show (body.bind fun a => commit (done a)).Sealed true
  induction body with
  | done a => exact ⟨rfl, a, rfl⟩
  | fail fault => trivial
  | read _ ih => exact fun s => ih s (inner s)
  | write _ _ ih => exact ⟨rfl, ih inner⟩
  | begin _ _ => exact inner.elim
  | commit _ _ => exact inner.elim

theorem Sealed.after_decided (x : Except Fault α) {next : α → Script β}
    (rest : ∀ a, (next a).Sealed false) : (decided x >>= next).Sealed false := by
  cases x with
  | ok a => exact rest a
  | error fault => trivial

theorem Sealed.map {inside : Bool} {p : Script α} (isSealed : p.Sealed inside) (f : α → β) :
    (f <$> p).Sealed inside := by
  show (p.bind fun a => done (f a)).Sealed inside
  induction p generalizing inside with
  | done a => exact isSealed
  | fail fault => trivial
  | begin _ ih => exact ⟨isSealed.1, ih isSealed.2⟩
  | read _ ih => exact fun s => ih s (isSealed s)
  | write _ _ ih => exact ⟨isSealed.1, ih isSealed.2⟩
  | commit rest _ =>
    obtain ⟨inside, a, rfl⟩ := isSealed
    exact ⟨inside, f a, rfl⟩

/-- The outcome of a call that had its whole effect, or none. -/
def settled (s : Store) : Except Fault (α × Store) → Except Fault α × Store
  | .ok (a, t) => (.ok a, t)
  | .error fault => (.error fault, s)

/-- Within a transaction, what is stored stays until the commit. -/
theorem exec_of_sealed_true {p : Script α} (isSealed : p.Sealed true) (s u : Store) :
    ((p.exec ⟨s, some u⟩).1, (p.exec ⟨s, some u⟩).2.stored) = settled s (p.atOnce u) := by
  induction p generalizing u with
  | done a => cases isSealed
  | fail fault => rfl
  | begin rest _ => cases isSealed.1
  | read rest ih => exact ih u (isSealed u) u
  | write change rest ih =>
    simp only [exec, atOnce, Connection.seen, Option.getD_some]
    cases change u with
    | ok v => exact ih isSealed.2 v
    | error fault => rfl
  | commit rest _ =>
    obtain ⟨-, a, rfl⟩ := isSealed
    rfl

/-- **A sealed call has its whole effect or none.** -/
theorem run_of_sealed {p : Script α} (isSealed : p.Sealed false) (s : Store) :
    p.run s = settled s (p.atOnce s) := by
  induction p with
  | done a => rfl
  | fail fault => rfl
  | begin rest _ => exact exec_of_sealed_true isSealed.2 s s
  | read rest ih => exact ih s (isSealed s)
  | write change rest _ => cases isSealed.1
  | commit rest _ => cases isSealed.1

/-- Without a transaction, what was written before the refusal stays. -/
example (s : Store) (fault : Fault) :
    (change (fun s => .ok (s.fillPorts 1 1)) >>= fun _ => (fail fault : Script Unit)).run s =
      (.error fault, s.fillPorts 1 1) :=
  rfl

/-- Whoever is refused leaves nothing behind. -/
theorem stored_of_refused {p : Script α} (isSealed : p.Sealed false) {s t : Store}
    {fault : Fault} (refused : p.run s = (.error fault, t)) : t = s := by
  rw [run_of_sealed isSealed] at refused
  cases whole : p.atOnce s with
  | ok done =>
    rw [whole] at refused
    cases refused
  | error other =>
    rw [whole] at refused
    cases refused
    rfl

end Script

end PortPool
