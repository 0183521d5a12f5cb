/-
# PortPool.Proofs.Outcome -- what a release comes to, case by case

A release is decided in steps: whether an owner has to be named, whether the one that is
named joined, and what is found behind the port or by the span (`releasePort_cases`,
`releaseSpan_cases`).  Each step has its own fault.  Because the steps come in this order,
the faults exclude each other, and which of them is answered tells in turn what was the
matter; that is what the laws say (`PortReleaseLaw`, `SpanReleaseLaw`).

What is released is one binding, whole, and nothing else changes (`Freed`).  A port that
belonged to other bindings before keeps its links to them, and is as free as they are.

The laws hold after every run (`releasePort_law`, `releaseSpan_law`), unless a row that has
to be read on the way cannot be, that of the named instance or that of the binding that was
found (`Blocked`); the service writes no such row.
-/
import PortPool.Proofs.Intact
import PortPool.Proofs.Lookup

namespace PortPool

set_option autoImplicit false

open Time.Rfc3339 (stored)

namespace Store

variable {s t : Store} {ownership : Ownership} {named : Option String} {now : Time.Instant}

/-! ## Who may release -/

/-- The pool asks for an owner, and none is named. -/
def Anonymous (ownership : Ownership) (named : Option String) : Prop :=
  ownership = .required ∧ named = none

/-- An owner is named where the pool asks for one, and whoever is named joined. -/
structure Entitled (s : Store) (ownership : Ownership) (named : Option String) : Prop where
  permitted : ¬Anonymous ownership named
  joined : ∀ id, named = some id → s.Registered id

/-- A row that has to be read for a release cannot be: that of the named instance, or that of
a binding that is concerned. -/
inductive Blocked (s : Store) (ownership : Ownership) (named : Option String)
    (concerned : BindingRow → Prop) : Prop where
  | owner {id : String} {r : InstanceRow} (isNamed : named = some id)
      (present : r ∈ s.instances) (same : r.id = some id) (unread : r.read = .error .store) :
      Blocked s ownership named concerned
  | binding {row : BindingRow} (entitled : s.Entitled ownership named)
      (present : row ∈ s.bindings) (isConcerned : concerned row)
      (unread : row.read = .error .store) : Blocked s ownership named concerned

/-- What follows the two checks is done for those who are entitled; all others are refused
first. -/
theorem checked_cases {α : Type} {P : Except Fault α → Prop} {look : Except Fault α}
    (anonymous : Anonymous ownership named → P (.error (.invalidRequest .ownerMissing)))
    (unregistered : ∀ id, named = some id → ¬s.Registered id → P (.error (.instanceNotRegistered id)))
    (unread : (∀ concerned, s.Blocked ownership named concerned) → P (.error .store))
    (entitled : s.Entitled ownership named → P look) :
    P (do
      checkOwnership ownership named
      s.checkInstance named
      look) := by
  cases named with
  | none =>
    by_cases required : ownership = .required
    · have refused : checkOwnership ownership none = .error (.invalidRequest .ownerMissing) := by
        simp [checkOwnership, required]
      rw [refused, bind_error]
      exact anonymous ⟨required, rfl⟩
    · have permitted : checkOwnership ownership none = .ok () := by simp [checkOwnership, required]
      rw [permitted]
      refine entitled ⟨fun anonymous => required anonymous.1, ?_⟩
      rintro id ⟨⟩
  | some id =>
    have permitted : checkOwnership ownership (some id) = .ok () := by simp [checkOwnership]
    rw [permitted, bind_ok, checkInstance]
    by_cases joined : s.Registered id
    · by_cases recalled : s.Recalls id
      · obtain ⟨i, known⟩ := recalled
        rw [known]
        refine entitled ⟨?_, ?_⟩
        · rintro ⟨-, ⟨⟩⟩
        · rintro _ ⟨rfl⟩
          exact joined
      · have failed := getInstance_of_registered joined recalled
        obtain ⟨r, present, same, untold⟩ := exists_unread failed
        rw [failed]
        exact unread fun _ => .owner rfl present same untold
    · rw [getInstance_of_unregistered joined]
      exact unregistered id rfl joined

/-! ## What a release leaves -/

/-- The active binding of this row is released: the answer tells what the row said, and its
end.  The numbers of its span, and no others, stop being reserved; and no other row of the
store changes. -/
structure Freed (s : Store) (now : Time.Instant) (row : BindingRow) (b : Binding) (t : Store) :
    Prop where
  active : row.isActive
  told : row.read = .ok { b with releasedAt := none }
  ended : b.releasedAt = some now
  bindings : t.bindings = s.bindings.map fun c =>
    if c = row then { row with releasedAt := some (stored now) } else c
  rest : t = { s with bindings := t.bindings }
  freed : (s.ports.rows.filter fun r => s.isReserved r && !t.isReserved r).map (·.number) =
    numbersFrom row.first row.last
  kept : ∀ r ∈ s.ports.rows, ¬(row.first ≤ r.number ∧ r.number ≤ row.last) →
    t.isReserved r = s.isReserved r

namespace Ended

variable {row : BindingRow} {b : Binding} (sound : Sound s)
  (ended : s.Ended ownership named now row b t)

include ended

/-- The binding was active, so apart from its end the answer says what the row said. -/
theorem read : row.read = .ok { b with releasedAt := none } ∧ b.releasedAt = some now := by
  obtain ⟨shown, told, rfl⟩ := ended.told
  have unended : shown.releasedAt = none := by
    have same := (BindingRow.of_read told).2.2.2.2
    rw [ended.active] at same
    simpa [Binding.isActive] using same
  exact ⟨by rw [told, ← unended], rfl⟩

include sound

theorem bindings_eq : t.bindings = s.bindings.map fun c =>
    if c = row then { row with releasedAt := some (stored now) } else c := by
  rw [ended.store]
  apply List.map_congr_left
  intro c mc
  unfold BindingRow.marked
  by_cases same : c = row
  · simp [same]
  · have apart : c.id ≠ row.id := fun equal => same (sound.eq_of_id_eq mc ended.present equal)
    simp [same, apart]

theorem isReserved_iff {r : PortRow} (known : r ∈ s.ports.rows) : t.isReserved r = true ↔
    s.Occupied r.number ∧ ¬(row.first ≤ r.number ∧ r.number ≤ row.last) := by
  have soundAfter : Sound t := by
    rw [ended.store]
    exact sound.release ..
  have still : r ∈ t.ports.rows := by rwa [ended.store]
  obtain ⟨shown, told, same⟩ := ended.told
  obtain ⟨-, -, starts, ends, -⟩ := BindingRow.of_read told
  rw [soundAfter.isReserved_iff still, ended.occupied_iff sound, same, starts, ends]

/-- The ports that are reserved before and not after have the numbers of the span. -/
theorem numbers_freed :
    (s.ports.rows.filter fun r => s.isReserved r && !t.isReserved r).map (·.number) =
      numbersFrom row.first row.last := by
  refine eq_of_ascending id (List.pairwise_map.mpr (s.ports.ascending.filter _))
    (numbersFrom_ascending ..) fun n => ?_
  simp only [mem_numbersFrom, List.mem_map, List.mem_filter, Bool.and_eq_true, Bool.not_eq_true',
    ← Bool.not_eq_true]
  constructor
  · rintro ⟨r, ⟨known, reserved, free⟩, rfl⟩
    by_contra outside
    exact free ((ended.isReserved_iff sound known).mpr
      ⟨(sound.isReserved_iff known).mp reserved, outside⟩)
  · rintro ⟨low, high⟩
    obtain ⟨r, known, rfl⟩ := sound.covered row ended.present n low high
    have occupied : s.Occupied r.number := ⟨row, ended.present, ended.active, low, high⟩
    exact ⟨r, ⟨known, (sound.isReserved_iff known).mpr occupied,
      fun reserved => ((ended.isReserved_iff sound known).mp reserved).2 ⟨low, high⟩⟩, rfl⟩

theorem freed : s.Freed now row b t where
  active := ended.active
  told := ended.read.1
  ended := ended.read.2
  bindings := ended.bindings_eq sound
  rest := by rw [ended.store]; rfl
  freed := ended.numbers_freed sound
  kept r known outside := by
    rw [Bool.eq_iff_iff, ended.isReserved_iff sound known, sound.isReserved_iff known]
    exact and_iff_left outside

end Ended

/-- What was found is released, or its row cannot be read. -/
theorem finish_cases (sound : Sound s) (now : Time.Instant)
    (entitled : s.Entitled ownership named) {row : BindingRow} (present : row ∈ s.bindings)
    (active : row.isActive) (answers : row.AnswersTo named) :
    s.finish row now = .error .store ∧ row.read = .error .store ∨
      ∃ b t, s.finish row now = .ok (b, t) ∧ s.Freed now row b t := by
  have finished : s.finish row now = _ :=
    finish_eq_map present active fun c mc same => sound.eq_of_id_eq mc present same
  cases told : row.read with
  | error fault =>
    obtain rfl := BindingRow.error_store_of_read told
    exact .inl ⟨by rw [finished, told, map_error], rfl⟩
  | ok shown =>
    right
    rw [told, map_ok] at finished
    have permitted : ownership = .required → named ≠ none :=
      fun required unnamed => entitled.permitted ⟨required, unnamed⟩
    exact ⟨_, _, finished,
      (finish_ended present active (ownedBy_iff.mpr answers) permitted finished).freed sound⟩

/-! ## By a port -/

/-- The ways in which a release of a port can go, each with what it takes. -/
inductive PortRelease (s : Store) (ownership : Ownership) (n : PortNumber)
    (named : Option String) (now : Time.Instant) : Except Fault (Binding × Store) → Prop where
  | ownerMissing (anonymous : Anonymous ownership named) :
      PortRelease s ownership n named now (.error (.invalidRequest .ownerMissing))
  | unregistered {id : String} (isNamed : named = some id) (unknown : ¬s.Registered id) :
      PortRelease s ownership n named now (.error (.instanceNotRegistered id))
  | unknown (entitled : s.Entitled ownership named) (unknown : ¬s.Knows n.val) :
      PortRelease s ownership n named now (.error (.portNotFound n.val))
  | unbound (entitled : s.Entitled ownership named) (known : s.Knows n.val)
      (nobody : ∀ row ∈ s.bindings, row.Takes n.val → ¬row.AnswersTo named) :
      PortRelease s ownership n named now (.error (.notBound (.port n.val)))
  | freed {row : BindingRow} {b : Binding} {t : Store} (entitled : s.Entitled ownership named)
      (present : row ∈ s.bindings) (takes : row.Takes n.val) (answers : row.AnswersTo named)
      (freed : s.Freed now row b t) : PortRelease s ownership n named now (.ok (b, t))

theorem releasePort_cases (sound : Sound s) (n : PortNumber) :
    s.releasePort ownership n named now = .error .store ∧
        s.Blocked ownership named (fun row => row.Takes n.val ∧ row.AnswersTo named) ∨
      s.PortRelease ownership n named now (s.releasePort ownership n named now) := by
  rw [releasePort]
  refine checked_cases
    (P := fun o => o = .error .store ∧
        s.Blocked ownership named (fun row => row.Takes n.val ∧ row.AnswersTo named) ∨
      s.PortRelease ownership n named now o)
    (fun anonymous => .inr (.ownerMissing anonymous))
    (fun id isNamed unknown => .inr (.unregistered isNamed unknown))
    (fun blocked => .inl ⟨rfl, blocked _⟩) fun entitled => ?_
  cases found : s.ports.find? n.val with
  | none =>
    have absent := PortTable.find?_eq_none.mp found
    refine .inr (.unknown entitled ?_)
    rintro ⟨r, mr, same⟩
    exact absent r mr same
  | some r =>
    obtain ⟨mr, same⟩ := PortTable.find?_eq_some.mp found
    simp only [readPort_of_number same, bind_ok]
    rw [← bindingOf?]
    cases chosen : s.bindingOf? named r with
    | none =>
      have nobody := (bindingOf?_eq_none sound mr).mp chosen
      rw [same] at nobody
      exact .inr (.unbound entitled ⟨r, mr, same⟩ nobody)
    | some row =>
      obtain ⟨present, takes, answers⟩ := (bindingOf?_eq_some sound mr).mp chosen
      rw [same] at takes
      rcases finish_cases sound now entitled present takes.1 answers with
        ⟨failed, unread⟩ | ⟨b, t, granted, freed⟩
      · exact .inl ⟨failed, .binding entitled present ⟨takes, answers⟩ unread⟩
      · simp only [granted]
        exact .inr (.freed entitled present takes answers freed)

/-- **Exactly when a release of a port goes which way.** -/
structure PortReleaseLaw (s : Store) (ownership : Ownership) (n : PortNumber)
    (named : Option String) (now : Time.Instant) (outcome : Except Fault (Binding × Store)) :
    Prop where
  /-- A release is refused as a request if an owner is required and none is named. -/
  refused : ∀ flaw, outcome = .error (.invalidRequest flaw) ↔
    flaw = .ownerMissing ∧ Anonymous ownership named
  /-- Otherwise whoever is named must have joined. -/
  unregistered : ∀ id, outcome = .error (.instanceNotRegistered id) ↔
    named = some id ∧ ¬s.Registered id
  /-- Then the port must have a row. -/
  unknown : ∀ m, outcome = .error (.portNotFound m) ↔
    m = n.val ∧ s.Entitled ownership named ∧ ¬s.Knows n.val
  /-- Then it must be in the span of an active binding, which is that of the named instance. -/
  unbound : ∀ subject, outcome = .error (.notBound subject) ↔
    subject = .port n.val ∧ s.Entitled ownership named ∧ s.Knows n.val ∧
      (¬s.Occupied n.val ∨
        ∃ row ∈ s.bindings, row.Takes n.val ∧ ∃ id, named = some id ∧ row.owner ≠ id)
  /-- Then there is one such binding only, and it is released. -/
  freed : s.Entitled ownership named → ∀ row ∈ s.bindings, row.Takes n.val →
    row.AnswersTo named →
      (∀ other ∈ s.bindings, other.Takes n.val → other = row) ∧
        ∃ b t, outcome = .ok (b, t) ∧ s.Freed now row b t

theorem PortRelease.law (sound : Sound s) {n : PortNumber}
    {outcome : Except Fault (Binding × Store)}
    (release : s.PortRelease ownership n named now outcome) :
    s.PortReleaseLaw ownership n named now outcome := by
  have occupied : s.Occupied n.val ↔ ∃ row ∈ s.bindings, row.Takes n.val := Iff.rfl
  have known (row : BindingRow) (present : row ∈ s.bindings) (takes : row.Takes n.val) :
      s.Knows n.val := sound.knows_of_occupied ⟨row, present, takes⟩
  have unique (row : BindingRow) (present : row ∈ s.bindings) (takes : row.Takes n.val)
      (other : BindingRow) (among : other ∈ s.bindings) (takesToo : other.Takes n.val) :
      other = row :=
    sound.eq_of_meets present takes.1 among takesToo.1 takes.2.1 takes.2.2 takesToo.2.1
      takesToo.2.2
  -- the five cases exclude each other, so that each fault has one cause
  exact {
    refused := fun flaw => by cases release <;> grind [Anonymous, Entitled]
    unregistered := fun id => by cases release <;> grind [Anonymous, Entitled]
    unknown := fun m => by cases release <;> grind [Anonymous, Entitled]
    unbound := fun subject => by
      cases release <;> grind [Anonymous, Entitled, BindingRow.AnswersTo]
    freed := fun entitled row present takes answers => by
      cases release <;> grind [Anonymous, Entitled] }

/-! ## By a span -/

/-- The ways in which a release of a span can go, each with what it takes. -/
inductive SpanRelease (s : Store) (ownership : Ownership) (first last : PortNumber)
    (named : Option String) (now : Time.Instant) : Except Fault (Binding × Store) → Prop where
  | reversed (backward : last < first) : SpanRelease s ownership first last named now
      (.error (.invalidRequest (.spanReversed first.val last.val)))
  | ownerMissing (forward : first ≤ last) (anonymous : Anonymous ownership named) :
      SpanRelease s ownership first last named now (.error (.invalidRequest .ownerMissing))
  | unregistered {id : String} (forward : first ≤ last) (isNamed : named = some id)
      (unknown : ¬s.Registered id) :
      SpanRelease s ownership first last named now (.error (.instanceNotRegistered id))
  | unmatched (forward : first ≤ last) (entitled : s.Entitled ownership named)
      (nobody : ∀ row ∈ s.bindings, ¬row.Spans named first.val last.val) :
      SpanRelease s ownership first last named now
        (.error (.bindingNotFound (.span first.val last.val)))
  | released {row : BindingRow} (forward : first ≤ last) (entitled : s.Entitled ownership named)
      (present : row ∈ s.bindings) (spans : row.Spans named first.val last.val)
      (released : ∀ row ∈ s.bindings, row.Spans named first.val last.val → row.isActive = false) :
      SpanRelease s ownership first last named now (.error (.notBound (.span first.val last.val)))
  | freed {row : BindingRow} {b : Binding} {t : Store} (forward : first ≤ last)
      (entitled : s.Entitled ownership named) (present : row ∈ s.bindings)
      (spans : row.Spans named first.val last.val) (freed : s.Freed now row b t) :
      SpanRelease s ownership first last named now (.ok (b, t))

/-- The binding is the one that is found by the span: an active one, if there is one. -/
structure FoundBy (s : Store) (named : Option String) (first last : Int) (row : BindingRow) :
    Prop where
  spans : row.Spans named first last
  preferred : row.isActive = false →
    ∀ other ∈ s.bindings, other.Spans named first last → other.isActive = false

theorem releaseSpan_cases (sound : Sound s) (first last : PortNumber) :
    s.releaseSpan ownership first last named now = .error .store ∧
        s.Blocked ownership named (s.FoundBy named first.val last.val) ∨
      s.SpanRelease ownership first last named now
        (s.releaseSpan ownership first last named now) := by
  rw [releaseSpan]
  split
  · rename_i backward
    exact .inr (.reversed backward)
  rename_i notBackward
  have forward : first ≤ last := Fin.not_lt.mp notBackward
  refine checked_cases
    (P := fun o => o = .error .store ∧
        s.Blocked ownership named (s.FoundBy named first.val last.val) ∨
      s.SpanRelease ownership first last named now o)
    (fun anonymous => .inr (.ownerMissing forward anonymous))
    (fun id isNamed unknown => .inr (.unregistered forward isNamed unknown))
    (fun blocked => .inl ⟨rfl, blocked _⟩) fun entitled => ?_
  dsimp only
  rw [← spanning?]
  cases chosen : s.spanning? named first.val last.val with
  | none => exact .inr (.unmatched forward entitled (spanning?_eq_none.mp chosen))
  | some row =>
    obtain ⟨present, spans, preferred⟩ := of_spanning?_eq_some chosen
    have unreadable (unread : row.read = .error .store) :
        s.Blocked ownership named (s.FoundBy named first.val last.val) :=
      .binding entitled present ⟨spans, preferred⟩ unread
    cases told : row.read with
    | error fault =>
      obtain rfl := BindingRow.error_store_of_read told
      exact .inl ⟨by simp only [told, bind_error], unreadable told⟩
    | ok shown =>
      have same := (BindingRow.of_read told).2.2.2.2
      simp only [told, bind_ok, same]
      split
      · rename_i active
        rcases finish_cases sound now entitled present active spans.answers with
          ⟨failed, unread⟩ | ⟨b, t, granted, freed⟩
        · exact .inl ⟨failed, unreadable unread⟩
        · rw [granted]
          exact .inr (.freed forward entitled present spans freed)
      · rename_i ended
        rw [Bool.not_eq_true] at ended
        exact .inr (.released forward entitled present spans (preferred ended))

/-- **Exactly when a release of a span goes which way.** -/
structure SpanReleaseLaw (s : Store) (ownership : Ownership) (first last : PortNumber)
    (named : Option String) (now : Time.Instant) (outcome : Except Fault (Binding × Store)) :
    Prop where
  /-- A span that ends below its start is refused first, then a release without an owner where
  one is required. -/
  refused : ∀ flaw, outcome = .error (.invalidRequest flaw) ↔
    flaw = .spanReversed first.val last.val ∧ last < first ∨
      flaw = .ownerMissing ∧ first ≤ last ∧ Anonymous ownership named
  /-- Then whoever is named must have joined. -/
  unregistered : ∀ id, outcome = .error (.instanceNotRegistered id) ↔
    first ≤ last ∧ named = some id ∧ ¬s.Registered id
  /-- Then the history must hold a binding of exactly this span. -/
  unmatched : ∀ subject, outcome = .error (.bindingNotFound subject) ↔
    subject = .span first.val last.val ∧ first ≤ last ∧ s.Entitled ownership named ∧
      ∀ row ∈ s.bindings, ¬row.Spans named first.val last.val
  /-- Then one of them must be active. -/
  released : ∀ subject, outcome = .error (.notBound subject) ↔
    subject = .span first.val last.val ∧ first ≤ last ∧ s.Entitled ownership named ∧
      (∃ row ∈ s.bindings, row.Spans named first.val last.val) ∧
      ∀ row ∈ s.bindings, row.Spans named first.val last.val → row.isActive = false
  /-- Then only one of them is, and it is released. -/
  freed : first ≤ last → s.Entitled ownership named →
    ∀ row ∈ s.bindings, row.Spans named first.val last.val → row.isActive →
      (∀ other ∈ s.bindings, other.Spans named first.val last.val → other.isActive → other = row) ∧
        ∃ b t, outcome = .ok (b, t) ∧ s.Freed now row b t
  /-- A part of an active span, or more than it, or what only overlaps it, releases nothing. -/
  whole : ∀ row ∈ s.bindings, row.isActive → row.first ≤ last.val → first.val ≤ row.last →
    ¬(row.first = first.val ∧ row.last = last.val) → ∀ b t, outcome ≠ .ok (b, t)

theorem SpanRelease.law (sound : Sound s) {first last : PortNumber}
    {outcome : Except Fault (Binding × Store)}
    (release : s.SpanRelease ownership first last named now outcome) :
    s.SpanReleaseLaw ownership first last named now outcome := by
  have order : last < first ↔ ¬first ≤ last := Fin.not_le.symm
  have unique (row : BindingRow) (present : row ∈ s.bindings) (active : row.isActive)
      (spans : row.Spans named first.val last.val) (other : BindingRow)
      (among : other ∈ s.bindings) (activeToo : other.isActive) (low : other.first ≤ last.val)
      (high : first.val ≤ other.last) : other = row := by
    have := sound.ordered row present
    have := sound.ordered other among
    have := spans.starts
    have := spans.ends
    exact sound.eq_of_meets present active among activeToo
      (show row.first ≤ max row.first other.first by omega) (by omega) (by omega) (by omega)
  exact {
    refused := fun flaw => by cases release <;> grind [Anonymous, Entitled]
    unregistered := fun id => by cases release <;> grind [Anonymous, Entitled]
    unmatched := fun subject => by cases release <;> grind [Anonymous, Entitled]
    released := fun subject => by cases release <;> grind [Anonymous, Entitled, Freed]
    freed := fun forward entitled row present spans active => by
      cases release <;> grind [Anonymous, Entitled, Freed, BindingRow.Spans]
    whole := fun row present active low high other b t => by
      cases release <;> grind [Freed, BindingRow.Spans] }

/-! ## After a run -/

section Runs

variable {steps : List Step}

/-- The service does not write a row that cannot be read. -/
theorem Blocked.exists_unserved {concerned : BindingRow → Prop}
    (blocked : (Store.empty.after steps).Blocked ownership named concerned) :
    ∃ step ∈ steps, ¬step.Served := by
  by_contra none
  push Not at none
  have intact := intact_after none
  cases blocked with
  | owner _ present _ unread =>
    obtain ⟨i, told⟩ := intact.instances _ present
    cases unread.symm.trans told
  | binding _ present _ unread =>
    obtain ⟨b, told⟩ := intact.bindings _ present
    cases unread.symm.trans told

/-- **What a release of a port comes to**, after every run.  Only a row that the service does
not write can be in the way: that of the named instance, or that of the active binding of the
port. -/
theorem releasePort_law (steps : List Step) (ownership : Ownership) (n : PortNumber)
    (named : Option String) (now : Time.Instant) :
    let s := Store.empty.after steps
    let outcome := s.releasePort ownership n named now
    s.PortReleaseLaw ownership n named now outcome ∨
      outcome = .error .store ∧
        s.Blocked ownership named (fun row => row.Takes n.val ∧ row.AnswersTo named) ∧
        ∃ step ∈ steps, ¬step.Served := by
  have sound := sound_after steps
  rcases releasePort_cases sound n with ⟨failed, blocked⟩ | release
  · exact .inr ⟨failed, blocked, blocked.exists_unserved⟩
  · exact .inl (release.law sound)

/-- **What a release of a span comes to**, after every run, in the same way: only the row of
the named instance or that of the binding that is found by the span can be in the way. -/
theorem releaseSpan_law (steps : List Step) (ownership : Ownership) (first last : PortNumber)
    (named : Option String) (now : Time.Instant) :
    let s := Store.empty.after steps
    let outcome := s.releaseSpan ownership first last named now
    s.SpanReleaseLaw ownership first last named now outcome ∨
      outcome = .error .store ∧
        s.Blocked ownership named (s.FoundBy named first.val last.val) ∧
        ∃ step ∈ steps, ¬step.Served := by
  have sound := sound_after steps
  rcases releaseSpan_cases sound first last with ⟨failed, blocked⟩ | release
  · exact .inr ⟨failed, blocked, blocked.exists_unserved⟩
  · exact .inl (release.law sound)

end Runs

/-- A span that changed hands: its former owner is told that it is not bound, nobody releases a
part of it, and without a name it is released for whoever holds it. -/
example :
    let now := Time.Instant.ofUnix 0 0
    let s := Store.empty.after (Step.each ⟨threePorts, .optional⟩ now
      [.join ⟨"abc", "host", []⟩, .join ⟨"xyz", "host", []⟩, .reserveSpan "abc" 2,
        .releaseSpan (.wrap 8000) (.wrap 8001) none, .reserveSpan "xyz" 2])
    let release (last : PortNumber) (named : Option String) :=
      (s.releaseSpan .optional (.wrap 8000) last named now).map fun (b, _) => b.owner
    release (.wrap 8001) (some "abc") = .error (.notBound (.span 8000 8001)) ∧
      release (.wrap 8000) none = .error (.bindingNotFound (.span 8000 8000)) ∧
      release (.wrap 8001) none = .ok "xyz" :=
  ⟨rfl, rfl, rfl⟩

end Store

end PortPool
