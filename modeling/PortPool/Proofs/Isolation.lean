/-
# PortPool.Proofs.Isolation -- who names itself sees its own bindings only

`Store.only` is the store as it would be if nobody but one instance had ever reserved: the
bindings of all others are gone, and so are their links; ports and instances stay.  What is
asked in the name of that instance is answered there as it is in the whole store
(`scoped_isolated`).  A binding of someone else is never shown, never taken for what a port
or a span is bound to, and never the reason for one fault instead of another.

A release looks its binding up and then marks it.  Only the look-up could tell the two
stores apart, and it finds the same row in both (`Store.boundPort_only`,
`Store.boundSpan_only`).  So both mark the same binding, and what they leave is again the
same for the instance (`Store.only_released`).
-/
import Mathlib.Data.List.Find
import PortPool.Proofs.Release

namespace PortPool

set_option autoImplicit false

open Time.Rfc3339 (stored)

namespace Store

variable {s : Store} {owner : String} {now : Time.Instant} {ownership : Ownership}

/-! ## The store of one instance -/

/-- A binding of this id belongs to someone else. -/
def isForeign (s : Store) (owner : String) (binding : Nat) : Bool :=
  s.bindings.any fun b => b.id == binding && b.owner != owner

/-- The port without its links to the bindings of all others. -/
def ownLinks (s : Store) (owner : String) (r : PortRow) : PortRow :=
  { r with holders := r.holders.filter fun h => !s.isForeign owner h }

/-- The store without the bindings of all others, and without their links. -/
def only (s : Store) (owner : String) : Store :=
  { s with
    bindings := s.bindings.filter (·.owner == owner)
    ports := s.ports.mapHolders fun r => (s.ownLinks owner r).holders }

theorem rows_only (s : Store) (owner : String) :
    (s.only owner).ports.rows = s.ports.rows.map (s.ownLinks owner) := rfl

theorem find?_ports_only (s : Store) (owner : String) (number : Int) :
    (s.only owner).ports.find? number = (s.ports.find? number).map (s.ownLinks owner) := by
  simp only [PortTable.find?, rows_only, List.find?_map]
  rfl

/-- No id is shared, so a binding of the owner is not taken for that of someone else. -/
theorem isForeign_eq_false (sound : Sound s) {b : BindingRow} (present : b ∈ s.bindings)
    (owned : b.owner = owner) : s.isForeign owner b.id = false := by
  rw [isForeign, List.any_eq_false]
  intro c member other
  simp only [Bool.and_eq_true, beq_iff_eq, bne_iff_ne] at other
  exact other.2 (sound.eq_of_id_eq member present other.1 ▸ owned)

theorem mem_ownLinks (sound : Sound s) {b : BindingRow} (present : b ∈ s.bindings)
    (owned : b.owner = owner) (r : PortRow) :
    b.id ∈ (s.ownLinks owner r).holders ↔ b.id ∈ r.holders := by
  simp only [ownLinks, List.mem_filter, isForeign_eq_false sound present owned, Bool.not_false,
    and_true]

theorem mem_bindings_only {b : BindingRow} :
    b ∈ (s.only owner).bindings ↔ b ∈ s.bindings ∧ b.owner = owner := by
  simp only [only, List.mem_filter, beq_iff_eq]

/-! ## Ports -/

theorem isHeldBy_iff {r : PortRow} : s.isHeldBy owner r = true ↔
    ∃ b ∈ s.bindings, b.id ∈ r.holders ∧ b.isActive ∧ b.owner = owner := by
  simp only [isHeldBy, List.any_eq_true, Bool.and_eq_true, beq_iff_eq]
  constructor
  · rintro ⟨h, held, b, present, ⟨rfl, active⟩, owned⟩
    exact ⟨b, present, held, active, owned⟩
  · rintro ⟨b, present, held, active, owned⟩
    exact ⟨b.id, held, b, present, ⟨rfl, active⟩, owned⟩

theorem isReserved_iff_exists {r : PortRow} : s.isReserved r = true ↔
    ∃ b ∈ s.bindings, b.id ∈ r.holders ∧ b.isActive := by
  simp only [isReserved, isActive, List.any_eq_true, Bool.and_eq_true, beq_iff_eq]
  constructor
  · rintro ⟨h, held, b, present, rfl, active⟩
    exact ⟨b, present, held, active⟩
  · rintro ⟨b, present, held, active⟩
    exact ⟨b.id, held, b, present, rfl, active⟩

theorem isReserved_of_isHeldBy {r : PortRow} (held : s.isHeldBy owner r = true) :
    s.isReserved r = true := by
  obtain ⟨b, present, linked, active, -⟩ := isHeldBy_iff.mp held
  exact isReserved_iff_exists.mpr ⟨b, present, linked, active⟩

theorem isHeldBy_only (sound : Sound s) (r : PortRow) :
    (s.only owner).isHeldBy owner (s.ownLinks owner r) = s.isHeldBy owner r := by
  rw [Bool.eq_iff_iff, isHeldBy_iff, isHeldBy_iff]
  constructor
  · rintro ⟨b, present, linked, active, owned⟩
    have present := (mem_bindings_only.mp present).1
    exact ⟨b, present, (mem_ownLinks sound present owned r).mp linked, active, owned⟩
  · rintro ⟨b, present, linked, active, owned⟩
    exact ⟨b, mem_bindings_only.mpr ⟨present, owned⟩,
      (mem_ownLinks sound present owned r).mpr linked, active, owned⟩

/-- In the store of one instance a port is reserved if that instance holds it. -/
theorem isReserved_only (sound : Sound s) (r : PortRow) :
    (s.only owner).isReserved (s.ownLinks owner r) = s.isHeldBy owner r := by
  rw [← isHeldBy_only sound r, Bool.eq_iff_iff, isHeldBy_iff, isReserved_iff_exists]
  constructor
  · rintro ⟨b, present, linked, active⟩
    exact ⟨b, present, linked, active, (mem_bindings_only.mp present).2⟩
  · rintro ⟨b, present, linked, active, -⟩
    exact ⟨b, present, linked, active⟩

/-! ## Lists -/

theorem listBindings_only (s : Store) (owner : String) (active : Option Bool) :
    (s.only owner).listBindings ⟨some owner, active⟩ = s.listBindings ⟨some owner, active⟩ := by
  simp only [listBindings, only, List.filter_filter]
  congr 1
  apply List.filter_congr
  intro b _
  simp only [Option.all_some, Bool.and_right_comm, BEq.comm (a := b.owner), Bool.and_self]

theorem readPort_only (sound : Sound s) {r : PortRow} (held : s.isHeldBy owner r = true) :
    (s.only owner).readPort (s.ownLinks owner r) = s.readPort r := by
  simp only [readPort, isReserved_only sound, held, isReserved_of_isHeldBy held]
  rfl

theorem listPorts_only (sound : Sound s) (reserved : Option Bool) :
    (s.only owner).listPorts ⟨reserved, some owner⟩ = s.listPorts ⟨reserved, some owner⟩ := by
  have instances : (s.only owner).getInstance owner = s.getInstance owner := rfl
  -- a port that the instance holds is reserved in both stores
  have matching (r : PortRow) :
      (reserved.all (· == (s.only owner).isReserved (s.ownLinks owner r)) &&
        (s.only owner).isHeldBy owner (s.ownLinks owner r)) =
      (reserved.all (· == s.isReserved r) && s.isHeldBy owner r) := by
    rw [isReserved_only sound, isHeldBy_only sound]
    cases held : s.isHeldBy owner r with
    | false => simp only [Bool.and_false]
    | true => rw [isReserved_of_isHeldBy held]
  have rows : (s.only owner).ports.rows.filter (fun r =>
        reserved.all (· == (s.only owner).isReserved r) && (s.only owner).isHeldBy owner r) =
      (s.ports.rows.filter fun r =>
        reserved.all (· == s.isReserved r) && s.isHeldBy owner r).map (s.ownLinks owner) := by
    rw [rows_only, List.filter_map]
    congr 1
    exact List.filter_congr fun r _ => matching r
  simp only [listPorts, Option.all_some, instances, rows, List.mapM_map]
  congr 1
  funext _
  apply mapM_congr
  intro r member
  have both := (List.mem_filter.mp member).2
  rw [Bool.and_eq_true] at both
  exact readPort_only sound both.2

/-! ## Looking up what to release -/

/-- What a release finds behind a port. -/
def boundPort (s : Store) (ownership : Ownership) (number : PortNumber)
    (named : Option String) : Except Fault BindingRow := do
  checkOwnership ownership named
  s.checkInstance named
  match s.ports.find? number.val with
  | none => .error (.portNotFound number.val)
  | some r =>
    let _ ← s.readPort r
    match s.bindingOf? named r with
    | none => .error (.notBound (.port number.val))
    | some b => .ok b

/-- What a release finds behind a span. -/
def boundSpan (s : Store) (ownership : Ownership) (first last : PortNumber)
    (named : Option String) : Except Fault BindingRow := do
  if last < first then .error (.invalidRequest (.spanReversed first.val last.val))
  else
    checkOwnership ownership named
    s.checkInstance named
    match s.spanning? named first.val last.val with
    | none => .error (.bindingNotFound (.span first.val last.val))
    | some b =>
      let binding ← b.read
      if binding.isActive then .ok b else .error (.notBound (.span first.val last.val))

theorem releasePort_eq_bind (s : Store) (ownership : Ownership) (number : PortNumber)
    (named : Option String) (now : Time.Instant) : s.releasePort ownership number named now =
      (s.boundPort ownership number named >>= fun b => s.finish b now) := by
  rw [releasePort, boundPort]
  cases checkOwnership ownership named with
  | error fault => rfl
  | ok =>
    cases s.checkInstance named with
    | error fault => rfl
    | ok =>
      simp only [bind_ok]
      cases s.ports.find? number.val with
      | none => rfl
      | some r =>
        simp only
        cases s.readPort r with
        | error fault => rfl
        | ok port =>
          simp only [bind_ok, bindingOf?]
          cases s.bindings.find? fun b =>
            r.holders.contains b.id && b.isActive && ownedBy named b <;> rfl

theorem releaseSpan_eq_bind (s : Store) (ownership : Ownership) (first last : PortNumber)
    (named : Option String) (now : Time.Instant) : s.releaseSpan ownership first last named now =
      (s.boundSpan ownership first last named >>= fun b => s.finish b now) := by
  rw [releaseSpan, boundSpan]
  split
  · rfl
  · cases checkOwnership ownership named with
    | error fault => rfl
    | ok =>
      cases s.checkInstance named with
      | error fault => rfl
      | ok =>
        simp only [bind_ok, spanning?]
        generalize ((s.bindings.filter fun b => b.first == (first.val : Int) &&
          b.last == (last.val : Int) && ownedBy named b).find? (·.isActive) <|> _) = chosen
        cases chosen with
        | none => rfl
        | some b =>
          simp only
          cases b.read with
          | error fault => rfl
          | ok binding =>
            simp only [bind_ok]
            cases binding.isActive <;> rfl

theorem bindingOf?_only (sound : Sound s) (r : PortRow) :
    (s.only owner).bindingOf? (some owner) (s.ownLinks owner r) = s.bindingOf? (some owner) r := by
  rw [bindingOf?, bindingOf?, only, List.find?_filter]
  apply List.find?_congr
  intro b present
  by_cases owned : b.owner = owner
  · have linked := mem_ownLinks sound present owned r
    simp only [owned, List.contains_eq_mem, linked, BEq.rfl, true_and, Bool.decide_eq_true]
  · have notOwned : ownedBy (some owner) b = false := by
      simpa [ownedBy] using Ne.symm owned
    simp [owned, notOwned]

theorem spanning?_only (s : Store) (owner : String) (first last : Int) :
    (s.only owner).spanning? (some owner) first last = s.spanning? (some owner) first last := by
  have same : ((s.only owner).bindings.filter fun b =>
      b.first == first && b.last == last && ownedBy (some owner) b) =
        s.bindings.filter fun b =>
          b.first == first && b.last == last && ownedBy (some owner) b := by
    rw [only, List.filter_filter]
    apply List.filter_congr
    intro b _
    simp only [ownedBy, Option.all_some, Bool.and_assoc, BEq.comm (a := b.owner), Bool.and_self]
  rw [spanning?, spanning?, same]

theorem boundPort_only (sound : Sound s) (ownership : Ownership) (number : PortNumber) :
    (s.only owner).boundPort ownership number (some owner) =
      s.boundPort ownership number (some owner) := by
  have instances : (s.only owner).checkInstance (some owner) = s.checkInstance (some owner) := rfl
  rw [boundPort, boundPort, instances, find?_ports_only]
  cases s.ports.find? number.val with
  | none => rfl
  | some r =>
    simp only [Option.map_some, bindingOf?_only sound, readPort]
    have number : (s.ownLinks owner r).number = r.number := rfl
    rw [number]
    -- the two stores differ in whether the port is reserved, which is not asked
    cases PortNumber.ofInt? r.number <;> rfl

theorem boundSpan_only (s : Store) (owner : String) (ownership : Ownership)
    (first last : PortNumber) : (s.only owner).boundSpan ownership first last (some owner) =
      s.boundSpan ownership first last (some owner) := by
  rw [boundSpan, boundSpan, spanning?_only]
  rfl

/-- What is looked up is an active binding of the instance that is named. -/
structure Owns (s : Store) (owner : String) (b : BindingRow) : Prop where
  present : b ∈ s.bindings
  active : b.isActive
  owned : b.owner = owner

theorem owns_of_boundPort {number : PortNumber} {b : BindingRow}
    (found : s.boundPort ownership number (some owner) = .ok b) : s.Owns owner b := by
  simp only [boundPort, bind_eq_ok] at found
  obtain ⟨_, -, _, -, found⟩ := found
  split at found
  · cases found
  · obtain ⟨_, -, found⟩ := bind_eq_ok.mp found
    split at found
    · cases found
    · rename_i chosen
      cases found
      obtain ⟨present, active, owned⟩ := of_bindingOf?_eq_some chosen
      exact ⟨present, active, owned owner rfl⟩

theorem owns_of_boundSpan {first last : PortNumber} {b : BindingRow}
    (found : s.boundSpan ownership first last (some owner) = .ok b) : s.Owns owner b := by
  simp only [boundSpan] at found
  split at found
  · cases found
  · simp only [bind_eq_ok] at found
    obtain ⟨_, -, _, -, found⟩ := found
    split at found
    · cases found
    · rename_i chosen
      obtain ⟨shown, told, found⟩ := bind_eq_ok.mp found
      split at found
      · rename_i active
        cases found
        obtain ⟨present, spans, -⟩ := of_spanning?_eq_some chosen
        exact ⟨present, (BindingRow.of_read told).2.2.2.2 ▸ active, spans.answers owner rfl⟩
      · cases found

/-- A binding is marked in the store of its owner as it is in the whole store. -/
theorem only_released (s : Store) (owner : String) (id : Nat) (releasedAt : String) :
    (s.released id releasedAt).only owner = (s.only owner).released id releasedAt := by
  -- marking a binding changes neither its id nor its owner
  have foreign (binding : Nat) :
      (s.released id releasedAt).isForeign owner binding = s.isForeign owner binding := by
    simp only [isForeign, released, List.any_map, Function.comp_def, BindingRow.marked_id,
      BindingRow.marked_owner]
  have links : (s.released id releasedAt).ownLinks owner = s.ownLinks owner := by
    funext r
    simp only [ownLinks, foreign]
  simp only [only, links]
  simp only [released, List.filter_map, Function.comp_def, BindingRow.marked_owner]

end Store

/-! ## Isolation -/

/-- Both stores refuse, and for the same fault; or both mark the same binding of the
instance, each at its own instant. -/
inductive SameRelease (s u : Store) (owner : String) (now later : Time.Instant) :
    Except Fault (Binding × Store) → Except Fault (Binding × Store) → Prop where
  | refused (fault : Fault) : SameRelease s u owner now later (.error fault) (.error fault)
  | ended {b : BindingRow} {shown : Binding} (owns : s.Owns owner b)
      (told : b.read = .ok shown) :
      SameRelease s u owner now later
        (.ok ({ shown with releasedAt := some now }, s.released b.id (stored now)))
        (.ok ({ shown with releasedAt := some later }, u.released b.id (stored later)))

/-- What is asked in the name of an instance comes to the same without the bindings of all
others. -/
structure Isolated (s : Store) (owner : String) : Prop where
  ports : ∀ ownership number now later, SameRelease s (s.only owner) owner now later
    (s.releasePort ownership number (some owner) now)
    ((s.only owner).releasePort ownership number (some owner) later)
  spans : ∀ ownership first last now later, SameRelease s (s.only owner) owner now later
    (s.releaseSpan ownership first last (some owner) now)
    ((s.only owner).releaseSpan ownership first last (some owner) later)
  listedBindings : ∀ active,
    (s.only owner).listBindings ⟨some owner, active⟩ = s.listBindings ⟨some owner, active⟩
  listedPorts : ∀ reserved,
    (s.only owner).listPorts ⟨reserved, some owner⟩ = s.listPorts ⟨reserved, some owner⟩
  remaining : ∀ id releasedAt,
    (s.released id releasedAt).only owner = (s.only owner).released id releasedAt

theorem Sound.sameRelease {s : Store} (sound : Sound s) {owner : String}
    {lookup : Except Fault BindingRow} (owns : ∀ b, lookup = .ok b → s.Owns owner b)
    (now later : Time.Instant) : SameRelease s (s.only owner) owner now later
      (lookup >>= fun b => s.finish b now) (lookup >>= fun b => (s.only owner).finish b later) := by
  cases lookup with
  | error fault => exact .refused fault
  | ok b =>
    have found := owns b rfl
    have unique (c : BindingRow) (member : c ∈ s.bindings) (same : c.id = b.id) : c = b :=
      sound.eq_of_id_eq member found.present same
    rw [bind_ok, bind_ok, Store.finish_eq_map found.present found.active unique,
      Store.finish_eq_map (Store.mem_bindings_only.mpr ⟨found.present, found.owned⟩) found.active
        fun c member => unique c (Store.mem_bindings_only.mp member).1]
    cases told : b.read with
    | error fault => exact .refused fault
    | ok shown => exact .ended found told

/-- **A binding of another instance is as if it did not exist.**  After every run, releases
and lists in the name of an instance come to the same in the store and in that of the
instance alone. -/
theorem scoped_isolated (steps : List Step) (owner : String) :
    Isolated (Store.empty.after steps) owner := by
  have sound := sound_after steps
  exact {
    ports := by
      intro ownership number now later
      rw [Store.releasePort_eq_bind, Store.releasePort_eq_bind, Store.boundPort_only sound]
      exact sound.sameRelease (fun b => Store.owns_of_boundPort) now later
    spans := by
      intro ownership first last now later
      rw [Store.releaseSpan_eq_bind, Store.releaseSpan_eq_bind, Store.boundSpan_only]
      exact sound.sameRelease (fun b => Store.owns_of_boundSpan) now later
    listedBindings := Store.listBindings_only _ owner
    listedPorts := Store.listPorts_only sound
    remaining := Store.only_released _ owner }

/-- Who gave a port back that someone else holds now is told that it is not bound; so it is
where that other binding never was. -/
example :
    let now := Time.Instant.ofUnix 0 0
    let s := Store.empty.after (Step.each ⟨threePorts, .optional⟩ now
      [.join ⟨"abc", "host", []⟩, .join ⟨"xyz", "host", []⟩, .reserveOne "abc",
        .releasePort (.wrap 8000) none, .reserveOne "xyz"])
    s.bindings.length = 2 ∧ (s.only "abc").bindings.length = 1 ∧
      s.releasePort .optional (.wrap 8000) (some "abc") now = .error (.notBound (.port 8000)) ∧
      (s.only "abc").releasePort .optional (.wrap 8000) (some "abc") now =
        .error (.notBound (.port 8000)) :=
  ⟨rfl, rfl, rfl, rfl⟩

end PortPool
