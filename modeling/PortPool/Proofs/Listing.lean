/-
# PortPool.Proofs.Listing -- lists of ports are about bindings

Whether a port is listed as reserved, and whose it is, are two questions that the store
answers from the links of the port, each in its own way.  In a sound store both come to the
spans of the active bindings: a port is reserved if its number lies in one of them
(`Store.Occupied`), and it is an instance's if it lies in one of its own (`Store.Holds`).

A list is in ascending order, so what is on it says all (`Store.Lists`): one flag and its
contrary part the whole list, no port is on the lists of two instances, and what is reserved
is on the list of one (`PortListings`).
-/
import PortPool.Proofs.Isolation
import PortPool.Proofs.Reservation

namespace PortPool

set_option autoImplicit false

namespace Store

variable {s : Store} {f : PortFilter} {ps : List Port}

/-! ## What a list should hold -/

/-- The number lies in the span of an active binding of this instance. -/
def Holds (s : Store) (owner : String) (n : Int) : Prop :=
  ∃ b ∈ s.bindings, b.owner = owner ∧ b.Takes n

/-- The port is what a row shows: it is reserved if its number is in an active span. -/
structure Shows (s : Store) (p : Port) : Prop where
  row : ∃ r ∈ s.ports.rows, (r.id : Int) = p.id ∧ r.number = p.number.val
  flag : p.reserved = true ↔ s.Occupied p.number.val

/-- The filter asks for such a port. -/
structure Asks (s : Store) (f : PortFilter) (p : Port) : Prop where
  flag : ∀ wanted, f.reserved = some wanted → p.reserved = wanted
  owner : ∀ id, f.instanceId = some id → s.Holds id p.number.val

/-- The list holds the ports that the filter asks for, in ascending order. -/
structure Lists (s : Store) (f : PortFilter) (ps : List Port) : Prop where
  ascending : ps.Pairwise (·.number < ·.number)
  exact : ∀ p, p ∈ ps ↔ s.Shows p ∧ s.Asks f p

theorem Holds.occupied {id : String} {n : Int} (holds : s.Holds id n) : s.Occupied n := by
  obtain ⟨b, present, -, takes⟩ := holds
  exact ⟨b, present, takes⟩

/-- A port is held by one instance at most. -/
theorem Holds.eq (sound : Sound s) {id other : String} {n : Int} (holds : s.Holds id n)
    (holdsToo : s.Holds other n) : id = other := by
  obtain ⟨b, mb, rfl, active, low, high⟩ := holds
  obtain ⟨c, mc, rfl, activeToo, lowToo, highToo⟩ := holdsToo
  rw [sound.eq_of_meets mb active mc activeToo low high lowToo highToo]

theorem isHeldBy_iff_holds (sound : Sound s) {r : PortRow} (known : r ∈ s.ports.rows)
    {id : String} : s.isHeldBy id r = true ↔ s.Holds id r.number := by
  rw [isHeldBy_iff]
  constructor
  · rintro ⟨b, present, linked, active, owned⟩
    exact ⟨b, present, owned, active, (sound.mem_holders known present).mp linked⟩
  · rintro ⟨b, present, owned, active, within⟩
    exact ⟨b, present, (sound.mem_holders known present).mpr within, active, owned⟩

/-! ## What a list holds -/

/-- The port of a row, if the number of the row is that of a port. -/
def portAt (s : Store) (r : PortRow) : Port := ⟨r.id, PortNumber.wrap r.number, s.isReserved r⟩

/-- The test that a list puts to each row. -/
def matching (s : Store) (f : PortFilter) (r : PortRow) : Bool :=
  f.reserved.all (· == s.isReserved r) && f.instanceId.all fun id => s.isHeldBy id r

section Rows

variable (bounded : s.Bounded) {r : PortRow} (known : r ∈ s.ports.rows)

include bounded known

theorem number_portAt : ((s.portAt r).number.val : Int) = r.number := by
  have := bounded r.number ⟨r, known, rfl⟩
  exact PortNumber.wrap_val (by omega) (by omega)

theorem readPort_eq : s.readPort r = .ok (s.portAt r) :=
  readPort_of_number (number_portAt bounded known).symm

theorem shows_portAt (sound : Sound s) : s.Shows (s.portAt r) where
  row := ⟨r, known, rfl, (number_portAt bounded known).symm⟩
  flag := by
    rw [number_portAt bounded known]
    exact sound.isReserved_iff known

theorem matching_iff_asks (sound : Sound s) : s.matching f r = true ↔ s.Asks f (s.portAt r) := by
  have number := number_portAt bounded known
  have held (id : String) : s.isHeldBy id r = true ↔ s.Holds id (s.portAt r).number.val := by
    rw [number, isHeldBy_iff_holds sound known]
  rw [matching, Bool.and_eq_true, Option.all_eq_true, Option.all_eq_true]
  simp only [beq_iff_eq, held]
  exact ⟨fun ⟨flag, owner⟩ => ⟨fun w asked => (flag w asked).symm, owner⟩,
    fun asks => ⟨fun w asked => (asks.flag w asked).symm, asks.owner⟩⟩

end Rows

/-- What is shown is the port of its row. -/
theorem Shows.exists_portAt (sound : Sound s) {p : Port} (shows : s.Shows p) :
    ∃ r ∈ s.ports.rows, s.portAt r = p := by
  obtain ⟨id, number, reserved⟩ := p
  obtain ⟨⟨r, known, identified, numbered⟩, flag⟩ := shows
  refine ⟨r, known, ?_⟩
  simp only at identified numbered flag
  have same : PortNumber.wrap r.number = number := by
    have wrapped : ((PortNumber.wrap r.number).val : Int) = r.number :=
      PortNumber.wrap_val (by omega) (by omega)
    exact Fin.ext (by omega)
  have sameFlag : s.isReserved r = reserved := by
    rw [Bool.eq_iff_iff, sound.isReserved_iff known, flag, numbered]
  simp only [portAt, identified, same, sameFlag]

theorem listPorts_eq (bounded : s.Bounded) (recalled : ∀ id, f.instanceId = some id → s.Recalls id) :
    s.listPorts f = .ok ((s.ports.rows.filter (s.matching f)).map s.portAt) := by
  have rows : (s.ports.rows.filter (s.matching f)).mapM s.readPort =
      .ok ((s.ports.rows.filter (s.matching f)).map s.portAt) :=
    mapM_of_forall fun r member => readPort_eq bounded (List.mem_of_mem_filter member)
  rw [listPorts, ← rows]
  obtain ⟨reserved, _ | id⟩ := f
  · rfl
  · obtain ⟨i, found⟩ := recalled id rfl
    simp only [found, bind_ok]
    rfl

theorem lists_rows (sound : Sound s) (bounded : s.Bounded) (f : PortFilter) :
    s.Lists f ((s.ports.rows.filter (s.matching f)).map s.portAt) where
  ascending := by
    rw [List.pairwise_map]
    refine (s.ports.ascending.filter _).imp_of_mem fun {q r} mq mr below => ?_
    have := number_portAt bounded (List.mem_of_mem_filter mq)
    have := number_portAt bounded (List.mem_of_mem_filter mr)
    rw [Fin.lt_def]
    omega
  exact p := by
    simp only [List.mem_map, List.mem_filter]
    constructor
    · rintro ⟨r, ⟨known, passes⟩, rfl⟩
      exact ⟨shows_portAt bounded known sound, (matching_iff_asks bounded known sound).mp passes⟩
    · rintro ⟨shows, asks⟩
      obtain ⟨r, known, rfl⟩ := shows.exists_portAt sound
      exact ⟨r, ⟨known, (matching_iff_asks bounded known sound).mpr asks⟩, rfl⟩

/-- An instance that is named was looked up. -/
theorem recalls_of_listPorts (done : s.listPorts f = .ok ps) :
    ∀ id, f.instanceId = some id → s.Recalls id := by
  rintro id named
  rw [listPorts, named] at done
  obtain ⟨i, found, -⟩ := bind_eq_ok.mp done
  exact ⟨i, found⟩

theorem lists_of_listPorts (sound : Sound s) (bounded : s.Bounded) (done : s.listPorts f = .ok ps) :
    s.Lists f ps := by
  rw [listPorts_eq bounded (recalls_of_listPorts done)] at done
  cases done
  exact lists_rows sound bounded f

/-! ## Lists side by side -/

namespace Lists

/-- What is on a list says all. -/
theorem eq {qs : List Port} (lists : s.Lists f ps) (listsToo : s.Lists f qs) : ps = qs := by
  have key {l : List Port} (sorted : l.Pairwise (·.number < ·.number)) :
      l.Pairwise fun p q => (p.number.val : Int) < q.number.val :=
    sorted.imp fun below => by exact_mod_cast Fin.lt_def.mp below
  exact eq_of_ascending (fun p => p.number.val) (key lists.ascending) (key listsToo.ascending)
    fun p => by rw [lists.exact, listsToo.exact]

/-- A flag that is asked for is looked for on the list without it. -/
theorem filter_reserved {owner : Option String} (lists : s.Lists ⟨none, owner⟩ ps) (wanted : Bool) :
    s.Lists ⟨some wanted, owner⟩ (ps.filter (·.reserved == wanted)) where
  ascending := lists.ascending.filter _
  exact p := by
    rw [List.mem_filter, lists.exact, beq_iff_eq, and_assoc, and_congr_right_iff]
    intro _
    exact ⟨fun ⟨asks, flag⟩ => ⟨fun w same => flag.trans (Option.some.inj same), asks.owner⟩,
      fun asks => ⟨⟨nofun, asks.owner⟩, asks.flag wanted rfl⟩⟩

theorem reserved_of_owner {id : String} (lists : s.Lists ⟨none, some id⟩ ps) {p : Port}
    (member : p ∈ ps) : p.reserved = true := by
  obtain ⟨shows, asks⟩ := (lists.exact p).mp member
  exact shows.flag.mpr (asks.owner id rfl).occupied

/-- The numbers on the list of an instance are those of its active spans. -/
theorem holds_iff (sound : Sound s) (bounded : s.Bounded) {id : String}
    (lists : s.Lists ⟨none, some id⟩ ps) (n : Int) :
    (∃ p ∈ ps, (p.number.val : Int) = n) ↔ s.Holds id n := by
  constructor
  · rintro ⟨p, member, rfl⟩
    exact ((lists.exact p).mp member).2.owner id rfl
  · intro holds
    obtain ⟨r, known, rfl⟩ := sound.knows_of_occupied holds.occupied
    have number := number_portAt bounded known
    refine ⟨s.portAt r, (lists.exact _).mpr ⟨shows_portAt bounded known sound, nofun, ?_⟩, number⟩
    rintro _ ⟨rfl⟩
    rwa [number]

end Lists

theorem listPorts_flag (sound : Sound s) (bounded : s.Bounded) {owner : Option String}
    (done : s.listPorts ⟨none, owner⟩ = .ok ps) (wanted : Bool) :
    s.listPorts ⟨some wanted, owner⟩ = .ok (ps.filter (·.reserved == wanted)) := by
  have lists := lists_of_listPorts sound bounded done
  have recalled : ∀ id, owner = some id → s.Recalls id := recalls_of_listPorts done
  have asked : s.listPorts ⟨some wanted, owner⟩ = .ok _ := listPorts_eq bounded recalled
  rw [asked, (lists_rows sound bounded _).eq (lists.filter_reserved wanted)]

/-! ## What the lists say of the bindings -/

/-- Reserved and free ports part the list of all. -/
structure Parted (s : Store) (all taken free : List Port) : Prop where
  listed : s.listPorts ⟨none, none⟩ = .ok all
  listedTaken : s.listPorts ⟨some true, none⟩ = .ok taken
  listedFree : s.listPorts ⟨some false, none⟩ = .ok free
  whole : (taken ++ free).Perm all
  apart : ∀ p ∈ taken, ∀ q ∈ free, p.number ≠ q.number

/-- The ports of an instance are those of its active bindings, and all of them are reserved. -/
structure Own (s : Store) (id : String) (ps : List Port) : Prop where
  listed : s.listPorts ⟨none, some id⟩ = .ok ps
  numbers : ∀ n : Int, (∃ p ∈ ps, (p.number.val : Int) = n) ↔ s.Holds id n
  reserved : ∀ p ∈ ps, p.reserved = true
  listedTaken : s.listPorts ⟨some true, some id⟩ = .ok ps
  listedFree : s.listPorts ⟨some false, some id⟩ = .ok []

end Store

/-- **What the lists of ports say of the bindings.** -/
structure PortListings (s : Store) : Prop where
  /-- Every filter gives the list it asks for, if the instance that it names can be looked up. -/
  listed : ∀ f : PortFilter, (∀ id, f.instanceId = some id → s.Recalls id) →
    ∃ ps, s.listPorts f = .ok ps ∧ s.Lists f ps
  parted : ∃ all taken free, s.Parted all taken free
  own : ∀ id, s.Recalls id → ∃ ps, s.Own id ps
  /-- Two instances have no port in common. -/
  apart : ∀ id other ps qs, id ≠ other → s.listPorts ⟨none, some id⟩ = .ok ps →
    s.listPorts ⟨none, some other⟩ = .ok qs → ∀ p ∈ ps, ∀ q ∈ qs, p.number ≠ q.number
  /-- What is reserved is on the list of an instance that joined. -/
  together : ∀ taken, s.listPorts ⟨some true, none⟩ = .ok taken → ∀ p, p ∈ taken ↔
    ∃ id ps, s.Registered id ∧ s.listPorts ⟨none, some id⟩ = .ok ps ∧ p ∈ ps

namespace Store

variable {s : Store} (sound : Sound s) (bounded : s.Bounded)

include sound bounded

theorem exists_parted : ∃ all taken free, s.Parted all taken free := by
  have done : s.listPorts ⟨none, none⟩ = .ok _ := listPorts_eq bounded nofun
  have lists := lists_of_listPorts sound bounded done
  refine ⟨_, _, _, done, listPorts_flag sound bounded done true,
    listPorts_flag sound bounded done false, ?_, fun p mp q mq same => ?_⟩
  · simpa using List.filter_append_perm Port.reserved _
  · -- a port that is on both has both flags
    obtain ⟨mp, taken⟩ := List.mem_filter.mp mp
    obtain ⟨mq, free⟩ := List.mem_filter.mp mq
    have shows := ((lists.exact p).mp mp).1.flag
    have showsToo := ((lists.exact q).mp mq).1.flag
    rw [beq_iff_eq] at taken free
    rw [same, ← showsToo, free] at shows
    simp [taken] at shows

theorem exists_own {id : String} (recalled : s.Recalls id) : ∃ ps, s.Own id ps := by
  have named : ∀ other, some id = some other → s.Recalls other := by
    rintro _ ⟨rfl⟩
    exact recalled
  have done : s.listPorts ⟨none, some id⟩ = .ok _ := listPorts_eq bounded named
  have lists := lists_of_listPorts sound bounded done
  have reserved := fun p member => lists.reserved_of_owner (p := p) member
  refine ⟨_, done, lists.holds_iff sound bounded, reserved, ?_, ?_⟩
  · rw [listPorts_flag sound bounded done, List.filter_eq_self.mpr]
    simpa using reserved
  · rw [listPorts_flag sound bounded done, List.filter_eq_nil_iff.mpr]
    simpa using reserved

theorem portListings (recalled : ∀ b ∈ s.bindings, s.Recalls b.owner) : PortListings s where
  listed f named := ⟨_, listPorts_eq bounded named, lists_rows sound bounded f⟩
  parted := exists_parted sound bounded
  own id known := exists_own sound bounded known
  apart id other ps qs different done doneToo p mp q mq same := by
    have lists := lists_of_listPorts sound bounded done
    have listsToo := lists_of_listPorts sound bounded doneToo
    have holds := ((lists.exact p).mp mp).2.owner id rfl
    have holdsToo := ((listsToo.exact q).mp mq).2.owner other rfl
    rw [same] at holds
    exact different (holds.eq sound holdsToo)
  together taken done p := by
    have lists := lists_of_listPorts sound bounded done
    rw [lists.exact]
    constructor
    · rintro ⟨shows, asks⟩
      obtain ⟨b, present, takes⟩ := shows.flag.mp (asks.flag true rfl)
      have holds : s.Holds b.owner p.number.val := ⟨b, present, rfl, takes⟩
      obtain ⟨ps, own⟩ := exists_own sound bounded (recalled b present)
      refine ⟨b.owner, ps, sound.owned b present, own.listed, ?_⟩
      refine ((lists_of_listPorts sound bounded own.listed).exact p).mpr ⟨shows, nofun, ?_⟩
      rintro _ ⟨rfl⟩
      exact holds
    · rintro ⟨id, ps, -, doneToo, member⟩
      have listsToo := lists_of_listPorts sound bounded doneToo
      have flag := listsToo.reserved_of_owner member
      refine ⟨((listsToo.exact p).mp member).1, ?_, nofun⟩
      rintro _ ⟨rfl⟩
      exact flag

end Store

/-- **The lists of ports agree with the bindings**, after every run; and if the run is one of
the service, whoever joined has a list. -/
theorem portListings_after (steps : List Step) :
    PortListings (Store.empty.after steps) ∧
      ((∀ step ∈ steps, step.Served) → ∀ id, (Store.empty.after steps).Registered id →
        (Store.empty.after steps).Recalls id) :=
  ⟨Store.portListings (sound_after steps) (bounded_after steps) (recalls_owner_after steps),
    fun served _ joined => recalls_after served joined⟩

/-- A port that changed hands is linked to the bindings of both, and listed for one. -/
example :
    let s := Store.empty.after (Step.each ⟨threePorts, .optional⟩ (Time.Instant.ofUnix 0 0)
      [.join ⟨"abc", "host", []⟩, .join ⟨"xyz", "host", []⟩, .reserveOne "abc",
        .releasePort (.wrap 8000) none, .reserveOne "xyz"])
    s.ports.rows.map (·.holders) = [[2, 1]] ∧ s.listPorts ⟨none, some "abc"⟩ = .ok [] ∧
      s.listPorts ⟨none, some "xyz"⟩ = .ok [⟨1, .wrap 8000, true⟩] :=
  ⟨rfl, rfl, rfl⟩

end PortPool
