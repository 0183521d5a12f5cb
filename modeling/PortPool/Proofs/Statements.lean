/-
# PortPool.Proofs.Statements -- every call as its statements

An operation of the store (`Operation.perform`) is one function: it looks at the store
and gives the next one.  The service carries it out by statements, one for each row that
it reads or writes.  A span is recorded port by port and linked port by port, and a
reservation may in principle be refused at any of these rows.

Here each operation is given as the script of its statements (`Operation.script`), and
two things are shown about it.  It is sealed, so it has its whole effect or none
(`script_sealed`).  And on a store that is guarded by its rules, whoever wrote its rows,
the statements come to what `perform` does at once (`atOnce_script`).  Rows are recorded
and linked there in the order of their numbers, and it is the ids that make the two
agree: a link names a port by its id, a span by its number.
-/
import PortPool.Proofs.Guard
import PortPool.Proofs.Reservation
import PortPool.Proofs.Runs
import PortPool.Proofs.Transaction

namespace PortPool

set_option autoImplicit false

open Time.Rfc3339 (stored)

open Store

/-! ## Ports recorded one after the other -/

namespace Store

variable {s : Store}

/-- The store with a port for each of some numbers, recorded one after the other. -/
def fillEach (s : Store) (numbers : List Int) : Store :=
  numbers.foldl (fun s n => s.fillPorts n 1) s

theorem fillPorts_zero (s : Store) (number : Int) : s.fillPorts number 0 = s := by
  have ports : s.ports.fill s.nextPort number 0 = s.ports := by
    apply PortTable.ext_mem
    intro r
    rw [PortTable.mem_fill]
    constructor
    · rintro (old | ⟨low, high, -⟩)
      · exact old
      · omega
    · exact .inl
  simp only [fillPorts, ports, Nat.add_zero]

theorem fillPorts_succ (s : Store) (number : Int) (count : Nat) :
    (s.fillPorts number 1).fillPorts (number + 1) count = s.fillPorts number (count + 1) := by
  have ports : (s.ports.fill s.nextPort number 1).fill (s.nextPort + 1) (number + 1) count =
      s.ports.fill s.nextPort number (count + 1) := by
    apply PortTable.ext_mem
    intro r
    simp only [PortTable.mem_fill, IsAdded]
    constructor
    · rintro ((old | ⟨low, high, free, counted, absent⟩) | ⟨low, high, free, counted, absent⟩)
      · exact .inl old
      · exact .inr ⟨low, by omega, free, counted, absent⟩
      · exact .inr ⟨by omega, by omega, free, by omega, fun q mq => absent q (.inl mq)⟩
    · rintro (old | ⟨low, high, free, counted, absent⟩)
      · exact .inl (.inl old)
      · rcases Int.lt_or_le number r.number with above | here
        · refine .inr ⟨by omega, by omega, free, by omega, ?_⟩
          rintro q (old | ⟨lowQ, highQ, -⟩)
          · exact absent q old
          · omega
        · exact .inl (.inr ⟨low, by omega, free, counted, absent⟩)
  simp only [fillPorts, ports, Nat.add_assoc, Nat.add_comm 1 count]

theorem fillEach_numbersFrom (s : Store) (first : Int) (count : Nat) :
    s.fillEach (numbersFrom first (first + count - 1)) = s.fillPorts first count := by
  induction count generalizing s first with
  | zero =>
    have none : numbersFrom first (first + (0 : Nat) - 1) = [] := by simp [numbersFrom]
    rw [none, fillPorts_zero]
    rfl
  | succ count ih =>
    have shifted : first + (count + 1 : Nat) - 1 = first + 1 + count - 1 := by omega
    rw [numbersFrom_eq_cons (by omega), shifted, fillEach, List.foldl_cons]
    exact (ih _ _).trans (fillPorts_succ s first count)

theorem mem_fillEach {r : PortRow} {numbers : List Int} (member : r ∈ s.ports.rows) :
    r ∈ (s.fillEach numbers).ports.rows := by
  induction numbers generalizing s with
  | nil => exact member
  | cons n numbers ih => exact ih (PortTable.mem_fill.mpr (.inl member))

theorem exists_row_fillPorts (s : Store) (number : Int) :
    ∃ r ∈ (s.fillPorts number 1).ports.rows, r.number = number :=
  knows_fillPorts.mpr (.inr ⟨Int.le_refl _, by omega⟩)

/-! ## Links made one after the other -/

theorem findId?_of_mem (guarded : Guarded s) {r : PortRow} (member : r ∈ s.ports.rows) :
    s.ports.findId? r.id = some r := by
  refine find?_of_unique member (by simp) fun q among same => ?_
  exact guarded.portIds q among r member (by simpa using same)

theorem findBinding_of_mem (guarded : Guarded s) {b : BindingRow} (member : b ∈ s.bindings) :
    (s.bindings.find? fun c => (c.id : Int) == b.id) = some b := by
  refine find?_of_unique member (by simp) fun c among same => ?_
  exact guarded.bindingIds c among b member (by simpa using same)

/-- A free port is linked, and no other port is. -/
theorem link_of_free (guarded : Guarded s) {b : BindingRow} (present : b ∈ s.bindings)
    {r : PortRow} (member : r ∈ s.ports.rows) (free : s.isReserved r = false)
    (unlinked : b.id ∉ r.holders) :
    s.link (some b.id) (some r.id) = .ok (s.holding b.id fun q => q.number == r.number) := by
  have notLinked : ¬(r.holders.any fun h => (h : Int) == b.id) = true := by
    simp only [List.any_eq_true, beq_iff_eq, Int.natCast_inj]
    rintro ⟨h, held, rfl⟩
    exact unlinked held
  have sameRow (q : PortRow) (mq : q ∈ s.ports.rows) :
      ((q.id : Int) == r.id) = (q.number == r.number) := by
    rw [Bool.eq_iff_iff, beq_iff_eq, beq_iff_eq]
    constructor
    · intro same
      rw [guarded.portIds q mq r member (by omega)]
    · intro same
      rw [PortTable.eq_of_number_eq mq member same]
  have ports : s.ports.mapHolders (fun q =>
        if (q.id : Int) == r.id then b.id :: q.holders else q.holders) =
      s.ports.mapHolders fun q => if q.number == r.number then b.id :: q.holders else q.holders := by
    simp only [PortTable.mapHolders, PortTable.mk.injEq]
    exact List.map_congr_left fun q mq => by rw [sameRow q mq]
  simp only [link, filled, Option.bind_some, findId?_of_mem guarded member, Option.any_some, free,
    Bool.false_eq_true, if_false, bind_ok, if_neg notLinked, findBinding_of_mem guarded present,
    pure_eq_ok, holding, ports]

/-- Linking one port more, with a number of its own. -/
theorem holding_holding {binding : Nat} {number : Int} {numbers : List Int}
    (apart : number ∉ numbers) :
    (s.holding binding fun q => q.number == number).holding binding
        (fun q => numbers.contains q.number) =
      s.holding binding fun q => (number :: numbers).contains q.number := by
  simp only [holding, PortTable.mapHolders, Store.mk.injEq, PortTable.mk.injEq, List.map_map,
    true_and, and_true]
  refine List.map_congr_left fun q _ => ?_
  by_cases same : q.number = number
  · have other : numbers.contains q.number = false := by simp [same, apart]
    simp [same, apart]
  · simp [same]

end Store

namespace Script

variable {s : Store} {range : PortRange} {owner : String} {now : Time.Instant}

/-! ## Rows that are written -/

/-- A statement that writes a row; if it breaks a rule, that is a fault of the store. -/
def row (write : Store → Except Violation Store) : Script Unit :=
  change fun s => (write s).mapError fun _ => .store

/-- Link some ports to a binding, one after the other. -/
def linkEach (binding : Int) (ports : List Nat) : Script Unit :=
  forM ports fun (port : Nat) => row fun s => s.link (some binding) (some (port : Int))

/-- Record a port, unless it is known; its id. -/
def insertPort (number : Int) : Script Nat := do
  change fun s => .ok (s.fillPorts number 1)
  query fun s => readable ((s.ports.find? number).map (·.id))

/-- Add a binding, the latest of all, and link it to some ports. -/
def insertBinding (owner : String) (first last : Int) (ports : List Nat) (now : Time.Instant) :
    Script Binding := do
  row fun s => s.addBinding (some owner) (some first) (some last) (some (stored now)) none
  let id : Nat ← query fun s => readable (s.bindings.head?.map (·.id))
  linkEach id ports
  pure ⟨id, owner, PortNumber.wrap first, PortNumber.wrap last, now, none⟩

theorem inner_linkEach (binding : Int) (ports : List Nat) : (linkEach binding ports).Inner :=
  Inner.forM (fun _ => inner_change _) ports

theorem inner_insertPort (number : Int) : (insertPort number).Inner :=
  (inner_change _).bind fun _ => inner_query _

theorem inner_insertBinding (owner : String) (first last : Int) (ports : List Nat)
    (now : Time.Instant) : (insertBinding owner first last ports now).Inner :=
  (inner_change _).bind fun _ => (inner_query _).bind fun _ =>
    (inner_linkEach _ _).bind fun _ => trivial

@[simp]
theorem atOnce_row (write : Store → Except Violation Store) (s : Store) :
    (row write).atOnce s = ((write s).mapError fun _ => Fault.store).map ((), ·) :=
  atOnce_change _ s

/-- Free ports with different numbers are all linked. -/
theorem atOnce_linkEach {rows : List PortRow} (guarded : Guarded s) {b : BindingRow}
    (present : b ∈ s.bindings) (apart : (rows.map (·.number)).Nodup)
    (free : ∀ r ∈ rows, r ∈ s.ports.rows ∧ s.isReserved r = false ∧ b.id ∉ r.holders) :
    (linkEach b.id (rows.map (·.id))).atOnce s =
      .ok ((), s.holding b.id fun q => (rows.map (·.number)).contains q.number) := by
  induction rows generalizing s with
  | nil => simp [linkEach, holding, PortTable.mapHolders]
  | cons r rows ih =>
    obtain ⟨member, isFree, unlinked⟩ := free r List.mem_cons_self
    obtain ⟨notAmong, apart⟩ := List.nodup_cons.mp apart
    have first := link_of_free guarded present member isFree unlinked
    -- the other ports stand in the table as before, since they have other numbers
    have others : ∀ q ∈ rows, q ∈ (s.holding b.id fun q => q.number == r.number).ports.rows ∧
        (s.holding b.id fun q => q.number == r.number).isReserved q = false ∧
        b.id ∉ q.holders := by
      intro q among
      obtain ⟨mq, freeQ, unlinkedQ⟩ := free q (List.mem_cons_of_mem _ among)
      refine ⟨PortTable.mem_mapHolders.mpr ⟨q, mq, ?_⟩, freeQ, unlinkedQ⟩
      have other : q.number ≠ r.number := fun same =>
        notAmong (List.mem_map.mpr ⟨q, among, same⟩)
      simp [other]
    have still : Guarded (s.holding b.id fun q => q.number == r.number) := by
      refine guarded.link present fun q mq chosen => ?_
      rw [PortTable.eq_of_number_eq mq member (by simpa using chosen)]
      exact ⟨isFree, unlinked⟩
    have rest := ih still present apart others
    simp only [linkEach] at rest
    simp only [linkEach, List.map_cons, List.forM_cons, atOnce_bind, atOnce_row, first,
      Except.mapError, map_ok, bind_ok, rest, holding_holding notAmong]

/-- A binding is linked to the free ports of its span. -/
theorem atOnce_insertBinding {rows : List PortRow} {first last : Int} (guarded : Guarded s)
    (registered : s.Registered owner) (ordered : first ≤ last)
    (present : ∀ r ∈ rows, r ∈ s.ports.rows ∧ s.isReserved r = false)
    (numbered : rows.map (·.number) = numbersFrom first last) :
    (insertBinding owner first last (rows.map (·.id)) now).atOnce s =
      s.bind owner first last now := by
  let t := s.withBinding owner first last (stored now) none
  have added : s.addBinding (some owner) (some first) (some last) (some (stored now)) none =
      .ok t :=
    addBinding_eq_ok.mpr ⟨ordered, registered, rfl⟩
  have within (r : PortRow) :
      (rows.map (·.number)).contains r.number = (first ≤ r.number && r.number ≤ last) := by
    simp only [numbered, List.contains_eq_mem, mem_numbersFrom, Bool.decide_and]
  have unlinked {r : PortRow} (member : r ∈ s.ports.rows) : s.nextBinding ∉ r.holders :=
    guarded.nextBinding_notMem member
  -- a row of the span is one of those that are linked, for no number has two
  have free : ∀ r ∈ s.ports.rows, first ≤ r.number → r.number ≤ last →
      s.isReserved r = false ∧ s.nextBinding ∉ r.holders := by
    intro r member low high
    have among : r.number ∈ rows.map (·.number) := numbered ▸ mem_numbersFrom.mpr ⟨low, high⟩
    obtain ⟨q, mq, same⟩ := List.mem_map.mp among
    obtain rfl := PortTable.eq_of_number_eq (present q mq).1 member same
    exact ⟨(present q mq).2, unlinked member⟩
  have linked : (linkEach s.nextBinding (rows.map (·.id))).atOnce t =
      .ok ((), t.holding s.nextBinding fun q => (rows.map (·.number)).contains q.number) := by
    refine atOnce_linkEach (b := t.bindings.head (by simp [t, withBinding]))
      (guarded.bind ordered registered) (List.head_mem _) ?_ fun r among => ?_
    · exact numbered ▸ (numbersFrom_ascending first last).imp Int.ne_of_lt
    · obtain ⟨member, isFree⟩ := present r among
      exact ⟨member, isReserved_withBinding.mpr ⟨isFree, unlinked member⟩, unlinked member⟩
  rw [bind_of_free ordered registered free]
  have latest : readable (t.bindings.head?.map (·.id)) = .ok s.nextBinding := rfl
  simp only [insertBinding, atOnce_bind, atOnce_row, added, Except.mapError, map_ok, bind_ok,
    atOnce_query, latest, linked, atOnce_pure, within]
  rfl

/-! ## Reserving -/

/-- Extend the pool by new ports, one after the other, and bind them. -/
def grow (range : PortRange) (owner : String) (size : Nat) (now : Time.Instant) :
    Script Binding := do
  let next ← query (·.nextNumber range)
  let last := next + size - 1
  if last < range.stop then do
    let ports ← (numbersFrom next last).mapM' insertPort
    insertBinding owner next last ports now
  else fail (.poolExhausted size range.start range.stop)

/-- Bind adjacent ports, of which there is at least one. -/
def insertWindow (owner : String) (now : Time.Instant) : List PortRow → Script Binding
  | [] => fail .store
  | r :: rows =>
    insertBinding owner r.number (rows.getLastD r).number ((r :: rows).map (·.id)) now

/-- Reserve adjacent ports. -/
def reserveSpan (range : PortRange) (owner : String) (size : Nat) (now : Time.Instant) :
    Script Binding :=
  if size = 0 then fail (.invalidRequest .sizeZero)
  else transaction do
    let _ ← query (·.getInstance owner)
    let free ← query fun s => .ok (s.freePorts range)
    match findWindow (free.map (·.number)) size with
    | some offset => insertWindow owner now ((free.drop offset).take size)
    | none => grow range owner size now

/-- Reserve one port. -/
def reserveOne (range : PortRange) (owner : String) (now : Time.Instant) : Script Binding :=
  transaction do
    let _ ← query (·.getInstance owner)
    let lowest ← query fun s => .ok ((s.freePorts range).take 1)
    match lowest.head? with
    | some r => insertBinding owner r.number r.number [r.id] now
    | none => grow range owner 1 now

/-- Reserve as many ports as are asked for. -/
def reserve (range : PortRange) (owner : String) (size : Option Int) (now : Time.Instant) :
    Script Binding :=
  match size with
  | none => reserveOne range owner now
  | some n =>
    if n = 1 then reserveOne range owner now
    else if n < 1 then fail (.invalidRequest (.sizeNotPositive n))
    else if UInt32.size ≤ n then fail (.invalidRequest (.sizeTooLarge n))
    else reserveSpan range owner n.toNat now

theorem inner_grow (range : PortRange) (owner : String) (size : Nat) (now : Time.Instant) :
    (grow range owner size now).Inner := by
  refine (inner_query _).bind fun next => ?_
  dsimp only
  split
  · exact (Inner.mapM inner_insertPort _).bind fun ports => inner_insertBinding _ _ _ _ _
  · trivial

theorem inner_insertWindow (owner : String) (now : Time.Instant) (window : List PortRow) :
    (insertWindow owner now window).Inner := by
  cases window with
  | nil => trivial
  | cons r rows => exact inner_insertBinding _ _ _ _ _

theorem sealed_reserveSpan (range : PortRange) (owner : String) (size : Nat)
    (now : Time.Instant) : (reserveSpan range owner size now).Sealed false := by
  unfold reserveSpan
  split
  · trivial
  · refine Inner.sealed ((inner_query _).bind fun _ => (inner_query _).bind fun free => ?_)
    split
    · exact inner_insertWindow _ _ _
    · exact inner_grow _ _ _ _

theorem sealed_reserveOne (range : PortRange) (owner : String) (now : Time.Instant) :
    (reserveOne range owner now).Sealed false := by
  refine Inner.sealed ((inner_query _).bind fun _ => (inner_query _).bind fun lowest => ?_)
  split
  · exact inner_insertBinding _ _ _ _ _
  · exact inner_grow _ _ _ _

theorem sealed_reserve (range : PortRange) (owner : String) (size : Option Int)
    (now : Time.Instant) : (reserve range owner size now).Sealed false := by
  unfold reserve
  split
  · exact sealed_reserveOne ..
  · split
    · exact sealed_reserveOne ..
    · split
      · trivial
      · split
        · trivial
        · exact sealed_reserveSpan ..

/-- The port that is recorded is found, whether it is new or not. -/
theorem atOnce_insertPort (s : Store) (number : Int) :
    ∃ r ∈ (s.fillPorts number 1).ports.rows, r.number = number ∧
      (insertPort number).atOnce s = .ok (r.id, s.fillPorts number 1) := by
  obtain ⟨r, member, same⟩ := exists_row_fillPorts s number
  have found : (s.fillPorts number 1).ports.find? number = some r :=
    PortTable.find?_eq_some.mpr ⟨member, same⟩
  refine ⟨r, member, same, ?_⟩
  simp only [insertPort, atOnce_bind, atOnce_change, map_ok, bind_ok, atOnce_query, found,
    Option.map_some, readable]

theorem atOnce_insertPorts (s : Store) (numbers : List Int) :
    ∃ rows : List PortRow, (∀ r ∈ rows, r ∈ (s.fillEach numbers).ports.rows) ∧ rows.map (·.number) = numbers ∧
      (numbers.mapM' insertPort).atOnce s = .ok (rows.map (·.id), s.fillEach numbers) := by
  induction numbers generalizing s with
  | nil => exact ⟨[], by simp, rfl, rfl⟩
  | cons n numbers ih =>
    obtain ⟨r, member, same, first⟩ := atOnce_insertPort s n
    obtain ⟨rows, present, numbered, rest⟩ := ih (s.fillPorts n 1)
    refine ⟨r :: rows, ?_, ?_, ?_⟩
    · intro q among
      rcases List.mem_cons.mp among with rfl | later
      · show q ∈ ((s.fillPorts n 1).fillEach numbers).ports.rows
        exact mem_fillEach member
      · exact present q later
    · rw [List.map_cons, same, numbered]
    · simp only [List.mapM'_cons, atOnce_bind, first, bind_ok, rest, atOnce_pure]
      rfl

theorem lt_nextNumber {next : Nat} (isNext : s.nextNumber range = .ok next) {r : PortRow}
    (member : r ∈ s.ports.rows) : r.number < next := by
  simp only [nextNumber, largestPort] at isNext
  cases largest : s.ports.largest? with
  | none =>
    rw [PortTable.largest?_eq_none.mp largest] at member
    cases member
  | some number =>
    have below := (PortTable.largest?_eq_some largest).2 r member
    rw [largest] at isNext
    simp only [bind_eq_ok, map_eq_ok, readable_eq_ok] at isNext
    obtain ⟨_, ⟨port, isPort, rfl⟩, isNext⟩ := isNext
    have := PortNumber.val_of_ofInt? isPort
    cases isNext
    omega

/-- The ports by which the pool grows are new, so they are free. -/
theorem atOnce_insertPorts_new {next size : Nat} (isNext : s.nextNumber range = .ok next)
    (positive : 0 < size) : ∃ rows : List PortRow,
      (∀ r ∈ rows, r ∈ (s.fillPorts next size).ports.rows ∧
        (s.fillPorts next size).isReserved r = false) ∧
      rows.map (·.number) = numbersFrom next (next + size - 1 : Nat) ∧
      ((numbersFrom next (next + size - 1 : Nat)).mapM' insertPort).atOnce s =
        .ok (rows.map (·.id), s.fillPorts next size) := by
  have filled : s.fillEach (numbersFrom next (next + size - 1 : Nat)) = s.fillPorts next size := by
    rw [← fillEach_numbersFrom, show ((next + size - 1 : Nat) : Int) = next + size - 1 by omega]
  obtain ⟨rows, present, numbered, recorded⟩ :=
    atOnce_insertPorts s (numbersFrom next (next + size - 1 : Nat))
  rw [filled] at present recorded
  refine ⟨rows, fun r among => ⟨present r among, ?_⟩, numbered, recorded⟩
  have low : next ≤ r.number := by
    have : r.number ∈ rows.map (·.number) := List.mem_map_of_mem among
    rw [numbered] at this
    exact (mem_numbersFrom.mp this).1
  rcases PortTable.mem_fill.mp (present r among) with old | ⟨-, -, unlinked, -⟩
  · have := lt_nextNumber isNext old
    omega
  · simp [isReserved, unlinked]

theorem atOnce_grow {size : Nat} (guarded : Guarded s) (registered : s.Registered owner)
    (positive : 0 < size) :
    (grow range owner size now).atOnce s = s.grow range owner size now := by
  simp only [grow, Store.grow, atOnce_bind, atOnce_query]
  cases isNext : s.nextNumber range with
  | error fault => rfl
  | ok next =>
    simp only [map_ok, bind_ok]
    split
    · obtain ⟨rows, present, numbered, recorded⟩ := atOnce_insertPorts_new isNext positive
      rw [atOnce_bind, recorded, bind_ok]
      exact atOnce_insertBinding (guarded.record ..) registered (by omega) present numbered
    · rfl

theorem numbersFrom_of_window {numbers : List Int} {size offset : Nat} {first : Int}
    (window : ∀ j : Nat, j < size → numbers[offset + j]? = some (first + j)) :
    (numbers.drop offset).take size = numbersFrom first (first + size - 1) := by
  have width : (first + (size : Int) - 1 + 1 - first).toNat = size := by omega
  apply List.ext_getElem?
  intro j
  simp only [numbersFrom, width, List.getElem?_take, List.getElem?_drop, List.getElem?_map]
  by_cases within : j < size
  · rw [if_pos within, window j within, List.getElem?_range within, Option.map_some]
  · rw [if_neg within, List.getElem?_eq_none (by simpa using within), Option.map_none]

/-- The window that is found has the ports of a span. -/
theorem exists_span_of_findWindow {size offset : Nat}
    (window : findWindow ((s.freePorts range).map (·.number)) size = some offset) :
    ∃ first, findWindowStart ((s.freePorts range).map (·.number)) size = some first ∧
      (((s.freePorts range).drop offset).take size).map (·.number) =
        numbersFrom first (first + size - 1) := by
  obtain ⟨positive, ⟨first, entries⟩, -⟩ :=
    (findWindow_eq_some (freeNumbers_ascending s range)).mp window
  refine ⟨first, by simpa [findWindowStart, window] using entries 0 positive, ?_⟩
  rw [List.map_take, List.map_drop]
  exact numbersFrom_of_window entries

/-- The ports of a window are those of its span. -/
theorem atOnce_insertWindow {rows : List PortRow} {first last : Int} (guarded : Guarded s)
    (registered : s.Registered owner) (ordered : first ≤ last)
    (present : ∀ r ∈ rows, r ∈ s.ports.rows ∧ s.isReserved r = false)
    (numbered : rows.map (·.number) = numbersFrom first last) :
    (insertWindow owner now rows).atOnce s = s.bind owner first last now := by
  cases rows with
  | nil =>
    rw [numbersFrom_eq_cons ordered] at numbered
    cases numbered
  | cons r rows =>
    have starts : r.number = first := by
      rw [numbersFrom_eq_cons ordered, List.map_cons, List.cons.injEq] at numbered
      exact numbered.1
    have ends : (rows.getLastD r).number = last := by
      have isLast := congrArg List.getLast? numbered
      rw [getLast?_numbersFrom ordered, List.getLast?_map, List.getLast?_cons] at isLast
      simpa using isLast
    rw [insertWindow, starts, ends]
    exact atOnce_insertBinding guarded registered ordered present numbered

theorem atOnce_reserveSpan (guarded : Guarded s) (size : Nat) :
    (reserveSpan range owner size now).atOnce s = s.reserveSpan range owner size now := by
  simp only [reserveSpan, Store.reserveSpan]
  split
  · rfl
  · rename_i nonzero
    have positive : 0 < size := Nat.pos_of_ne_zero nonzero
    simp only [atOnce_transaction, atOnce_bind, atOnce_query]
    cases found : s.getInstance owner with
    | error fault => rfl
    | ok i =>
      have registered : s.Registered owner := Recalls.registered ⟨i, found⟩
      simp only [map_ok, bind_ok]
      cases window : findWindow ((s.freePorts range).map (·.number)) size with
      | none =>
        simp only [findWindowStart, window, Option.bind_none]
        exact atOnce_grow guarded registered positive
      | some offset =>
        obtain ⟨first, starts, numbered⟩ := exists_span_of_findWindow window
        rw [starts]
        have last : first + (size - 1 : Nat) = first + size - 1 := by omega
        simp only [last]
        refine atOnce_insertWindow guarded registered (by omega) (fun r among => ?_) numbered
        have free := mem_freePorts.mp (List.mem_of_mem_drop (List.mem_of_mem_take among))
        exact ⟨free.1, free.2.2⟩

theorem atOnce_reserveOne (guarded : Guarded s) :
    (reserveOne range owner now).atOnce s = s.reserveOne range owner now := by
  have first : ((s.freePorts range).take 1).head? = (s.freePorts range).head? := by
    cases s.freePorts range <;> rfl
  simp only [reserveOne, Store.reserveOne, atOnce_transaction, atOnce_bind, atOnce_query]
  cases found : s.getInstance owner with
  | error fault => rfl
  | ok i =>
    have registered : s.Registered owner := Recalls.registered ⟨i, found⟩
    simp only [map_ok, bind_ok, first]
    cases lowest : (s.freePorts range).head? with
    | none => exact atOnce_grow guarded registered Nat.one_pos
    | some r =>
      have free := mem_freePorts.mp (List.mem_of_head? lowest)
      have single : [r].map (·.number) = numbersFrom r.number r.number :=
        (numbersFrom_self r.number).symm
      refine atOnce_insertBinding guarded registered (Int.le_refl _) (fun q among => ?_) single
      rw [List.mem_singleton.mp among]
      exact ⟨free.1, free.2.2⟩

theorem atOnce_reserve (guarded : Guarded s) (size : Option Int) :
    (reserve range owner size now).atOnce s = s.reserve range owner size now := by
  cases size with
  | none => exact atOnce_reserveOne guarded
  | some n =>
    simp only [reserve, Store.reserve]
    split
    · exact atOnce_reserveOne guarded
    · split
      · rfl
      · split
        · rfl
        · exact atOnce_reserveSpan guarded _

/-! ## Joining -/

/-- Register an instance. -/
def join (new : NewInstance) (now : Time.Instant) : Script Instance :=
  transaction do
    let known ← query (·.findInstance new.id)
    if known.isSome then fail (.alreadyRegistered new.id)
    else do
      let description := (Json.Value.object new.description).toText
      change fun s =>
        (s.addInstance (some new.id) (some new.name) (some description)
          (some (stored now))).mapError fun _ => .alreadyRegistered new.id
      pure ⟨new.id, new.name, new.description, now⟩

theorem sealed_join (new : NewInstance) (now : Time.Instant) : (join new now).Sealed false := by
  refine Inner.sealed ((inner_query _).bind fun known => ?_)
  split
  · trivial
  · exact (inner_change _).bind fun _ => trivial

theorem atOnce_join (new : NewInstance) (now : Time.Instant) (s : Store) :
    (join new now).atOnce s = s.join new now := by
  simp only [join, Store.join, atOnce_transaction, atOnce_bind, atOnce_query]
  cases s.findInstance new.id with
  | error fault => rfl
  | ok known =>
    simp only [map_ok, bind_ok]
    split
    · rfl
    · simp only [atOnce_bind, atOnce_change]
      cases s.addInstance (some new.id) (some new.name)
        (some (Json.Value.object new.description).toText) (some (stored now)) <;> rfl

/-! ## Releasing -/

/-- Mark a binding as released, after its row was read. -/
def finish (b : Binding) (now : Time.Instant) : Script Binding := do
  row fun s => (s.setReleased b.id (some (stored now))).map (·.2)
  pure { b with releasedAt := some now }

/-- Release the active binding that a port belongs to. -/
def releasePort (ownership : Ownership) (number : PortNumber) (owner : Option String)
    (now : Time.Instant) : Script Binding := do
  decided (checkOwnership ownership owner)
  transaction do
    query (·.checkInstance owner)
    let port ← query fun s =>
      match s.ports.find? number.val with
      | none => .error (.portNotFound number.val)
      | some r => (s.readPort r).map fun _ => r
    let binding ← query fun s =>
      match s.bindings.find? fun b =>
          port.holders.contains b.id && b.isActive && ownedBy owner b with
      | none => .error (.notBound (.port number.val))
      | some b => b.read
    finish binding now

/-- Release the active binding of an exact span. -/
def releaseSpan (ownership : Ownership) (first last : PortNumber) (owner : Option String)
    (now : Time.Instant) : Script Binding :=
  if last < first then fail (.invalidRequest (.spanReversed first.val last.val))
  else do
    decided (checkOwnership ownership owner)
    transaction do
      query (·.checkInstance owner)
      let matched ← query fun s =>
        let spanning := s.bindings.filter fun b =>
          b.first == (first.val : Int) && b.last == (last.val : Int) && ownedBy owner b
        match spanning.find? (·.isActive) <|> spanning.head? with
        | none => .error (.bindingNotFound (.span first.val last.val))
        | some b => b.read
      if matched.isActive then finish matched now
      else fail (.notBound (.span first.val last.val))

/-- Release what a request names. -/
def release (ownership : Ownership) (r : ReleaseRequest) (now : Time.Instant) :
    Script Binding :=
  let owner := r.instanceId.filter fun id => !id.isEmpty
  match r.port, r.first, r.last with
  | some number, none, none => releasePort ownership number owner now
  | none, some first, some last => releaseSpan ownership first last owner now
  | none, none, none => fail (.invalidRequest .selectorMissing)
  | _, _, _ => fail (.invalidRequest .selectorMixed)

theorem inner_finish (b : Binding) (now : Time.Instant) : (finish b now).Inner :=
  (inner_change _).bind fun _ => trivial

theorem sealed_releasePort (ownership : Ownership) (number : PortNumber) (owner : Option String)
    (now : Time.Instant) : (releasePort ownership number owner now).Sealed false :=
  .after_decided _ fun _ => Inner.sealed ((inner_query _).bind fun _ => (inner_query _).bind
    fun _ => (inner_query _).bind fun b => inner_finish b now)

theorem sealed_releaseSpan (ownership : Ownership) (first last : PortNumber)
    (owner : Option String) (now : Time.Instant) :
    (releaseSpan ownership first last owner now).Sealed false := by
  unfold releaseSpan
  split
  · trivial
  · refine Sealed.after_decided _ fun _ => Inner.sealed ?_
    refine (inner_query _).bind fun _ => (inner_query _).bind fun matched => ?_
    split
    · exact inner_finish matched now
    · trivial

theorem sealed_release (ownership : Ownership) (r : ReleaseRequest) (now : Time.Instant) :
    (release ownership r now).Sealed false := by
  obtain ⟨named, port, first, last⟩ := r
  rw [release]
  -- a port alone or both ends of a span; every other combination is refused
  rcases port with _ | port <;> rcases first with _ | first <;> rcases last with _ | last
  case some.none.none => exact sealed_releasePort _ _ _ _
  case none.some.some => exact sealed_releaseSpan _ _ _ _ _
  all_goals trivial

/-- A binding that was read is marked by its id. -/
theorem atOnce_finish (b : BindingRow) (now : Time.Instant) (s : Store) :
    (do (finish (← b.read) now).atOnce s) = s.finish b now := by
  cases told : b.read with
  | error fault => simp [Store.finish, told]
  | ok binding =>
    simp only [finish, Store.finish, told, bind_ok, atOnce_bind, atOnce_row,
      (BindingRow.of_read told).1]
    cases s.setReleased b.id (some (stored now)) <;> rfl

/-- Both checks come first; what follows is done only if they pass. -/
theorem atOnce_checked {α : Type} {look : Script α} {outcome : Except Fault (α × Store)}
    {s : Store} (ownership : Ownership) (owner : Option String)
    (same : look.atOnce s = outcome) :
    (do
      decided (checkOwnership ownership owner)
      transaction do
        query (·.checkInstance owner)
        look).atOnce s = (do
      checkOwnership ownership owner
      s.checkInstance owner
      outcome) := by
  simp only [atOnce_transaction, atOnce_bind, atOnce_query, atOnce_decided]
  cases checkOwnership ownership owner with
  | error fault => rfl
  | ok _ =>
    simp only [map_ok, bind_ok]
    cases s.checkInstance owner with
    | error fault => rfl
    | ok _ => exact same

theorem atOnce_releasePort (ownership : Ownership) (number : PortNumber) (owner : Option String)
    (now : Time.Instant) (s : Store) :
    (releasePort ownership number owner now).atOnce s =
      s.releasePort ownership number owner now := by
  refine atOnce_checked ownership owner ?_
  simp only [atOnce_bind, atOnce_query]
  cases s.ports.find? number.val with
  | none => rfl
  | some r =>
    dsimp only
    cases s.readPort r with
    | error fault => rfl
    | ok _ =>
      simp only [map_ok, bind_ok]
      cases s.bindings.find? fun b =>
          r.holders.contains b.id && b.isActive && ownedBy owner b with
      | none => rfl
      | some b =>
        simp only [← atOnce_finish]
        cases b.read <;> rfl

theorem atOnce_releaseSpan (ownership : Ownership) (first last : PortNumber)
    (owner : Option String) (now : Time.Instant) (s : Store) :
    (releaseSpan ownership first last owner now).atOnce s =
      s.releaseSpan ownership first last owner now := by
  simp only [releaseSpan, Store.releaseSpan]
  split
  · rfl
  · refine atOnce_checked ownership owner ?_
    simp only [atOnce_bind, atOnce_query]
    generalize s.bindings.filter (fun b => b.first == (first.val : Int) &&
      b.last == (last.val : Int) && ownedBy owner b) = spanning
    cases spanning.find? (·.isActive) <|> spanning.head? with
    | none => rfl
    | some b =>
      simp only [← atOnce_finish]
      cases b.read with
      | error fault => rfl
      | ok matched =>
        simp only [map_ok, bind_ok]
        split <;> rfl

theorem atOnce_release (ownership : Ownership) (r : ReleaseRequest) (now : Time.Instant)
    (s : Store) : (release ownership r now).atOnce s = s.release ownership r now := by
  obtain ⟨named, port, first, last⟩ := r
  rw [release, Store.release]
  rcases port with _ | port <;> rcases first with _ | first <;> rcases last with _ | last
  case some.none.none => exact atOnce_releasePort _ _ _ _ _
  case none.some.some => exact atOnce_releaseSpan _ _ _ _ _ _
  all_goals rfl

/-! ## Recording -/

/-- Record a port if it is not known. -/
def insertMissing (number : PortNumber) : Script Unit := do
  let known ← query (·.findPort number)
  match known with
  | some _ => pure ()
  | none => do
    let _ ← insertPort number.val
    pure ()

/-- The port of a number, recorded first if it is not known. -/
def recordOne (number : PortNumber) : Script Port := do
  insertMissing number
  let port ← query (·.findPort number)
  match port with
  | none => fail (.internal ("port " ++ Text.Numeral.decimal number.val ++ " vanished"))
  | some port => pure port

/-- Record the reported ports of a range. -/
def observe (range : PortRange) (reported : List PortNumber) : Script (List Port) :=
  let within := reported.filter fun n => range.has n.val
  transaction
    (((ascending (within.map (·.val))).map fun (n : Nat) => PortNumber.wrap (n : Int)).mapM'
      recordOne)

/-- Record a port, unless it is known; how many rows are new. -/
def seedOne (number : Int) : Script Nat := do
  let before ← query fun s => .ok s.ports.rows.length
  change fun s => .ok (s.fillPorts number 1)
  let after ← query fun s => .ok s.ports.rows.length
  pure (after - before)

/-- Record all ports of a range. -/
def seed (range : PortRange) : Script Nat :=
  transaction do
    let created ← (numbersFrom range.start (range.stop - 1)).mapM' seedOne
    pure created.sum

theorem inner_recordOne (number : PortNumber) : (recordOne number).Inner := by
  have missing : (insertMissing number).Inner := by
    refine (inner_query _).bind fun known => ?_
    split
    · trivial
    · exact (inner_insertPort _).bind fun _ => trivial
  refine missing.bind fun _ => (inner_query _).bind fun port => ?_
  split <;> trivial

theorem inner_seedOne (number : Int) : (seedOne number).Inner :=
  (inner_query _).bind fun _ => (inner_change _).bind fun _ => (inner_query _).bind fun _ => trivial

theorem sealed_observe (range : PortRange) (reported : List PortNumber) :
    (observe range reported).Sealed false :=
  Inner.sealed (Inner.mapM inner_recordOne _)

theorem sealed_seed (range : PortRange) : (seed range).Sealed false :=
  Inner.sealed ((Inner.mapM inner_seedOne _).bind fun _ => trivial)

theorem atOnce_insertMissing (number : PortNumber) (s : Store) :
    (insertMissing number).atOnce s =
      if (s.ports.find? number.val).isSome then (s.findPort number).map fun _ => ((), s)
      else .ok ((), s.fillPorts number.val 1) := by
  simp only [insertMissing, atOnce_bind, atOnce_query, findPort]
  cases s.ports.find? number.val with
  | none =>
    obtain ⟨r, -, -, inserted⟩ := atOnce_insertPort s number.val
    simp [atOnce_bind, inserted]
  | some r =>
    simp only [Option.isSome_some, if_true]
    cases s.readPort r <;> rfl

/-- A port that is known is read twice, with the same result. -/
theorem atOnce_recordOne (number : PortNumber) (s : Store) :
    (recordOne number).atOnce s =
      let t := if (s.ports.find? number.val).isSome then s else s.fillPorts number.val 1
      (do
        match ← t.findPort number with
        | none =>
          .error (.internal ("port " ++ Text.Numeral.decimal number.val ++ " vanished"))
        | some port => .ok (port, t)) := by
  simp only [recordOne, atOnce_bind, atOnce_insertMissing, atOnce_query]
  by_cases known : (s.ports.find? number.val).isSome
  · simp only [if_pos known]
    cases read : s.findPort number with
    | error fault => rfl
    | ok port =>
      simp only [map_ok, bind_ok, read]
      cases port <;> rfl
  · simp only [if_neg known, bind_ok]
    cases (s.fillPorts number.val 1).findPort number with
    | error fault => rfl
    | ok port => cases port <;> rfl

theorem atOnce_recordEach (numbers : List PortNumber) (s : Store) :
    (numbers.mapM' recordOne).atOnce s = recordEach numbers s := by
  induction numbers generalizing s with
  | nil => rfl
  | cons n numbers ih =>
    simp only [List.mapM'_cons, recordEach, atOnce_bind, atOnce_recordOne]
    cases (if (s.ports.find? n.val).isSome then s else s.fillPorts n.val 1).findPort n with
    | error fault => rfl
    | ok port =>
      cases port with
      | none => rfl
      | some port =>
        simp only [bind_ok, ih]
        cases recordEach numbers (if (s.ports.find? n.val).isSome then s else
          s.fillPorts n.val 1) <;> rfl

theorem atOnce_observe (range : PortRange) (reported : List PortNumber) (s : Store) :
    (observe range reported).atOnce s = s.observe range reported := by
  rw [observe, atOnce_transaction]
  exact atOnce_recordEach _ s

theorem atOnce_seedEach (numbers : List Int) (s : Store) :
    ∃ created : List Nat, (numbers.mapM' seedOne).atOnce s = .ok (created, s.fillEach numbers) ∧
      s.ports.rows.length + created.sum = (s.fillEach numbers).ports.rows.length := by
  induction numbers generalizing s with
  | nil => exact ⟨[], rfl, rfl⟩
  | cons n numbers ih =>
    obtain ⟨created, rest, counted⟩ := ih (s.fillPorts n 1)
    have more := length_le_fillPorts s n 1
    refine ⟨((s.fillPorts n 1).ports.rows.length - s.ports.rows.length) :: created, ?_, ?_⟩
    · simp only [List.mapM'_cons, atOnce_bind, seedOne, atOnce_query, atOnce_change, map_ok,
        bind_ok, atOnce_pure, rest]
      rfl
    · rw [List.sum_cons]
      show _ = ((s.fillPorts n 1).fillEach numbers).ports.rows.length
      omega

theorem atOnce_seed (range : PortRange) (s : Store) :
    (seed range).atOnce s = .ok (s.seed range) := by
  have filled : s.fillEach (numbersFrom range.start (range.stop - 1)) =
      s.fillPorts range.start range.size := by
    have := range.start_lt_stop
    rw [← fillEach_numbersFrom, show (range.stop : Int) - 1 = range.start + range.size - 1 by
      simp only [PortRange.size]
      omega]
  obtain ⟨created, recorded, counted⟩ :=
    atOnce_seedEach (numbersFrom range.start (range.stop - 1)) s
  rw [filled] at recorded counted
  simp only [seed, atOnce_transaction, atOnce_bind, recorded, bind_ok, atOnce_pure, Store.seed,
    Except.ok.injEq, Prod.mk.injEq, and_true]
  omega

end Script

/-! ## Every operation -/

namespace Operation

/-- The statements that carry out a request. -/
def script (settings : Settings) (now : Time.Instant) : Operation → Script Answer
  | .join new => .joined <$> Script.join new now
  | .getInstance id => .joined <$> Script.query (·.getInstance id)
  | .findInstance id => .perhapsInstance <$> Script.query (·.findInstance id)
  | .listInstances name => .instances <$> Script.query (·.listInstances name)
  | .reserve owner size => .binding <$> Script.reserve settings.range owner size now
  | .reserveSpan owner size => .binding <$> Script.reserveSpan settings.range owner size now
  | .reserveOne owner => .binding <$> Script.reserveOne settings.range owner now
  | .release request => .binding <$> Script.release settings.ownership request now
  | .releasePort number owner =>
    .binding <$> Script.releasePort settings.ownership number owner now
  | .releaseSpan first last owner =>
    .binding <$> Script.releaseSpan settings.ownership first last owner now
  | .listPorts filter => .ports <$> Script.query (·.listPorts filter)
  | .listBindings filter => .bindings <$> Script.query (·.listBindings filter)
  | .observe reported => .ports <$> Script.observe settings.range reported
  | .seed => .count <$> Script.seed settings.range
  | .findPort number => .perhapsPort <$> Script.query (·.findPort number)
  | .findBinding id => .perhapsBinding <$> Script.query (·.findBinding id)

variable (settings : Settings) (now : Time.Instant) (request : Operation)

theorem script_sealed : (request.script settings now).Sealed false := by
  cases request with
  | join new => exact (Script.sealed_join new now).map _
  | reserve owner size => exact (Script.sealed_reserve _ owner size now).map _
  | reserveSpan owner size => exact (Script.sealed_reserveSpan _ owner size now).map _
  | reserveOne owner => exact (Script.sealed_reserveOne _ owner now).map _
  | release request => exact (Script.sealed_release _ request now).map _
  | releasePort number owner => exact (Script.sealed_releasePort _ number owner now).map _
  | releaseSpan first last owner => exact (Script.sealed_releaseSpan _ first last owner now).map _
  | observe reported => exact (Script.sealed_observe _ reported).map _
  | seed => exact (Script.sealed_seed _).map _
  | getInstance | findInstance | listInstances | listPorts | listBindings | findPort
  | findBinding => exact (Script.sealed_query _).map _

theorem atOnce_changing {α : Type} {p : Script α} {s : Store} {result : Except Fault (α × Store)}
    (wrap : α → Answer) (same : p.atOnce s = result) :
    (wrap <$> p).atOnce s = changing wrap result := by
  rw [Script.atOnce_map, same]
  rfl

theorem atOnce_reading {α : Type} (wrap : α → Answer) (look : Store → Except Fault α)
    (s : Store) : (wrap <$> Script.query look).atOnce s = reading s ((look s).map wrap) := by
  rw [Script.atOnce_map, Script.atOnce_query, reading]
  cases look s <;> rfl

/-- **The statements of a request come to what it does at once.** -/
theorem atOnce_script {s : Store} (guarded : Guarded s) :
    (request.script settings now).atOnce s = request.perform settings now s := by
  cases request with
  | join new => exact atOnce_changing _ (Script.atOnce_join new now s)
  | reserve owner size => exact atOnce_changing _ (Script.atOnce_reserve guarded size)
  | reserveSpan owner size => exact atOnce_changing _ (Script.atOnce_reserveSpan guarded size)
  | reserveOne owner => exact atOnce_changing _ (Script.atOnce_reserveOne guarded)
  | release request => exact atOnce_changing _ (Script.atOnce_release _ request now s)
  | releasePort number owner =>
    exact atOnce_changing _ (Script.atOnce_releasePort _ number owner now s)
  | releaseSpan first last owner =>
    exact atOnce_changing _ (Script.atOnce_releaseSpan _ first last owner now s)
  | observe reported => exact atOnce_changing _ (Script.atOnce_observe _ reported s)
  | seed => exact atOnce_changing _ (Script.atOnce_seed settings.range s)
  | getInstance | findInstance | listInstances | listPorts | listBindings | findPort
  | findBinding => exact atOnce_reading ..

/-- **Carried out statement by statement, a request does to a guarded store what it does at
once.** -/
theorem run_script {s : Store} (guarded : Guarded s) :
    (request.script settings now).run s =
      ((request.perform settings now s).map Prod.fst, request.next settings now s) := by
  rw [Script.run_of_sealed (script_sealed settings now request), atOnce_script settings now request guarded,
    next]
  cases request.perform settings now s <;> rfl

end Operation

end PortPool
