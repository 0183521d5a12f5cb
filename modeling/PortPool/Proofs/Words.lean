/-
# PortPool.Proofs.Words -- reservations in machine words

The store reckons with numbers of any size.  A machine has words: a port number has 16
bits, a size that is asked for arrives as a signed word of 64 and is narrowed to 32, and
positions in a list have 64.  Here reserving is written once more with such words
(`Words.reserve`).  Where a sum, a difference, a narrower word, an entry or a slice of a
list would not be what it is meant to be, this is a slip, and so it is if a list that is
searched does not ascend, or if rows that are linked are not those of their span.

On a store that is guarded by its rules, whoever wrote its rows, no reservation slips: it
gives what the store gives (`reserve_exact`).  Each guard stands somewhere else than the
step it protects.  That a window is no longer than the list bounds its size, and that the
list ascends bounds the list; that the last new number is below the end of the range
bounds the next as well.
-/
import PortPool.Proofs.Statements

namespace PortPool

set_option autoImplicit false

/-- What can go wrong where a machine reckons with words. -/
inductive Slip where
  | overflow
  | underflow
  | truncated
  | outOfBounds
  | misordered
  | mislinked
deriving DecidableEq, Repr

/-- Why a machine does not finish: it slips, or it tells a fault. -/
inductive Halt where
  | slip (slip : Slip)
  | fault (fault : Fault)

/-- The ids are those of the ports with the numbers of a span, in turn, each once. -/
def Store.Spanned (s : Store) (first last : Int) (ids : List Nat) : Prop :=
  ids.Nodup ∧
    ids.map (fun id : Nat => (s.ports.findId? id).map (·.number)) =
      (numbersFrom first last).map some

instance (s : Store) (first last : Int) (ids : List Nat) : Decidable (s.Spanned first last ids) :=
  inferInstanceAs (Decidable (_ ∧ _))

namespace Words

variable {α : Type} {v w : Nat}

/-! ## Words -/

/-- The sum of two words. -/
def add (a b : BitVec w) : Except Slip (BitVec w) :=
  if a.uaddOverflow b then .error .overflow else .ok (a + b)

/-- The difference of two words. -/
def sub (a b : BitVec w) : Except Slip (BitVec w) :=
  if a.usubOverflow b then .error .underflow else .ok (a - b)

/-- The number as a word. -/
def word (w n : Nat) : Except Slip (BitVec w) :=
  if (BitVec.ofNat w n).toNat = n then .ok (BitVec.ofNat w n) else .error .truncated

/-- The word in another width. -/
def cast (v : Nat) (a : BitVec w) : Except Slip (BitVec v) := word v a.toNat

/-- The entry at a position. -/
def entry (l : List α) (i : BitVec 64) : Except Slip α :=
  match l[i.toNat]? with
  | some a => .ok a
  | none => .error .outOfBounds

/-- The entries from a position on, up to another. -/
def slice (l : List α) (first stop : BitVec 64) : Except Slip (List α) :=
  if first.toNat ≤ stop.toNat ∧ stop.toNat ≤ l.length then
    .ok ((l.drop first.toNat).take (stop.toNat - first.toNat))
  else .error .outOfBounds

/-- The window of this size at a position. -/
def windowAt (l : List α) (position : BitVec 64) (size : BitVec 32) : Except Slip (List α) := do
  slice l position (← add position (← cast 64 size))

/-- The last entry. -/
def lastEntry (l : List α) : Except Slip α := do
  entry l (← sub (← word 64 l.length) 1)

theorem add_spec {a b : BitVec w} (fits : a.toNat + b.toNat < 2 ^ w) :
    ∃ c, add a b = .ok c ∧ c.toNat = a.toNat + b.toNat := by
  have holds : ¬a.uaddOverflow b := by simpa [BitVec.uaddOverflow] using fits
  exact ⟨a + b, if_neg holds, BitVec.toNat_add_of_not_uaddOverflow holds⟩

theorem sub_spec {a b : BitVec w} (fits : b.toNat ≤ a.toNat) :
    ∃ c, sub a b = .ok c ∧ c.toNat = a.toNat - b.toNat := by
  have holds : ¬a.usubOverflow b := by simpa [BitVec.usubOverflow] using fits
  exact ⟨a - b, if_neg holds, BitVec.toNat_sub_of_not_usubOverflow holds⟩

theorem succ_spec {a : BitVec w} (wide : 0 < w) (fits : a.toNat + 1 < 2 ^ w) :
    ∃ c, add a 1 = .ok c ∧ c.toNat = a.toNat + 1 := by
  have one : (1 : BitVec w).toNat = 1 := BitVec.toNat_one wide
  obtain ⟨c, isSum, value⟩ := add_spec (a := a) (b := 1) (by omega)
  exact ⟨c, isSum, by omega⟩

theorem pred_spec {a : BitVec w} (wide : 0 < w) (positive : 0 < a.toNat) :
    ∃ c, sub a 1 = .ok c ∧ c.toNat = a.toNat - 1 := by
  have one : (1 : BitVec w).toNat = 1 := BitVec.toNat_one wide
  obtain ⟨c, isDifference, value⟩ := sub_spec (a := a) (b := 1) (by omega)
  exact ⟨c, isDifference, by omega⟩

theorem word_spec {n : Nat} (fits : n < 2 ^ w) : ∃ c, word w n = .ok c ∧ c.toNat = n := by
  have same : (BitVec.ofNat w n).toNat = n := by rw [BitVec.toNat_ofNat, Nat.mod_eq_of_lt fits]
  exact ⟨BitVec.ofNat w n, if_pos same, same⟩

theorem cast_spec {a : BitVec w} (fits : a.toNat < 2 ^ v) :
    ∃ c, cast v a = .ok c ∧ c.toNat = a.toNat := word_spec fits

theorem entry_eq {l : List α} {i : BitVec 64} {a : α} (there : l[i.toNat]? = some a) :
    entry l i = .ok a := by
  rw [entry, there]

theorem slice_eq {l : List α} {first stop : BitVec 64} (ordered : first.toNat ≤ stop.toNat)
    (within : stop.toNat ≤ l.length) :
    slice l first stop = .ok ((l.drop first.toNat).take (stop.toNat - first.toNat)) :=
  if_pos ⟨ordered, within⟩

theorem windowAt_eq {l : List α} {position : BitVec 64} {size : BitVec 32}
    (within : position.toNat + size.toNat ≤ l.length) (few : l.length < 2 ^ 64) :
    windowAt l position size = .ok ((l.drop position.toNat).take size.toNat) := by
  obtain ⟨wide, isWide, wideValue⟩ := cast_spec (v := 64) (a := size) (by omega)
  obtain ⟨stop, isStop, stopValue⟩ := add_spec (a := position) (b := wide) (by omega)
  simp only [windowAt, isWide, isStop, bind_ok]
  rw [slice_eq (by omega) (by omega), show stop.toNat - position.toNat = size.toNat by omega]

theorem lastEntry_eq {l : List α} {a : α} (isLast : l[l.length - 1]? = some a)
    (few : l.length < 2 ^ 64) : lastEntry l = .ok a := by
  have some_ : l.length - 1 < l.length := (List.getElem?_eq_some_iff.mp isLast).1
  obtain ⟨count, isCount, countValue⟩ := word_spec (w := 64) few
  obtain ⟨back, isBack, backValue⟩ := pred_spec (a := count) (by decide) (by omega)
  simp only [lastEntry, isCount, isBack, bind_ok]
  exact entry_eq (by rw [backValue, countValue, isLast])

/-! ## Windows -/

/-- The window of this size ends as far above its first entry as its size allows. -/
def adjacent (window : List (BitVec 16)) (size : BitVec 64) : Except Slip Bool := do
  let last ← entry window (← sub size 1)
  let first ← entry window 0
  let expected ← add (← cast 32 first) (← sub (← cast 32 size) 1)
  pure ((← cast 32 last) == expected)

/-- The position of the first adjacent window, counted from `position`. -/
def search (size : BitVec 64) : BitVec 64 → List (BitVec 16) → Except Slip (Option (BitVec 64))
  | _, [] => .ok none
  | position, n :: numbers =>
    if (n :: numbers).length < size.toNat then .ok none
    else do
      if ← adjacent ((n :: numbers).take size.toNat) size then pure (some position)
      else search size (← add position 1) numbers

/-- The position of the first adjacent window of an ascending list. -/
def findWindow (numbers : List (BitVec 16)) (size : BitVec 32) :
    Except Slip (Option (BitVec 64)) := do
  if numbers.Pairwise (· < ·) then
    let size ← cast 64 size
    if size = 0 then pure none else search size 0 numbers
  else .error .misordered

/-- The numbers that the words are. -/
def values (numbers : List (BitVec 16)) : List Int := numbers.map fun n => (n.toNat : Int)

/-- An ascending list of words has no more entries than there are words. -/
theorem length_le_of_ascending {numbers : List (BitVec 16)} (sorted : numbers.Pairwise (· < ·))
    (low : Nat) (above : ∀ n ∈ numbers, low ≤ n.toNat) (top : low ≤ 65536) :
    numbers.length ≤ 65536 - low := by
  induction numbers generalizing low with
  | nil => simp
  | cons n numbers ih =>
    obtain ⟨least, sorted⟩ := List.pairwise_cons.mp sorted
    have first := above n List.mem_cons_self
    have most := n.isLt
    have others := ih sorted (n.toNat + 1)
      (fun m member => BitVec.lt_def.mp (least m member)) (by omega)
    rw [List.length_cons]
    omega

/-- The numbers that are compared are those of the window's ends. -/
theorem adjacent_eq {window : List (BitVec 16)} {size : BitVec 64} {first last : BitVec 16}
    (positive : 0 < size.toNat) (few : size.toNat ≤ 65536) (isFirst : window[0]? = some first)
    (isLast : window[size.toNat - 1]? = some last) :
    adjacent window size = .ok (last.toNat == first.toNat + (size.toNat - 1)) := by
  have small := first.isLt
  have small' := last.isLt
  obtain ⟨back, isBack, backValue⟩ := pred_spec (a := size) (by decide) positive
  obtain ⟨start, isStart, startValue⟩ := cast_spec (v := 32) (a := first) (by omega)
  obtain ⟨narrow, isNarrow, narrowValue⟩ := cast_spec (v := 32) (a := size) (by omega)
  obtain ⟨width, isWidth, widthValue⟩ := pred_spec (a := narrow) (by decide) (by omega)
  obtain ⟨sum, isSum, sumValue⟩ := add_spec (a := start) (b := width) (by omega)
  obtain ⟨stop, isStop, stopValue⟩ := cast_spec (v := 32) (a := last) (by omega)
  have ends : entry window back = .ok last := entry_eq (by rw [backValue, isLast])
  have starts : entry window 0 = .ok first := entry_eq isFirst
  simp only [adjacent, isBack, ends, starts, isStart, isNarrow, isWidth, isSum, isStop,
    bind_ok, pure_eq_ok, Except.ok.injEq]
  rw [Bool.eq_iff_iff, beq_iff_eq, beq_iff_eq, ← BitVec.toNat_inj]
  omega

/-- The window at the front ends as far above its first entry as its size allows. -/
def Front (n : BitVec 16) (numbers : List (BitVec 16)) (size : Nat) : Prop :=
  (values (n :: numbers))[size - 1]? = some ((n.toNat : Int) + (size - 1 : Nat))

instance (n : BitVec 16) (numbers : List (BitVec 16)) (size : Nat) :
    Decidable (Front n numbers size) :=
  inferInstanceAs (Decidable (_ = _))

theorem findWindow_front {n : BitVec 16} {numbers : List (BitVec 16)} {size : Nat}
    (positive : 0 < size) : PortPool.findWindow (values (n :: numbers)) size =
      if Front n numbers size then some 0
      else (PortPool.findWindow (values numbers) size).map (· + 1) :=
  findWindow_cons positive

theorem adjacent_front {n : BitVec 16} {numbers : List (BitVec 16)} {size : BitVec 64}
    (positive : 0 < size.toNat) (long : size.toNat ≤ (n :: numbers).length)
    (few : size.toNat ≤ 65536) :
    adjacent ((n :: numbers).take size.toNat) size =
      .ok (decide (Front n numbers size.toNat)) := by
  obtain ⟨m, isLast⟩ : ∃ m, (n :: numbers)[size.toNat - 1]? = some m :=
    ⟨_, List.getElem?_eq_getElem (by omega)⟩
  have isFirst : ((n :: numbers).take size.toNat)[0]? = some n := by
    rw [List.getElem?_take_of_lt positive]
    rfl
  have isLastToo : ((n :: numbers).take size.toNat)[size.toNat - 1]? = some m := by
    rw [List.getElem?_take_of_lt (by omega), isLast]
  have isEntry : (values (n :: numbers))[size.toNat - 1]? = some (m.toNat : Int) := by
    rw [values, List.getElem?_map, isLast, Option.map_some]
  rw [adjacent_eq positive few isFirst isLastToo, Except.ok.injEq, Bool.eq_iff_iff, beq_iff_eq,
    decide_eq_true_eq, Front, isEntry, Option.some.injEq]
  omega

/-- The search finds what is found among the numbers, if there are words for all positions. -/
theorem search_eq {numbers : List (BitVec 16)} {size : BitVec 64} (positive : 0 < size.toNat)
    (position : BitVec 64) (few : numbers.length ≤ 65536)
    (room : position.toNat + numbers.length < 2 ^ 64) :
    ∃ found, search size position numbers = .ok found ∧ found.map BitVec.toNat =
      (PortPool.findWindow (values numbers) size.toNat).map (position.toNat + ·) := by
  induction numbers generalizing position with
  | nil => exact ⟨none, rfl, by rw [values, List.map_nil, findWindow_of_short positive]; rfl⟩
  | cons n numbers ih =>
    by_cases short : (n :: numbers).length < size.toNat
    · rw [findWindow_of_short (by simpa [values] using short)]
      exact ⟨none, if_pos short, rfl⟩
    have long : size.toNat ≤ (n :: numbers).length := by omega
    have small := Nat.le_trans long few
    rw [List.length_cons] at few room
    rw [search, if_neg short, adjacent_front positive long small, bind_ok,
      findWindow_front positive]
    by_cases here : Front n numbers size.toNat
    · refine ⟨some position, if_pos (decide_eq_true here), ?_⟩
      rw [if_pos here]
      rfl
    · obtain ⟨next, isNext, nextValue⟩ := succ_spec (a := position) (by decide) (by omega)
      obtain ⟨found, finds, value⟩ := ih next (by omega) (by omega)
      refine ⟨found, by rw [if_neg (by simpa using here), isNext, bind_ok, finds], ?_⟩
      rw [value, if_neg here, Option.map_map]
      congr 1
      funext k
      simp only [Function.comp_apply]
      omega

/-- **The search of words is that of numbers**: whatever size is asked for, nothing in it
overflows. -/
theorem findWindow_eq {numbers : List (BitVec 16)} (sorted : numbers.Pairwise (· < ·))
    (size : BitVec 32) : ∃ found, findWindow numbers size = .ok found ∧
      found.map BitVec.toNat = PortPool.findWindow (values numbers) size.toNat := by
  have few : numbers.length ≤ 65536 :=
    length_le_of_ascending sorted 0 (fun _ _ => Nat.zero_le _) (by decide)
  obtain ⟨wide, isWide, value⟩ := cast_spec (v := 64) (a := size) (by
    have := size.isLt
    omega)
  rw [findWindow, if_pos sorted, isWide, bind_ok, ← value]
  split
  · rename_i zero
    subst zero
    exact ⟨none, rfl, rfl⟩
  · rename_i nonzero
    have positive : 0 < wide.toNat := by
      refine Nat.pos_of_ne_zero fun zero => nonzero ?_
      exact BitVec.toNat_inj.mp zero
    have zero : (0 : BitVec 64).toNat = 0 := rfl
    obtain ⟨found, finds, same⟩ := search_eq positive 0 few (by omega)
    refine ⟨found, finds, ?_⟩
    rw [same]
    simp

/-- The search passes over a gap, and does not begin on a list that goes down. -/
example : findWindow [8000, 8002, 8003] 2 = .ok (some 1) ∧
    findWindow [8002, 8000] 1 = .error .misordered := by
  decide

/-- **The first adjacent window is found, in words as in numbers.**  In an ascending list of
port numbers every search, for whatever size that fits a word, answers with the first window
that there is, and the search of words never slips. -/
theorem search_law {numbers : List (BitVec 16)} (sorted : numbers.Pairwise (· < ·))
    (size : BitVec 32) :
    SearchLaw (values numbers) size.toNat (PortPool.findWindow (values numbers) size.toNat) ∧
      ∃ found, findWindow numbers size = .ok found ∧
        found.map BitVec.toNat = PortPool.findWindow (values numbers) size.toNat := by
  have ascending : (values numbers).Pairwise (· < ·) := by
    rw [values, List.pairwise_map]
    exact sorted.imp fun below => Int.ofNat_lt.mpr (BitVec.lt_def.mp below)
  exact ⟨searchLaw ascending size.toNat, findWindow_eq sorted size⟩

/-- Behind a gap two numbers are adjacent, and no list has four thousand millions of them. -/
theorem search_law_gap :
    let numbers : List (BitVec 16) := [8000, 8002, 8003]
    numbers.Pairwise (· < ·) ∧ SearchLaw (values numbers) 2 (some 1) ∧
      SearchLaw (values numbers) 0xFFFFFFFF none ∧
      (∃ found, findWindow numbers 0xFFFFFFFF = .ok found ∧ found.map BitVec.toNat = none) := by
  intro numbers
  have sorted : numbers.Pairwise (· < ·) := by decide
  have two : PortPool.findWindow (values numbers) 2 = some 1 := by decide
  have many : PortPool.findWindow (values numbers) 0xFFFFFFFF = none :=
    findWindow_of_short (by decide)
  have few := (search_law sorted 2).1
  obtain ⟨none_, found, finds, same⟩ := search_law sorted 0xFFFFFFFF
  refine ⟨sorted, two ▸ few, many ▸ none_, found, finds, same.trans many⟩

/-! ## Reservations -/

/-- What is done to the store by a machine that may slip. -/
def Machine (α : Type) : Type := Store → Except Halt (α × Store)

instance : Monad Machine where
  pure a s := .ok (a, s)
  bind x next s :=
    match x s with
    | .ok (a, t) => next a t
    | .error halt => .error halt

/-- Reckon with words. -/
def reckon (x : Except Slip α) : Machine α := fun s => (x.mapError .slip).map (·, s)

/-- Carry out statements. -/
def carryOut (p : Script α) : Machine α := fun s => (p.atOnce s).mapError .fault

/-- A free port, as it is read from its row. -/
structure FreePort where
  id : Nat
  number : BitVec 16

/-- Read a row: its number has to fit a word. -/
def FreePort.read (r : PortRow) : Except Fault FreePort :=
  (readable (PortNumber.ofInt? r.number)).map fun n => ⟨r.id, BitVec.ofNat 16 n.val⟩

/-- The free ports of a range, the lowest ones only if there is a limit. -/
def freePorts (range : PortRange) (limit : Option Nat) : Machine (List FreePort) :=
  carryOut (Script.query fun s =>
    (match limit with
      | some few => (s.freePorts range).take few
      | none => s.freePorts range).mapM FreePort.read)

/-- Bind a span to its ports, of which there are as many as the span is wide. -/
def insertBinding (owner : String) (first last : BitVec 16) (ids : List Nat)
    (now : Time.Instant) : Machine Binding := do
  let width ← reckon (do add (← cast 64 (← sub last first)) 1)
  let count ← reckon (word 64 ids.length)
  let s ← carryOut (Script.query .ok)
  if count = width ∧ s.Spanned first.toNat last.toNat ids then
    carryOut (Script.insertBinding owner first.toNat last.toNat ids now)
  else reckon (.error .mislinked)

/-- The first number above everything that the pool knows. -/
def nextNumber (range : PortRange) : Machine (BitVec 32) := do
  let largest ← carryOut (Script.query (·.largestPort))
  let start ← reckon (do cast 32 (← word 16 range.start))
  match largest with
  | none => pure start
  | some number =>
    let next ← reckon (do add (← cast 32 (← word 16 number.val)) 1)
    pure (if next < start then start else next)

/-- Extend the pool by `size` new ports and bind them. -/
def grow (range : PortRange) (owner : String) (size : BitVec 32) (now : Time.Instant) :
    Machine Binding := do
  let next ← nextNumber range
  let more ← reckon (sub size 1)
  let stop ← reckon (do cast 32 (← word 16 range.stop))
  let exhausted := Script.fail (.poolExhausted size.toNat range.start range.stop)
  -- the one sum that may be no word: then it is above every range
  if next.uaddOverflow more then carryOut exhausted
  else
    let last := next + more
    if last < stop then do
      let first ← reckon (cast 16 next)
      let last ← reckon (cast 16 last)
      let ids ← carryOut ((numbersFrom first.toNat last.toNat).mapM' Script.insertPort)
      insertBinding owner first last ids now
    else carryOut exhausted

/-- Bind the ports of a window. -/
def bindWindow (owner : String) (window : List FreePort) (now : Time.Instant) :
    Machine Binding := do
  let first ← reckon (entry window 0)
  let last ← reckon (lastEntry window)
  insertBinding owner first.number last.number (window.map (·.id)) now

/-- Reserve `size` adjacent ports. -/
def reserveSpan (range : PortRange) (owner : String) (size : BitVec 32) (now : Time.Instant) :
    Machine Binding :=
  if size = 0 then carryOut (Script.fail (.invalidRequest .sizeZero))
  else do
    let _ ← carryOut (Script.query (·.getInstance owner))
    let candidates ← freePorts range none
    match ← reckon (findWindow (candidates.map (·.number)) size) with
    | some offset =>
      let window ← reckon (windowAt candidates offset size)
      bindWindow owner window now
    | none => grow range owner size now

/-- Reserve one port. -/
def reserveOne (range : PortRange) (owner : String) (now : Time.Instant) : Machine Binding := do
  let _ ← carryOut (Script.query (·.getInstance owner))
  let lowest ← freePorts range (some 1)
  match lowest.head? with
  | some port => insertBinding owner port.number port.number [port.id] now
  | none => grow range owner 1 now

/-- Reserve as many ports as are asked for, with a signed word. -/
def reserve (range : PortRange) (owner : String) (size : Option (BitVec 64))
    (now : Time.Instant) : Machine Binding :=
  match size with
  | none => reserveOne range owner now
  | some n =>
    if n.toInt = 1 then reserveOne range owner now
    else if n.toInt < 1 then carryOut (Script.fail (.invalidRequest (.sizeNotPositive n.toInt)))
    else if UInt32.size ≤ n.toInt then
      carryOut (Script.fail (.invalidRequest (.sizeTooLarge n.toInt)))
    else do
      let size ← reckon (cast 32 n)
      reserveSpan range owner size now

/-! ## No reservation slips -/

section Exact

variable {s : Store} {range : PortRange} {owner : String} {now : Time.Instant} {β : Type}

theorem bind_of_eq_ok {x : Machine α} {a : α} {t : Store} (done : x s = .ok (a, t))
    (next : α → Machine β) : (x >>= next) s = next a t := by
  show (match x s with
    | .ok (a, t) => next a t
    | .error halt => .error halt) = _
  rw [done]

theorem bind_of_eq_error {x : Machine α} {halt : Halt} (halted : x s = .error halt)
    (next : α → Machine β) : (x >>= next) s = .error halt := by
  show (match x s with
    | .ok (a, t) => next a t
    | .error halt => .error halt) = _
  rw [halted]

theorem reckon_eq {x : Except Slip α} {a : α} (done : x = .ok a) (s : Store) :
    reckon x s = .ok (a, s) := by
  subst done
  rfl

theorem carryOut_eq {p : Script α} {a : α} {t : Store} (done : p.atOnce s = .ok (a, t)) :
    carryOut p s = .ok (a, t) := by
  rw [carryOut, done]
  rfl

theorem carryOut_eq_error {p : Script α} {fault : Fault} (failed : p.atOnce s = .error fault) :
    carryOut p s = .error (.fault fault) := by
  rw [carryOut, failed]
  rfl

/-- What is read is read by the machine as well. -/
theorem carryOut_query (look : Store → Except Fault α) (next : α → Machine β) :
    (carryOut (Script.query look) >>= next) s =
      match look s with
      | .ok a => next a s
      | .error fault => .error (.fault fault) := by
  cases outcome : look s with
  | ok a => exact bind_of_eq_ok (carryOut_eq (by rw [Script.atOnce_query, outcome, map_ok])) next
  | error fault =>
    exact bind_of_eq_error
      (carryOut_eq_error (by rw [Script.atOnce_query, outcome, map_error])) next

theorem spanned_of_rows (guarded : Guarded s) {rows : List PortRow} {first last : Int}
    (present : ∀ r ∈ rows, r ∈ s.ports.rows)
    (numbered : rows.map (·.number) = numbersFrom first last) :
    s.Spanned first last (rows.map (·.id)) := by
  have found : (rows.map (·.id)).map (fun id : Nat => (s.ports.findId? id).map (·.number)) =
      (numbersFrom first last).map some := by
    rw [← numbered, List.map_map, List.map_map]
    refine List.map_congr_left fun r member => ?_
    simp only [Function.comp_apply, Store.findId?_of_mem guarded (present r member),
      Option.map_some]
  refine ⟨?_, found⟩
  have distinct : ((numbersFrom first last).map some).Nodup :=
    ((numbersFrom_ascending first last).imp Int.ne_of_lt).map _ fun _ _ => by simp
  exact (found ▸ distinct).of_map

/-- A binding gets exactly the rows of its span. -/
theorem insertBinding_eq (guarded : Guarded s) (registered : s.Registered owner)
    {rows : List PortRow} {first last : BitVec 16} (ordered : first.toNat ≤ last.toNat)
    (present : ∀ r ∈ rows, r ∈ s.ports.rows ∧ s.isReserved r = false)
    (numbered : rows.map (·.number) = numbersFrom first.toNat last.toNat) :
    insertBinding owner first last (rows.map (·.id)) now s =
      (s.bind owner first.toNat last.toNat now).mapError .fault := by
  have many : rows.length = last.toNat + 1 - first.toNat := by
    rw [← List.length_map (f := (·.number)), numbered, length_numbersFrom]
    omega
  have small := last.isLt
  obtain ⟨between, isBetween, betweenValue⟩ := sub_spec ordered
  obtain ⟨wide, isWide, wideValue⟩ := cast_spec (v := 64) (a := between) (by omega)
  obtain ⟨width, isWidth, widthValue⟩ := succ_spec (a := wide) (by decide) (by omega)
  obtain ⟨count, isCount, countValue⟩ := word_spec (w := 64) (n := (rows.map (·.id)).length) (by
    rw [List.length_map]
    omega)
  have reckoned : (do add (← cast 64 (← sub last first)) 1) = .ok width := by
    simp only [isBetween, isWide, isWidth, bind_ok]
  have same : count = width := by
    rw [← BitVec.toNat_inj, countValue, List.length_map]
    omega
  rw [insertBinding, bind_of_eq_ok (reckon_eq reckoned s), bind_of_eq_ok (reckon_eq isCount s),
    bind_of_eq_ok (carryOut_eq rfl),
    if_pos ⟨same, spanned_of_rows guarded (fun r member => (present r member).1) numbered⟩,
    carryOut, Script.atOnce_insertBinding guarded registered (by omega) present numbered]

/-- A bound of a range, widened. -/
theorem widened_spec {n : Nat} (fits : n < 2 ^ 16) :
    ∃ c, (do cast 32 (← word 16 n)) = .ok c ∧ c.toNat = n := by
  obtain ⟨narrow, isNarrow, narrowValue⟩ := word_spec fits
  obtain ⟨wide, isWide, wideValue⟩ := cast_spec (v := 32) (a := narrow) (by omega)
  exact ⟨wide, by simp only [isNarrow, isWide, bind_ok], by omega⟩

theorem nextNumber_eq {next : Nat} (isNext : s.nextNumber range = .ok next) :
    ∃ c, nextNumber range s = .ok (c, s) ∧ c.toNat = next ∧ next ≤ 65536 := by
  have low := range.start_lt_stop
  have high := range.stop_lt
  obtain ⟨start, starts, startValue⟩ := widened_spec (n := range.start) (by omega)
  simp only [Store.nextNumber, bind_eq_ok] at isNext
  obtain ⟨largest, isLargest, isNext⟩ := isNext
  simp only [nextNumber, carryOut_query, isLargest, bind_of_eq_ok (reckon_eq starts s)]
  cases largest with
  | none =>
    cases isNext
    exact ⟨start, rfl, by omega, by omega⟩
  | some number =>
    have small := number.isLt
    obtain ⟨port, isPort, portValue⟩ := word_spec (w := 16) (n := number.val) (by omega)
    obtain ⟨wide, isWide, wideValue⟩ := cast_spec (v := 32) (a := port) (by omega)
    obtain ⟨above, isAbove, aboveValue⟩ := succ_spec (a := wide) (by decide) (by omega)
    have goesOn : (do add (← cast 32 (← word 16 number.val)) 1) = .ok above := by
      simp only [isPort, isWide, isAbove, bind_ok]
    cases isNext
    refine ⟨if above < start then start else above, bind_of_eq_ok (reckon_eq goesOn s) _, ?_,
      by omega⟩
    split <;> rename_i order <;> rw [BitVec.lt_def] at order <;> omega

theorem nextNumber_eq_error {fault : Fault} (failed : s.nextNumber range = .error fault) :
    nextNumber range s = .error (.fault fault) := by
  simp only [Store.nextNumber, bind_eq_error] at failed
  rcases failed with failed | ⟨largest, -, failed⟩
  · simp only [nextNumber, carryOut_query, failed]
  · cases largest <;> cases failed

/-- A sum that is no word is above every word. -/
theorem below_iff {next more stop : BitVec 32} :
    ¬next.uaddOverflow more ∧ next + more < stop ↔ next.toNat + more.toNat < stop.toNat := by
  have small := stop.isLt
  constructor
  · rintro ⟨holds, below⟩
    rwa [BitVec.lt_def, BitVec.toNat_add_of_not_uaddOverflow holds] at below
  · intro below
    have holds : ¬next.uaddOverflow more := by
      simp only [BitVec.uaddOverflow, decide_eq_true_eq]
      omega
    refine ⟨holds, ?_⟩
    rwa [BitVec.lt_def, BitVec.toNat_add_of_not_uaddOverflow holds]

/-- The pool grows as its numbers say, or is exhausted. -/
theorem grow_eq (guarded : Guarded s) (registered : s.Registered owner) {size : BitVec 32}
    (positive : 0 < size.toNat) : grow range owner size now s =
      (s.grow range owner size.toNat now).mapError .fault := by
  have low := range.start_lt_stop
  have high := range.stop_lt
  rw [Store.grow]
  cases isNext : s.nextNumber range with
  | error fault => exact bind_of_eq_error (nextNumber_eq_error isNext) _
  | ok number =>
    obtain ⟨next, finds, nextValue, few⟩ := nextNumber_eq isNext
    obtain ⟨more, isMore, moreValue⟩ := pred_spec (a := size) (by decide) positive
    obtain ⟨stop, stops, stopValue⟩ := widened_spec (n := range.stop) (by omega)
    rw [grow, bind_of_eq_ok finds, bind_of_eq_ok (reckon_eq isMore s),
      bind_of_eq_ok (reckon_eq stops s), bind_ok]
    by_cases fits : number + size.toNat - 1 < range.stop
    · obtain ⟨holds, below⟩ := below_iff.mpr (by omega : next.toNat + more.toNat < stop.toNat)
      have lastValue := BitVec.toNat_add_of_not_uaddOverflow holds
      obtain ⟨first, isFirst, firstValue⟩ := cast_spec (v := 16) (a := next) (by omega)
      obtain ⟨last, isLast, lastValue'⟩ := cast_spec (v := 16) (a := next + more) (by omega)
      obtain ⟨rows, present, numbered, recorded⟩ := Script.atOnce_insertPorts_new isNext positive
      have starts : (number : Int) = first.toNat := by omega
      have ends : ((number + size.toNat - 1 : Nat) : Int) = last.toNat := by omega
      rw [starts, ends] at numbered recorded
      rw [if_neg holds]
      simp only [if_pos below, if_pos fits]
      rw [bind_of_eq_ok (reckon_eq isFirst s), bind_of_eq_ok (reckon_eq isLast s),
        bind_of_eq_ok (carryOut_eq recorded), ends, starts]
      rw [starts] at present
      exact insertBinding_eq (guarded.record ..) registered (by omega) present numbered
    · simp only [if_neg fits]
      split
      · rfl
      · rename_i holds
        have notBelow : ¬next + more < stop := fun below => by
          have := below_iff.mp ⟨holds, below⟩
          omega
        rw [if_neg notBelow]
        rfl

/-- The free port of a row whose number is a word. -/
def FreePort.of (r : PortRow) : FreePort := ⟨r.id, BitVec.ofNat 16 r.number.toNat⟩

theorem number_of_inRange {r : PortRow} (inRange : range.has r.number) :
    ((FreePort.of r).number.toNat : Int) = r.number := by
  have high := range.stop_lt
  simp only [PortRange.has, Bool.and_eq_true, decide_eq_true_eq] at inRange
  rw [FreePort.of, BitVec.toNat_ofNat, Nat.mod_eq_of_lt (by omega)]
  omega

/-- The free ports of a range can be read. -/
theorem mapM_read {rows : List PortRow} (inRange : ∀ r ∈ rows, range.has r.number) :
    rows.mapM FreePort.read = .ok (rows.map FreePort.of) := by
  refine mapM_of_forall fun r member => ?_
  have high := range.stop_lt
  have within := inRange r member
  simp only [PortRange.has, Bool.and_eq_true, decide_eq_true_eq] at within
  have isPort : PortNumber.ofInt? r.number = some ⟨r.number.toNat, by omega⟩ :=
    dif_pos ⟨by omega, by omega⟩
  rw [FreePort.read, isPort]
  rfl

theorem inRange_of_mem_freePorts {r : PortRow} (free : r ∈ s.freePorts range) :
    range.has r.number = true := (Store.mem_freePorts.mp free).2.1

/-- What the free ports are numbered as words is what they are numbered. -/
theorem values_freePorts {rows : List PortRow} (inRange : ∀ r ∈ rows, range.has r.number) :
    values ((rows.map FreePort.of).map (·.number)) = rows.map (·.number) := by
  rw [values, List.map_map, List.map_map]
  exact List.map_congr_left fun r member => number_of_inRange (inRange r member)

/-- Rows with the numbers of a span begin and end with it. -/
theorem ends_of_numbered {rows : List PortRow} {first last : Int} (ordered : first ≤ last)
    (numbered : rows.map (·.number) = numbersFrom first last) :
    ∃ r q, rows[0]? = some r ∧ r.number = first ∧
      rows[rows.length - 1]? = some q ∧ q.number = last := by
  have starts := congrArg List.head? numbered
  have ends := congrArg List.getLast? numbered
  rw [numbersFrom_eq_cons ordered, List.head?_cons, List.head?_map,
    Option.map_eq_some_iff] at starts
  rw [getLast?_numbersFrom ordered, List.getLast?_map, Option.map_eq_some_iff] at ends
  obtain ⟨r, isFirst, first⟩ := starts
  obtain ⟨q, isLast, last⟩ := ends
  exact ⟨r, q, List.head?_eq_getElem?.symm.trans isFirst, first,
    List.getLast?_eq_getElem?.symm.trans isLast, last⟩

/-- A window is bound as the span of its rows. -/
theorem bindWindow_eq (guarded : Guarded s) (registered : s.Registered owner)
    {rows : List PortRow} {first last : Int} (ordered : first ≤ last)
    (free : ∀ r ∈ rows, r ∈ s.freePorts range) (few : rows.length < 2 ^ 64)
    (numbered : rows.map (·.number) = numbersFrom first last) :
    bindWindow owner (rows.map FreePort.of) now s =
      (s.bind owner first last now).mapError .fault := by
  obtain ⟨r, q, isFirst, firstNumber, isLast, lastNumber⟩ := ends_of_numbered ordered numbered
  have begins : entry (rows.map FreePort.of) 0 = .ok (.of r) := by
    refine entry_eq ?_
    show (rows.map FreePort.of)[0]? = _
    rw [List.getElem?_map, isFirst, Option.map_some]
  have ends : lastEntry (rows.map FreePort.of) = .ok (.of q) := by
    refine lastEntry_eq ?_ (by rwa [List.length_map])
    rw [List.length_map, List.getElem?_map, isLast, Option.map_some]
  have ids : (rows.map FreePort.of).map (·.id) = rows.map (·.id) := by
    rw [List.map_map]
    rfl
  have firstWord : first = (FreePort.of r).number.toNat := firstNumber ▸
    (number_of_inRange (inRange_of_mem_freePorts (free r (List.mem_of_getElem? isFirst)))).symm
  have lastWord : last = (FreePort.of q).number.toNat := lastNumber ▸
    (number_of_inRange (inRange_of_mem_freePorts (free q (List.mem_of_getElem? isLast)))).symm
  rw [bindWindow, bind_of_eq_ok (reckon_eq begins s), bind_of_eq_ok (reckon_eq ends s), ids]
  rw [firstWord, lastWord] at numbered ⊢
  refine insertBinding_eq guarded registered (by omega) (fun p member => ?_) numbered
  have free := Store.mem_freePorts.mp (free p member)
  exact ⟨free.1, free.2.2⟩

theorem freeWords_ascending (s : Store) (range : PortRange) :
    (((s.freePorts range).map FreePort.of).map (·.number)).Pairwise (· < ·) := by
  have ascending := Store.freeNumbers_ascending s range
  rw [← values_freePorts fun _ => inRange_of_mem_freePorts, values, List.pairwise_map] at ascending
  exact ascending.imp fun less => BitVec.lt_def.mpr (by omega)

theorem length_freePorts_le (s : Store) (range : PortRange) :
    (s.freePorts range).length ≤ 65536 := by
  have few := length_le_of_ascending (freeWords_ascending s range) 0 (fun _ _ => Nat.zero_le _)
    (by decide)
  simpa only [List.length_map, Nat.sub_zero] using few

/-- The window that is found is cut out of the free ports, and bound as a span. -/
theorem windowAt_bound (guarded : Guarded s) (registered : s.Registered owner)
    {size : BitVec 32} {offset : BitVec 64} {first : Int}
    (numbered : (((s.freePorts range).drop offset.toNat).take size.toNat).map (·.number) =
      numbersFrom first (first + size.toNat - 1))
    (positive : 0 < size.toNat) :
    ∃ window, windowAt ((s.freePorts range).map FreePort.of) offset size = .ok window ∧
      bindWindow owner window now s =
        (s.bind owner first (first + size.toNat - 1) now).mapError .fault := by
  generalize isWindow : ((s.freePorts range).drop offset.toNat).take size.toNat = rows at numbered
  have few := length_freePorts_le s range
  have many : rows.length = size.toNat := by
    rw [← List.length_map (f := (·.number)), numbered, length_numbersFrom]
    omega
  have within : offset.toNat + size.toNat ≤ (s.freePorts range).length := by
    rw [← isWindow, List.length_take, List.length_drop] at many
    omega
  refine ⟨rows.map FreePort.of, ?_, ?_⟩
  · rw [windowAt_eq (by rwa [List.length_map]) (by rw [List.length_map]; omega),
      ← List.map_drop, ← List.map_take, isWindow]
  · have free : ∀ r ∈ rows, r ∈ s.freePorts range := by
      rw [← isWindow]
      exact fun r member => List.mem_of_mem_drop (List.mem_of_mem_take member)
    exact bindWindow_eq guarded registered (by omega) free (by omega) numbered

/-- **A span is reserved as its numbers say**, whatever its size. -/
theorem reserveSpan_eq (guarded : Guarded s) (size : BitVec 32) :
    reserveSpan range owner size now s =
      (s.reserveSpan range owner size.toNat now).mapError .fault := by
  rw [reserveSpan, Store.reserveSpan]
  by_cases zero : size = 0
  · subst zero
    rfl
  have positive : 0 < size.toNat :=
    Nat.pos_of_ne_zero fun none => zero (BitVec.toNat_inj.mp none)
  rw [if_neg zero, if_neg (Nat.ne_of_gt positive), carryOut_query]
  cases found : s.getInstance owner with
  | error fault => rfl
  | ok i =>
    have registered : s.Registered owner := Store.Recalls.registered ⟨i, found⟩
    have read : freePorts range none s = .ok ((s.freePorts range).map FreePort.of, s) :=
      carryOut_eq (by
        rw [Script.atOnce_query, mapM_read fun _ => inRange_of_mem_freePorts, map_ok])
    obtain ⟨position, finds, same⟩ := findWindow_eq (freeWords_ascending s range) size
    rw [values_freePorts fun _ => inRange_of_mem_freePorts] at same
    simp only [bind_ok]
    rw [bind_of_eq_ok read, bind_of_eq_ok (reckon_eq finds s)]
    cases position with
    | none =>
      have noWindow : findWindowStart ((s.freePorts range).map (·.number)) size.toNat = none := by
        rw [findWindowStart, ← same]
        rfl
      simp only [noWindow]
      exact grow_eq guarded registered positive
    | some offset =>
      obtain ⟨first, starts, numbered⟩ := Script.exists_span_of_findWindow same.symm
      obtain ⟨window, isWindow, bound⟩ := windowAt_bound guarded registered numbered positive
      simp only [starts]
      rw [bind_of_eq_ok (reckon_eq isWindow s), bound,
        show first + ((size.toNat - 1 : Nat) : Int) = first + size.toNat - 1 by omega]

/-- One port is reserved as the numbers say. -/
theorem reserveOne_eq (guarded : Guarded s) :
    reserveOne range owner now s = (s.reserveOne range owner now).mapError .fault := by
  rw [reserveOne, Store.reserveOne, carryOut_query]
  cases found : s.getInstance owner with
  | error fault => rfl
  | ok i =>
    have registered : s.Registered owner := Store.Recalls.registered ⟨i, found⟩
    have read : freePorts range (some 1) s =
        .ok (((s.freePorts range).take 1).map FreePort.of, s) :=
      carryOut_eq (by
        rw [Script.atOnce_query, mapM_read fun r member =>
          inRange_of_mem_freePorts (List.mem_of_mem_take member), map_ok])
    simp only [bind_ok]
    rw [bind_of_eq_ok read]
    cases free : s.freePorts range with
    | nil => exact grow_eq guarded registered Nat.one_pos
    | cons r others =>
      have isFree : r ∈ s.freePorts range := free ▸ List.mem_cons_self
      have word := number_of_inRange (inRange_of_mem_freePorts isFree)
      have present := Store.mem_freePorts.mp isFree
      have single : [r].map (·.number) = numbersFrom (FreePort.of r).number.toNat
          (FreePort.of r).number.toNat := by
        rw [numbersFrom_self, word]
        rfl
      have bound : insertBinding owner (FreePort.of r).number (FreePort.of r).number
          ([r].map (·.id)) now s = _ :=
        insertBinding_eq guarded registered (Nat.le_refl _)
          (fun q member => List.mem_singleton.mp member ▸ ⟨present.1, present.2.2⟩) single
      rw [word] at bound
      exact bound

/-- As many ports are reserved as a signed word asks for, or none. -/
theorem reserve_eq (guarded : Guarded s) (size : Option (BitVec 64)) :
    reserve range owner size now s =
      (s.reserve range owner (size.map BitVec.toInt) now).mapError .fault := by
  cases size with
  | none => exact reserveOne_eq guarded
  | some n =>
    simp only [reserve, Store.reserve, Option.map_some]
    split
    · exact reserveOne_eq guarded
    split
    · rfl
    split
    · rfl
    · rename_i notOne notLess notLarge
      have value : (n.toNat : Int) = n.toInt := by
        rw [BitVec.toInt_eq_toNat_cond] at notLess ⊢
        have := n.isLt
        split at notLess <;> omega
      have bound : (UInt32.size : Int) = 4294967296 := rfl
      obtain ⟨narrow, isNarrow, narrowValue⟩ := cast_spec (v := 32) (a := n) (by omega)
      rw [bind_of_eq_ok (reckon_eq isNarrow s), reserveSpan_eq guarded,
        show narrow.toNat = n.toInt.toNat by omega]

end Exact

end Words

namespace Store

variable {s t : Store} {range : PortRange} {owner : String} {now : Time.Instant}

/-- The ports of a span that is granted are in the range. -/
theorem inBounds_of_reserveSpan {size : Nat} {b : Binding}
    (granted : s.reserveSpan range owner size now = .ok (b, t)) :
    range.start ≤ b.first.val ∧ b.first.val ≤ b.last.val ∧ b.last.val < range.stop := by
  obtain ⟨u, prepared, bound⟩ := reserveSpan_bound granted
  obtain ⟨ordered, -⟩ := bind_eq_ok_iff.mp bound
  have starts := prepared.inRange _ (Int.le_refl _) ordered
  have ends := prepared.inRange _ ordered (Int.le_refl _)
  simp only [PortRange.has, Bool.and_eq_true, decide_eq_true_eq] at starts ends
  omega

end Store

/-- What reserving with machine words comes to: no step slips, whatever is asked for. -/
structure ExactLaw (s : Store) (range : PortRange) (owner : String) (now : Time.Instant) :
    Prop where
  /-- The outcome is that of the store, for every size that is a signed word of 64 bits. -/
  reserve : ∀ size : Option (BitVec 64), Words.reserve range owner size now s =
    (s.reserve range owner (size.map BitVec.toInt) now).mapError .fault
  reserveSpan : ∀ size : BitVec 32, Words.reserveSpan range owner size now s =
    (s.reserveSpan range owner size.toNat now).mapError .fault
  reserveOne : Words.reserveOne range owner now s =
    (s.reserveOne range owner now).mapError .fault
  /-- No outcome is a slip. -/
  unslipped : ∀ slip, (∀ size, Words.reserve range owner size now s ≠ .error (.slip slip)) ∧
    (∀ size, Words.reserveSpan range owner size now s ≠ .error (.slip slip)) ∧
    Words.reserveOne range owner now s ≠ .error (.slip slip)
  /-- What is granted is a span of usable ports. -/
  span : ∀ {b t}, ((∃ size, Words.reserve range owner size now s = .ok (b, t)) ∨
      (∃ size, Words.reserveSpan range owner size now s = .ok (b, t)) ∨
      Words.reserveOne range owner now s = .ok (b, t)) →
    1 ≤ b.first.val ∧ b.first.val ≤ b.last.val ∧ b.last.val ≤ 65534

theorem mapError_ne_slip {α : Type} (x : Except Fault α) (slip : Slip) :
    x.mapError Halt.fault ≠ .error (.slip slip) := by
  cases x <;> simp [Except.mapError]

theorem eq_ok_of_mapError {α : Type} {x : Except Fault α} {a : α}
    (done : x.mapError Halt.fault = .ok a) : x = .ok a := by
  cases x with
  | ok b => exact congrArg Except.ok (Except.ok.inj done)
  | error fault => cases done

theorem exactLaw {s : Store} (guarded : Guarded s) (range : PortRange) (owner : String)
    (now : Time.Instant) : ExactLaw s range owner now where
  reserve := Words.reserve_eq guarded
  reserveSpan := Words.reserveSpan_eq guarded
  reserveOne := Words.reserveOne_eq guarded
  unslipped slip := by
    refine ⟨fun size => ?_, fun size => ?_, ?_⟩
    · exact Words.reserve_eq guarded size ▸ mapError_ne_slip _ slip
    · exact Words.reserveSpan_eq guarded size ▸ mapError_ne_slip _ slip
    · exact Words.reserveOne_eq guarded ▸ mapError_ne_slip _ slip
  span {b t} granted := by
    have low := range.start_pos
    have high := range.stop_lt
    obtain ⟨size, granted⟩ : ∃ size, s.reserveSpan range owner size now = .ok (b, t) := by
      rcases granted with ⟨size, granted⟩ | ⟨size, granted⟩ | granted
      · rw [Words.reserve_eq guarded] at granted
        exact Store.reserve_inversion (eq_ok_of_mapError granted)
      · rw [Words.reserveSpan_eq guarded] at granted
        exact ⟨size.toNat, eq_ok_of_mapError granted⟩
      · rw [Words.reserveOne_eq guarded, Store.reserveOne_eq_reserveSpan] at granted
        exact ⟨1, eq_ok_of_mapError granted⟩
    have within := Store.inBounds_of_reserveSpan granted
    omega

/-- **Reserving with machine words is exact**: on a store that anyone wrote rows of, under
every range, for everyone and for every size. -/
theorem reserve_exact (deeds : List Deed) (range : PortRange) (owner : String)
    (now : Time.Instant) : ExactLaw (Store.empty.upon deeds) range owner now :=
  exactLaw (Guarded.empty.upon deeds).1 range owner now

end PortPool
