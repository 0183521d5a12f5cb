/-
# PortPool.Store.Table -- the rows of the store

The store remembers four things: the instances that joined, the ports it knows,
the bindings, and which bindings a port belongs or belonged to.  The last is
kept with each port, as its holders.

Instants and descriptions are stored as text and numbers without bounds, because
rows may also be written by someone else than the service; what such a row says
is found out when it is read (`Store.Read`).

Ports are kept in ascending order of their numbers, which is also why no number
has two rows (`PortTable`).  Bindings are kept with the latest first.
-/
import PortPool.Ports

namespace PortPool

set_option autoImplicit false

/-- A registered instance, as stored. -/
structure InstanceRow where
  id : Option String
  name : String
  description : String
  joinedAt : String
deriving DecidableEq, Repr

/-- A port, as stored, with the bindings linked to it, latest first. -/
structure PortRow where
  id : Nat
  number : Int
  holders : List Nat
deriving DecidableEq, Repr

/-- A binding, as stored. -/
structure BindingRow where
  id : Nat
  owner : String
  first : Int
  last : Int
  reservedAt : String
  releasedAt : Option String
deriving DecidableEq, Repr

/-- The binding was not released. -/
def BindingRow.isActive (b : BindingRow) : Bool := b.releasedAt.isNone

/-! ## Ports -/

/-- Rows stand in ascending order of their numbers. -/
abbrev Ascending (rows : List PortRow) : Prop :=
  rows.Pairwise fun a b => a.number < b.number

/-- New rows for consecutive numbers, with consecutive ids. -/
def freshRows (id : Nat) (number : Int) (count : Nat) : List PortRow :=
  (List.range count).map fun i => ⟨id + i, number + i, []⟩

/-- The rows with every number from `number` on and below `stop` among them.  The
id of a number is the one counted for it, whether its row is new or was there;
`before` are the rows already passed, latest first. -/
def fillRows (before : List PortRow) (id : Nat) (number stop : Int) :
    List PortRow → List PortRow
  | [] => before.reverse ++ freshRows id number (stop - number).toNat
  | r :: rows =>
    if r.number < number then fillRows (r :: before) id number stop rows
    else if stop ≤ r.number then
      before.reverse ++ (freshRows id number (stop - number).toNat ++ r :: rows)
    else
      fillRows (r :: ((freshRows id number (r.number - number).toNat).reverse ++ before))
        (id + (r.number + 1 - number).toNat) (r.number + 1) stop rows

theorem number_of_mem_freshRows {id : Nat} {number : Int} {count : Nat} {r : PortRow}
    (member : r ∈ freshRows id number count) : number ≤ r.number ∧ r.number < number + count := by
  simp only [freshRows, List.mem_map, List.mem_range] at member
  obtain ⟨i, below, rfl⟩ := member
  simp only
  omega

theorem freshRows_ascending (id : Nat) (number : Int) (count : Nat) :
    Ascending (freshRows id number count) := by
  simp only [Ascending, freshRows, List.pairwise_map]
  exact List.pairwise_lt_range.imp fun h => by omega

/-- Fresh rows stand in order between rows with lower numbers and rows with higher ones. -/
theorem ascending_insert {before rows : List PortRow} {id : Nat} {number : Int} {count : Nat}
    (sorted : Ascending (before ++ rows)) (below : ∀ a ∈ before, a.number < number)
    (above : ∀ b ∈ rows, number + count ≤ b.number) :
    Ascending (before ++ (freshRows id number count ++ rows)) := by
  simp only [Ascending, List.pairwise_append] at sorted ⊢
  obtain ⟨sortedBefore, sortedRows, cross⟩ := sorted
  refine ⟨sortedBefore, ⟨freshRows_ascending .., sortedRows, ?_⟩, ?_⟩
  · intro a fresh b mb
    have := number_of_mem_freshRows fresh
    have := above b mb
    omega
  · intro a ma b mb
    rcases List.mem_append.mp mb with fresh | old
    · have := below a ma
      have := number_of_mem_freshRows fresh
      omega
    · exact cross a ma b old

theorem fillRows_ascending {rows : List PortRow} :
    ∀ {before : List PortRow} {id : Nat} {number stop : Int},
      Ascending (before.reverse ++ rows) → (∀ r ∈ before, r.number < number) →
        Ascending (fillRows before id number stop rows) := by
  induction rows with
  | nil =>
    intro before id number stop sorted below
    have filled : Ascending (before.reverse ++ (freshRows id number (stop - number).toNat ++ [])) :=
      ascending_insert sorted (fun a ma => below a (List.mem_reverse.mp ma)) (by simp)
    simpa only [fillRows, List.append_nil] using filled
  | cons r rows ih =>
    intro before id number stop sorted below
    have belowReversed : ∀ a ∈ before.reverse, a.number < number :=
      fun a ma => below a (List.mem_reverse.mp ma)
    have above {bound : Int} (low : bound ≤ r.number) : ∀ b ∈ r :: rows, bound ≤ b.number := by
      have later := (List.pairwise_cons.mp (List.pairwise_append.mp sorted).2.1).1
      intro b mb
      rcases List.mem_cons.mp mb with rfl | mb
      · exact low
      · have := later b mb
        omega
    simp only [fillRows]
    split
    · rename_i passed
      apply ih
      · simpa only [List.reverse_cons, List.append_assoc, List.singleton_append] using sorted
      · intro a ma
        rcases List.mem_cons.mp ma with rfl | ma
        · exact passed
        · exact below a ma
    · rename_i notPassed
      split
      · rename_i beyond
        exact ascending_insert sorted belowReversed (above (by omega))
      · apply ih
        · have filled : Ascending (before.reverse ++
              (freshRows id number (r.number - number).toNat ++ r :: rows)) :=
            ascending_insert sorted belowReversed (above (by omega))
          simpa only [List.reverse_cons, List.reverse_append, List.reverse_reverse,
            List.append_assoc, List.singleton_append] using filled
        · intro a ma
          simp only [List.mem_cons, List.mem_append, List.mem_reverse] at ma
          rcases ma with rfl | ma | ma
          · omega
          · have := number_of_mem_freshRows ma
            omega
          · have := below a ma
            omega

/-- The ports that the store knows, in ascending order of their numbers. -/
structure PortTable where
  rows : List PortRow
  ascending : Ascending rows
deriving DecidableEq, Repr

namespace PortTable

/-- No ports. -/
def empty : PortTable := ⟨[], List.Pairwise.nil⟩

/-- The row of a number. -/
def find? (t : PortTable) (number : Int) : Option PortRow :=
  t.rows.find? fun r => r.number == number

/-- The row of an id. -/
def findId? (t : PortTable) (id : Int) : Option PortRow :=
  t.rows.find? fun r => (r.id : Int) == id

/-- The largest number. -/
def largest? (t : PortTable) : Option Int := t.rows.getLast?.map (·.number)

/-- The table with a row for each of `count` numbers from `number` on, their ids
counted from `id`. -/
def fill (t : PortTable) (id : Nat) (number : Int) (count : Nat) : PortTable :=
  ⟨fillRows [] id number (number + count) t.rows,
    fillRows_ascending (by simpa using t.ascending) (by simp)⟩

/-- The table with the holders of some rows changed. -/
def mapHolders (t : PortTable) (f : PortRow → List Nat) : PortTable :=
  ⟨t.rows.map fun r => { r with holders := f r },
    by simpa only [Ascending, List.pairwise_map] using t.ascending⟩

end PortTable

/-! ## The store -/

/-- Everything that the service remembers.  The ids of ports and of bindings are
counted up and never given twice. -/
structure Store where
  instances : List InstanceRow := []
  ports : PortTable := PortTable.empty
  bindings : List BindingRow := []
  nextPort : Nat := 1
  nextBinding : Nat := 1
deriving DecidableEq, Repr

namespace Store

/-- The store of a service that has just been set up. -/
def empty : Store := {}

/-- A binding of this id is active. -/
def isActive (s : Store) (binding : Nat) : Bool :=
  s.bindings.any fun b => b.id == binding && b.isActive

/-- The port belongs to an active binding. -/
def isReserved (s : Store) (r : PortRow) : Bool := r.holders.any s.isActive

/-- The ports that belong to no active binding, of those in a range. -/
def freePorts (s : Store) (range : PortRange) : List PortRow :=
  s.ports.rows.filter fun r => range.has r.number && !s.isReserved r

/-- The store with a port for each of `count` numbers from `number` on.  Each of
them uses up an id, also one that was known. -/
def fillPorts (s : Store) (number : Int) (count : Nat) : Store :=
  { s with ports := s.ports.fill s.nextPort number count, nextPort := s.nextPort + count }

end Store

end PortPool
