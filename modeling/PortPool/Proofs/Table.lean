/-
# PortPool.Proofs.Table -- what the table of ports holds

The table is a list in ascending order, so what it holds is known once its rows
are known: a row is found by its number (`find?_eq_some`), the last one has the
largest number (`largest?_eq_some`), and two tables with the same rows are the
same (`ext_mem`).

Filling is described by the rows that it adds (`mem_fill`): one for each number of
the interval that has none, with no holders and the id counted for its number.
Above everything known they simply follow the rows that are there (`fill_above`).
-/
import Mathlib.Data.List.Pairwise
import PortPool.Store.Table

namespace PortPool

set_option autoImplicit false

/-- The only entry that satisfies a test is the one that is found. -/
theorem find?_of_unique {α : Type} {p : α → Bool} {l : List α} {a : α} (member : a ∈ l)
    (passes : p a = true) (unique : ∀ b ∈ l, p b = true → b = a) : l.find? p = some a := by
  cases found : l.find? p with
  | none => exact absurd passes (List.find?_eq_none.mp found a member)
  | some b =>
    rw [unique b (List.mem_of_find?_eq_some found) (List.find?_some found)]

/-! ## Rows that are added -/

theorem mem_freshRows {id : Nat} {number : Int} {count : Nat} {r : PortRow} :
    r ∈ freshRows id number count ↔
      number ≤ r.number ∧ r.number < number + count ∧ r.holders = [] ∧
        (r.id : Int) = id + (r.number - number) := by
  simp only [freshRows, List.mem_map, List.mem_range]
  constructor
  · rintro ⟨i, below, rfl⟩
    simp only [true_and]
    omega
  · rintro ⟨low, high, free, counted⟩
    refine ⟨(r.number - number).toNat, by omega, ?_⟩
    obtain ⟨rid, rnumber, rholders⟩ := r
    simp only [PortRow.mk.injEq] at low high free counted ⊢
    exact ⟨by omega, by omega, free.symm⟩

theorem length_freshRows (id : Nat) (number : Int) (count : Nat) :
    (freshRows id number count).length = count := by
  simp [freshRows]

/-- A row that filling adds: its number is wanted and has no row among `rows`. -/
def IsAdded (id : Nat) (number stop : Int) (rows : List PortRow) (r : PortRow) : Prop :=
  number ≤ r.number ∧ r.number < stop ∧ r.holders = [] ∧
    (r.id : Int) = id + (r.number - number) ∧ ∀ q ∈ rows, q.number ≠ r.number

theorem mem_fillRows {r : PortRow} {rows : List PortRow} (sorted : Ascending rows) :
    ∀ {before : List PortRow} {id : Nat} {number stop : Int},
      r ∈ fillRows before id number stop rows ↔
        r ∈ before ∨ r ∈ rows ∨ IsAdded id number stop rows r := by
  induction rows with
  | nil =>
    intro before id number stop
    simp only [fillRows, IsAdded, List.mem_append, List.mem_reverse, mem_freshRows,
      List.not_mem_nil, false_or, false_implies, implies_true, and_true]
    constructor <;> rintro (h | ⟨low, high, free, counted⟩)
    · exact .inl h
    · exact .inr ⟨low, by omega, free, counted⟩
    · exact .inl h
    · exact .inr ⟨low, by omega, free, counted⟩
  | cons q rows ih =>
    intro before id number stop
    obtain ⟨above, sortedRows⟩ := List.pairwise_cons.mp sorted
    simp only [fillRows]
    split
    · rename_i passed
      rw [ih sortedRows]
      simp only [IsAdded, List.mem_cons, forall_eq_or_imp]
      constructor
      · rintro ((rfl | h) | h | ⟨low, high, free, counted, absent⟩)
        · exact .inr (.inl (.inl rfl))
        · exact .inl h
        · exact .inr (.inl (.inr h))
        · exact .inr (.inr ⟨low, high, free, counted, by omega, absent⟩)
      · rintro (h | (rfl | h) | ⟨low, high, free, counted, -, absent⟩)
        · exact .inl (.inr h)
        · exact .inl (.inl rfl)
        · exact .inr (.inl h)
        · exact .inr (.inr ⟨low, high, free, counted, absent⟩)
    · rename_i notPassed
      split
      · rename_i beyond
        simp only [IsAdded, List.mem_append, List.mem_reverse, List.mem_cons, mem_freshRows,
          forall_eq_or_imp]
        constructor
        · rintro (h | ⟨low, high, free, counted⟩ | h)
          · exact .inl h
          · refine .inr (.inr ⟨low, by omega, free, counted, by omega, fun p mp => ?_⟩)
            have := above p mp
            omega
          · exact .inr (.inl h)
        · rintro (h | h | ⟨low, high, free, counted, -, -⟩)
          · exact .inl h
          · exact .inr (.inr h)
          · exact .inr (.inl ⟨low, by omega, free, counted⟩)
      · rename_i notBeyond
        rw [ih sortedRows]
        simp only [IsAdded, List.mem_append, List.mem_reverse, List.mem_cons, mem_freshRows,
          forall_eq_or_imp]
        constructor
        · rintro ((rfl | ⟨low, high, free, counted⟩ | h) | h | ⟨low, high, free, counted, absent⟩)
          · exact .inr (.inl (.inl rfl))
          · refine .inr (.inr ⟨low, by omega, free, counted, by omega, fun p mp => ?_⟩)
            have := above p mp
            omega
          · exact .inl h
          · exact .inr (.inl (.inr h))
          · exact .inr (.inr ⟨by omega, high, free, by omega, by omega, absent⟩)
        · rintro (h | (rfl | h) | ⟨low, high, free, counted, other, absent⟩)
          · exact .inl (.inr (.inr h))
          · exact .inl (.inl rfl)
          · exact .inr (.inl h)
          -- a new row lies below `q`, among the rows put before it, or above
          · rcases Int.lt_or_le r.number q.number with lower | higher
            · exact .inl (.inr (.inl ⟨low, by omega, free, counted⟩))
            · exact .inr (.inr ⟨by omega, high, free, by omega, absent⟩)

theorem fillRows_above {rows : List PortRow} :
    ∀ {before : List PortRow} {id : Nat} {number stop : Int},
      (∀ r ∈ rows, r.number < number) →
        fillRows before id number stop rows =
          before.reverse ++ rows ++ freshRows id number (stop - number).toNat := by
  induction rows with
  | nil =>
    intro before id number stop _
    simp [fillRows]
  | cons r rows ih =>
    intro before id number stop below
    rw [fillRows, if_pos (below r List.mem_cons_self),
      ih fun p mp => below p (List.mem_cons_of_mem _ mp)]
    simp

/-- Lists in strictly ascending order with the same members are equal. -/
theorem eq_of_ascending {α : Type} (key : α → Int) {l k : List α}
    (sorted : l.Pairwise fun a b => key a < key b)
    (sortedToo : k.Pairwise fun a b => key a < key b) (same : ∀ a, a ∈ l ↔ a ∈ k) : l = k := by
  have nodup {m : List α} (sorted : m.Pairwise fun a b => key a < key b) : m.Nodup :=
    sorted.imp fun h e => by rw [e] at h; omega
  have perm : l.Perm k := (List.perm_ext_iff_of_nodup (nodup sorted) (nodup sortedToo)).mpr same
  exact perm.eq_of_pairwise (fun a b _ _ h k => by omega) sorted sortedToo

namespace PortTable

variable {t u : PortTable} {r q : PortRow}

/-! ## Finding rows -/

theorem eq_of_number_eq (mr : r ∈ t.rows) (mq : q ∈ t.rows) (same : r.number = q.number) :
    r = q := by
  have apart : t.rows.Pairwise fun a b => a.number ≠ b.number := t.ascending.imp fun h => by omega
  have : Std.Symm fun a b : PortRow => a.number ≠ b.number := ⟨fun _ _ h => h.symm⟩
  by_contra different
  exact apart.forall mr mq different same

theorem find?_eq_some {number : Int} :
    t.find? number = some r ↔ r ∈ t.rows ∧ r.number = number := by
  constructor
  · intro found
    exact ⟨List.mem_of_find?_eq_some found, by simpa using List.find?_some found⟩
  · rintro ⟨member, rfl⟩
    cases found : t.find? r.number with
    | none =>
      have := List.find?_eq_none.mp found r member
      simp at this
    | some q =>
      have same : q.number = r.number := by simpa using List.find?_some found
      rw [eq_of_number_eq (List.mem_of_find?_eq_some found) member same]

theorem find?_eq_none {number : Int} :
    t.find? number = none ↔ ∀ r ∈ t.rows, r.number ≠ number := by
  simp [find?]

theorem isSome_find? {number : Int} :
    (t.find? number).isSome ↔ ∃ r ∈ t.rows, r.number = number := by
  simp only [Option.isSome_iff_exists, find?_eq_some]

theorem largest?_eq_none : t.largest? = none ↔ t.rows = [] := by
  simp [largest?]

theorem largest?_eq_some {number : Int} (largest : t.largest? = some number) :
    (∃ r ∈ t.rows, r.number = number) ∧ ∀ r ∈ t.rows, r.number ≤ number := by
  simp only [largest?, Option.map_eq_some_iff] at largest
  obtain ⟨last, isLast, rfl⟩ := largest
  obtain ⟨before, rows⟩ := List.getLast?_eq_some_iff.mp isLast
  refine ⟨⟨last, List.mem_of_getLast? isLast, rfl⟩, fun r member => ?_⟩
  have sorted := t.ascending
  simp only [rows, Ascending, List.pairwise_append, List.mem_singleton, forall_eq] at sorted
  rw [rows, List.mem_append, List.mem_singleton] at member
  rcases member with earlier | rfl
  · exact Int.le_of_lt (sorted.2.2 r earlier)
  · exact Int.le_refl _

/-! ## Equal tables -/

theorem ext_mem (same : ∀ r, r ∈ t.rows ↔ r ∈ u.rows) : t = u := by
  obtain ⟨rows, sorted⟩ := t
  obtain ⟨others, sortedOthers⟩ := u
  have equal : rows = others := eq_of_ascending (·.number) sorted sortedOthers same
  subst equal
  rfl

/-! ## Changed tables -/

theorem mem_fill {id : Nat} {number : Int} {count : Nat} :
    r ∈ (t.fill id number count).rows ↔
      r ∈ t.rows ∨ IsAdded id number (number + count) t.rows r := by
  simp [fill, mem_fillRows t.ascending]

/-- The ids of the rows that are added are those counted for them. -/
theorem id_lt_of_mem_fill {id : Nat} {number : Int} {count : Nat}
    (counted : ∀ r ∈ t.rows, r.id < id) (member : r ∈ (t.fill id number count).rows) :
    r.id < id + count := by
  rcases mem_fill.mp member with old | ⟨low, high, -, given, -⟩
  · have := counted r old
    omega
  · omega

/-- If every id was given once, and below those that are counted, it still was. -/
theorem eq_of_mem_fill {id : Nat} {number : Int} {count : Nat}
    (counted : ∀ r ∈ t.rows, r.id < id) (unique : ∀ r ∈ t.rows, ∀ q ∈ t.rows, r.id = q.id → r = q)
    (mr : r ∈ (t.fill id number count).rows) (mq : q ∈ (t.fill id number count).rows)
    (same : r.id = q.id) : r = q := by
  rcases mem_fill.mp mr with oldR | ⟨_, _, _, givenR, _⟩ <;>
    rcases mem_fill.mp mq with oldQ | ⟨_, _, _, givenQ, _⟩
  · exact unique r oldR q oldQ same
  · have := counted r oldR
    omega
  · have := counted q oldQ
    omega
  · exact eq_of_number_eq mr mq (by omega)

theorem fill_above {id : Nat} {number : Int} {count : Nat}
    (below : ∀ r ∈ t.rows, r.number < number) :
    (t.fill id number count).rows = t.rows ++ freshRows id number count := by
  have width : (number + (count : Int) - number).toNat = count := by omega
  show fillRows [] id number (number + count) t.rows = _
  rw [fillRows_above below, width, List.reverse_nil, List.nil_append]

theorem mem_mapHolders {f : PortRow → List Nat} :
    r ∈ (t.mapHolders f).rows ↔ ∃ q ∈ t.rows, { q with holders := f q } = r := by
  simp [mapHolders]

end PortTable

end PortPool
