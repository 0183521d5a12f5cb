/-
# PortPool.Proofs.Lookup -- the binding that a release finds

A release looks for a binding in one of two ways: behind a port, by the links of its row
(`Store.bindingOf?`), or by an exact span, by the rows of the bindings (`Store.spanning?`).
Neither look-up asks for the only match.  The first takes whatever active binding comes
first, the second prefers an active one and otherwise takes the latest.

In a sound store that makes no difference.  Links and spans agree (`Sound.mem_holders`), and
the spans of two active bindings do not meet (`Sound.eq_of_meets`).  So at most one active
binding matches, and it is the one that is found (`Store.bindingOf?_eq_some`,
`Store.spanning?_of_active`).
-/
import PortPool.Proofs.Effect

namespace PortPool

set_option autoImplicit false

open Time.Rfc3339 (stored)

/-- The binding is active and has this number. -/
def BindingRow.Takes (b : BindingRow) (n : Int) : Prop := b.isActive ∧ b.first ≤ n ∧ n ≤ b.last

/-- No other active binding has a number of the span. -/
theorem Sound.eq_of_meets {s : Store} (sound : Sound s) {row c : BindingRow}
    (present : row ∈ s.bindings) (active : row.isActive) (mc : c ∈ s.bindings)
    (activeToo : c.isActive) {n : Int} (low : row.first ≤ n) (high : n ≤ row.last)
    (lowToo : c.first ≤ n) (highToo : n ≤ c.last) : c = row := by
  by_contra different
  have := sound.apart_of_ne mc present activeToo active different
  omega

namespace Store

variable {s : Store} {named : Option String} {now : Time.Instant}

/-! ## Behind a port -/

/-- The row of a port can be read. -/
theorem readPort_of_number {r : PortRow} {n : PortNumber} (same : r.number = n.val) :
    s.readPort r = .ok ⟨r.id, n, s.isReserved r⟩ := by
  rw [readPort, same, PortNumber.ofInt?_val]
  rfl

theorem bindingOf?_eq_some (sound : Sound s) {r : PortRow} (known : r ∈ s.ports.rows)
    {row : BindingRow} : s.bindingOf? named r = some row ↔
      row ∈ s.bindings ∧ row.Takes r.number ∧ row.AnswersTo named := by
  have matching {b : BindingRow} (mb : b ∈ s.bindings) :
      (r.holders.contains b.id && b.isActive && ownedBy named b) = true ↔
        b.Takes r.number ∧ b.AnswersTo named := by
    rw [Bool.and_eq_true, Bool.and_eq_true, List.contains_iff_mem, sound.mem_holders known mb,
      ownedBy_iff, BindingRow.Takes, and_comm (a := b.first ≤ r.number ∧ r.number ≤ b.last)]
    rfl
  rw [bindingOf?]
  constructor
  · intro found
    have present := List.mem_of_find?_eq_some found
    have passes := List.find?_some found
    exact ⟨present, (matching present).mp passes⟩
  · rintro ⟨present, takes, answers⟩
    refine find?_of_unique present ((matching present).mpr ⟨takes, answers⟩) fun c mc passes => ?_
    obtain ⟨⟨active, low, high⟩, -⟩ := (matching mc).mp passes
    exact sound.eq_of_meets present takes.1 mc active takes.2.1 takes.2.2 low high

theorem bindingOf?_eq_none (sound : Sound s) {r : PortRow} (known : r ∈ s.ports.rows) :
    s.bindingOf? named r = none ↔
      ∀ row ∈ s.bindings, row.Takes r.number → ¬row.AnswersTo named := by
  rw [← Option.not_isSome_iff_eq_none, Option.isSome_iff_exists]
  simp only [bindingOf?_eq_some sound known, not_exists, not_and]

/-! ## By a span -/

section Spanning

variable {first last : Int} {row : BindingRow}

theorem spanning?_eq_none : s.spanning? named first last = none ↔
    ∀ row ∈ s.bindings, ¬row.Spans named first last := by
  rw [spanning?, Option.orElse_eq_orElse, Option.orElse_eq_or, Option.or_eq_none_iff,
    List.head?_eq_none_iff, List.eq_nil_iff_forall_not_mem]
  simp only [mem_spanning, not_and]
  refine and_iff_right_of_imp fun none => List.find?_eq_none.mpr fun row among => ?_
  obtain ⟨present, spans⟩ := mem_spanning.mp among
  exact absurd spans (none row present)

theorem spanning?_of_active (sound : Sound s) (present : row ∈ s.bindings)
    (active : row.isActive) (spans : row.Spans named first last) :
    s.spanning? named first last = some row := by
  cases chosen : s.spanning? named first last with
  | none => exact absurd spans (spanning?_eq_none.mp chosen row present)
  | some other =>
    obtain ⟨among, spansToo, preferred⟩ := of_spanning?_eq_some chosen
    have activeToo : other.isActive := by
      by_contra ended
      rw [preferred (Bool.eq_false_of_not_eq_true ended) row present spans] at active
      cases active
    have := sound.ordered row present
    have sameStart := spansToo.starts.trans spans.starts.symm
    have sameEnd := spansToo.ends.trans spans.ends.symm
    rw [sound.eq_of_meets present active among activeToo (Int.le_refl row.first) this
      (by omega) (by omega)]

end Spanning

/-! ## What was found is marked -/

/-- A binding whose id no other has is marked if its row can be read. -/
theorem finish_eq_map {b : BindingRow} (present : b ∈ s.bindings) (active : b.isActive)
    (unique : ∀ c ∈ s.bindings, c.id = b.id → c = b) :
    s.finish b now = b.read.map fun shown =>
      ({ shown with releasedAt := some now }, s.released b.id (stored now)) := by
  have found : (s.bindings.find? fun c => (c.id : Int) == b.id) = some b :=
    find?_of_unique present (by simp) fun c member same => unique c member (by simpa using same)
  cases told : b.read with
  | error fault => simp only [finish, told, bind_error, map_error]
  | ok shown =>
    simp only [finish, told, bind_ok, setReleased, found, active, if_true, pure_eq_ok, map_ok]
    rfl

end Store

end PortPool
