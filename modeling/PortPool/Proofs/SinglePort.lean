/-
# PortPool.Proofs.SinglePort -- one port is a span of size one

Asking for one port has a way of its own: it takes the first free port of the range and
looks for no window.  It comes to what asking for a span of size one comes to, in every
store, whoever wrote its rows: a run of one number starts at each free port, so the lowest
run starts at the first of them (`reserveOne_eq_reserveSpan`).

Two calls are made at two instants.  All that a reservation does with its instant is to put
it into the binding that is granted (`Store.bind_sameGrant`); what is found free, how the
pool grows and why a request is refused do not depend on it.
-/
import PortPool.Proofs.Change

namespace PortPool

set_option autoImplicit false

open Time.Rfc3339 (stored)

/-- Both attempts are refused for the same fault; or both grant the same binding and lead to
the same store, except that each has set its own instant as that of the reservation. -/
inductive SameGrant (now later : Time.Instant) :
    Except Fault (Binding × Store) → Except Fault (Binding × Store) → Prop where
  | refused (fault : Fault) : SameGrant now later (.error fault) (.error fault)
  | granted (b : Binding) (row : BindingRow) (before : List BindingRow) (t : Store) :
      SameGrant now later
        (.ok ({ b with reservedAt := now },
          { t with bindings := { row with reservedAt := stored now } :: before }))
        (.ok ({ b with reservedAt := later },
          { t with bindings := { row with reservedAt := stored later } :: before }))

namespace Store

variable (s : Store) (range : PortRange) (owner : String) (size : Nat) (now later : Time.Instant)

/-- A span that cannot be bound is a fault of the store. -/
theorem bind_eq_ok_or_error (first last : Int) :
    (∃ done, s.bind owner first last now = .ok done) ∨
      s.bind owner first last now = .error .store := by
  simp only [Store.bind]
  split
  · exact .inl ⟨_, rfl⟩
  · exact .inr rfl

/-- Whether a span can be bound does not depend on the instant. -/
theorem bind_sameGrant (first last : Int) :
    SameGrant now later (s.bind owner first last now) (s.bind owner first last later) := by
  rcases s.bind_eq_ok_or_error owner now first last with ⟨⟨b, t⟩, granted⟩ | failed
  · obtain ⟨ordered, joined, free, rfl, rfl⟩ := bind_eq_ok_iff.mp granted
    rw [granted, bind_eq_ok_iff.mpr ⟨ordered, joined, free, rfl, rfl⟩]
    exact .granted ⟨s.nextBinding, owner, PortNumber.wrap first, PortNumber.wrap last, now, none⟩
      ⟨s.nextBinding, owner, first, last, stored now, none⟩ s.bindings
      (s.bound owner first last (stored now))
  · rcases s.bind_eq_ok_or_error owner later first last with ⟨⟨b, t⟩, granted⟩ | failedToo
    · -- the conditions of a grant say nothing of the instant
      obtain ⟨ordered, joined, free, -, -⟩ := bind_eq_ok_iff.mp granted
      rw [bind_eq_ok_iff.mpr ⟨ordered, joined, free, rfl, rfl⟩] at failed
      cases failed
    · rw [failed, failedToo]
      exact .refused .store

theorem grow_sameGrant :
    SameGrant now later (s.grow range owner size now) (s.grow range owner size later) := by
  rw [grow, grow]
  cases s.nextNumber range with
  | error fault => exact .refused fault
  | ok next =>
    simp only [bind_ok]
    split
    · exact bind_sameGrant ..
    · exact .refused _

theorem reserveSpan_sameGrant : SameGrant now later (s.reserveSpan range owner size now)
    (s.reserveSpan range owner size later) := by
  rw [reserveSpan, reserveSpan]
  split
  · exact .refused _
  · cases s.getInstance owner with
    | error fault => exact .refused fault
    | ok i =>
      simp only [bind_ok]
      split
      · exact bind_sameGrant ..
      · exact grow_sameGrant ..

/-- **One port and a span of size one are the same**, in every store, for every instance and
whenever either is asked for. -/
theorem reserveOne_sameGrant : SameGrant now later (s.reserveOne range owner now)
    (s.reserveSpan range owner 1 later) := by
  rw [reserveOne_eq_reserveSpan]
  exact reserveSpan_sameGrant ..

end Store

end PortPool
