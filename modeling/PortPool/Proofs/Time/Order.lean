/-
# PortPool.Proofs.Time.Order -- stored instants have the order of time

A day is before another if the calendar gets from one to the other (`Date.Before`), and
a time of the day before another in an earlier minute, or in the same one after fewer
nanoseconds; a minute with a leap second is longer (`Clock.Before`).  The numbers of a
date decide in turn, as its text has them (`Date.before_iff`), and so do the parts of a
time.  What is left is the end of the text: a fraction loses its last zeros, and of two
fractions one may end where the other goes on.  There the plus sign of the offset stands
against the point or a digit, and it comes before both (`fractionText_lt`).
-/
import Mathlib.Tactic.IntervalCases
import PortPool.Proofs.Text.Order
import PortPool.Proofs.Time.Rfc3339

namespace PortPool.Time

set_option autoImplicit false

/-! ## The order of time -/

/-- The day comes some days before the other. -/
def Date.Before (d e : Date) : Prop := ∃ n, Instant.addDays (n + 1) d = e

/-- The time of day is earlier: in an earlier minute, or in the same after fewer
nanoseconds. -/
def Clock.Before (c d : Clock) : Prop :=
  c.hour * 60 + c.minute < d.hour * 60 + d.minute ∨
    c.hour * 60 + c.minute = d.hour * 60 + d.minute ∧
      c.second * 1000000000 + c.nano < d.second * 1000000000 + d.nano

/-- The instant is earlier. -/
def Instant.Before (t u : Instant) : Prop :=
  t.date.Before u.date ∨ t.date = u.date ∧ t.clock.Before u.clock

/-! ## Days -/

namespace Date

theorem daysIn_pos {year : Int} {month : Nat} (first : 1 ≤ month) (last : month ≤ 12) :
    1 ≤ daysIn year month := by
  interval_cases month <;> simp only [daysIn] <;> (try split) <;> decide

theorem month_pos (d : Date) : 1 ≤ d.month := by
  by_contra outside
  have none : daysIn d.year d.month = 0 := by
    rw [show d.month = 0 by omega]
    rfl
  have := d.day_pos
  have := d.day_le
  omega

/-- A number of the day that grows with the days; not every number is one of a day. -/
def rank (d : Date) : Int := 372 * d.year + 31 * d.month + d.day

theorem rank_lt {d e : Date} : d.rank < e.rank ↔ d.year < e.year ∨ d.year = e.year ∧
    (d.month < e.month ∨ d.month = e.month ∧ d.day < e.day) := by
  have := d.month_pos
  have := d.month_le
  have := d.day_pos
  have := d.day_le_31
  have := e.month_pos
  have := e.month_le
  have := e.day_pos
  have := e.day_le_31
  unfold rank
  omega

theorem eq_iff {d e : Date} : d = e ↔ d.year = e.year ∧ d.month = e.month ∧ d.day = e.day := by
  cases d
  cases e
  simp

theorem eq_of_not_rank_lt {d e : Date} (notLess : ¬d.rank < e.rank) (notMore : ¬e.rank < d.rank) :
    d = e := by
  rw [rank_lt] at notLess notMore
  rw [eq_iff]
  omega

theorem rank_lt_rank_next (d : Date) : d.rank < d.next.rank := by
  rw [rank_lt, next]
  split
  · simp
  split
  · simp [firstOf]
  · exact .inl (Int.lt_succ d.year)

/-- No day is between a day and the next. -/
theorem rank_next_le {d e : Date} (less : d.rank < e.rank) : d.next.rank ≤ e.rank := by
  rw [← Int.not_lt, rank_lt]
  rw [rank_lt] at less
  have positive := e.day_pos
  have first := e.month_pos
  rw [next]
  split
  · simp only
    omega
  rename_i lastOfMonth
  split
  · simp only [firstOf]
    have within := e.day_le
    intro between
    have year : d.year = e.year := by omega
    have month : d.month = e.month := by omega
    rw [← year, ← month] at within
    omega
  · rename_i lastOfYear
    have twelfth : 12 ≤ d.month := by
      by_contra earlier
      exact lastOfYear (daysIn_pos (by omega) (by omega))
    have within := e.day_le
    have last := e.month_le
    simp only [firstOf]
    intro between
    have year : d.year = e.year := by omega
    have month : d.month = e.month := by omega
    rw [← year, ← month] at within
    omega

theorem rank_le_rank_addDays (n : Nat) (d : Date) : d.rank ≤ (Instant.addDays n d).rank := by
  induction n generalizing d with
  | zero => exact Int.le_refl _
  | succ n ih => exact Int.le_trans (Int.le_of_lt d.rank_lt_rank_next) (ih d.next)

theorem before_iff_rank {d e : Date} : d.Before e ↔ d.rank < e.rank := by
  constructor
  · rintro ⟨n, rfl⟩
    exact Int.lt_of_lt_of_le d.rank_lt_rank_next (rank_le_rank_addDays n d.next)
  · intro less
    -- By induction on how far the ranks are apart: the next day is not beyond.
    generalize apart : (e.rank - d.rank).toNat = k
    induction k using Nat.strongRecOn generalizing d with
    | ind k ih =>
      have up := d.rank_lt_rank_next
      rcases Int.lt_or_eq_of_le (rank_next_le less) with later | here
      · obtain ⟨n, reached⟩ := ih _ (by omega) later rfl
        exact ⟨n + 1, reached⟩
      · have reached : d.next = e := eq_of_not_rank_lt (by omega) (by omega)
        exact ⟨0, reached⟩

/-- **The numbers of a date decide in turn which is earlier.** -/
theorem before_iff {d e : Date} : d.Before e ↔ d.year < e.year ∨ d.year = e.year ∧
    (d.month < e.month ∨ d.month = e.month ∧ d.day < e.day) :=
  before_iff_rank.trans rank_lt

theorem Before.asymm {d e : Date} (before : d.Before e) : ¬e.Before d := by
  rw [before_iff_rank] at *
  omega

end Date

/-! ## Instants -/

theorem Clock.eq_of_not_before {c d : Clock} (notBefore : ¬c.Before d) (notAfter : ¬d.Before c) :
    c = d := by
  have := c.minute_lt
  have := c.second_lt
  have := c.leap
  have := d.minute_lt
  have := d.second_lt
  have := d.leap
  unfold Before at notBefore notAfter
  have hour : c.hour = d.hour := by omega
  have minute : c.minute = d.minute := by omega
  have second : c.second = d.second := by omega
  have nano : c.nano = d.nano := by omega
  cases c
  cases d
  simp_all

namespace Instant

theorem Before.asymm {t u : Instant} (before : t.Before u) : ¬u.Before t := by
  unfold Before Clock.Before at *
  rintro (later | ⟨same, later⟩)
  · rcases before with earlier | ⟨same, -⟩
    · exact earlier.asymm later
    · exact later.asymm (same ▸ later)
  · rcases before with earlier | ⟨-, earlier⟩
    · exact earlier.asymm (same ▸ earlier)
    · omega

/-- Of two instants that are not one, one is before the other. -/
theorem eq_of_not_before {t u : Instant} (notBefore : ¬t.Before u) (notAfter : ¬u.Before t) :
    t = u := by
  have date : t.date = u.date := by
    refine Date.eq_of_not_rank_lt ?_ ?_ <;> rw [← Date.before_iff_rank]
    · exact fun earlier => notBefore (.inl earlier)
    · exact fun later => notAfter (.inl later)
  have clock : t.clock = u.clock := Clock.eq_of_not_before
    (fun earlier => notBefore (.inr ⟨date, earlier⟩))
    (fun later => notAfter (.inr ⟨date.symm, later⟩))
  cases t
  cases u
  simp_all

end Instant

/-! ## Fractions -/

namespace Rfc3339

open PortPool.Text (append_lt_append Numeral.padded Numeral.paddedValues Numeral.ofDigits)

/-- A fraction that is written has digits which, with the zeros that were left out, are
nine and denote the nanoseconds. -/
theorem exists_of_fractionText {nano : Nat} (below : nano < 1000000000) (some_ : nano ≠ 0) :
    ∃ ds k, fractionText nano = '.' :: ds.map Nat.digitChar ∧ (∀ d ∈ ds, d < 10) ∧
      ds.length + k = 9 ∧ Numeral.ofDigits 10 (ds ++ List.replicate k 0) = nano := by
  have part {width n k : Nat} (wide : 0 < width) (fits : n < 10 ^ width) (nine : width + k = 9)
      (whole : n * 10 ^ k = nano) : ∃ ds k, '.' :: Numeral.padded width n =
        '.' :: ds.map Nat.digitChar ∧ (∀ d ∈ ds, d < 10) ∧ ds.length + k = 9 ∧
          Numeral.ofDigits 10 (ds ++ List.replicate k 0) = nano := by
    refine ⟨Numeral.paddedValues width n, k, by rw [Text.Numeral.padded_eq],
      fun _ => Text.Numeral.lt_of_mem_paddedValues, ?_, ?_⟩
    · rw [Text.Numeral.length_paddedValues wide fits, nine]
    · rw [Text.Numeral.ofDigits_append_zeros, Text.Numeral.ofDigits_paddedValues, whole]
  unfold fractionText
  rw [if_neg some_]
  split
  · exact part (k := 6) (by decide) (by omega) rfl (by omega)
  split
  · exact part (k := 3) (by decide) (by omega) rfl (by omega)
  · exact part (k := 0) (by decide) (by omega) rfl (by omega)

theorem fractionText_lt_of_lt {m n : Nat} (below : n < 1000000000) (less : m < n)
    (rest : List Char) : fractionText m ++ '+' :: rest < fractionText n ++ '+' :: rest := by
  have digits : ∀ d < 10, '+' < Nat.digitChar d := by decide
  obtain ⟨es, l, written', small', nine', whole'⟩ := exists_of_fractionText below (by omega)
  rw [written']
  by_cases zero : m = 0
  · subst zero
    exact List.cons_lt_cons_iff.mpr (.inl (by decide))
  obtain ⟨ds, k, written, small, nine, whole⟩ := exists_of_fractionText (by omega) zero
  rw [written, List.cons_append, List.cons_append, List.cons_lt_cons_self]
  refine Text.Numeral.digits_lt_of_fraction_lt small small' (nine.trans nine'.symm) ?_ digits rest
  have zeros {fs : List Nat} {j : Nat} (small : ∀ d ∈ fs, d < 10) :
      ∀ d ∈ fs ++ List.replicate j 0, d < 10 := by
    intro d member
    rcases List.mem_append.mp member with digit | zero
    · exact small d digit
    · rw [List.eq_of_mem_replicate zero]
      decide
  rw [← Text.Numeral.ofDigits_lt (zeros small) (zeros small'), whole, whole']
  · exact less
  · simp only [List.length_append, List.length_replicate, nine, nine']

/-- **Fractions before an offset have the order of their nanoseconds.** -/
theorem fractionText_lt {m n : Nat} (below : m < 1000000000) (below' : n < 1000000000)
    (rest : List Char) :
    fractionText m ++ '+' :: rest < fractionText n ++ '+' :: rest ↔ m < n := by
  refine ⟨fun less => ?_, fun less => fractionText_lt_of_lt below' less rest⟩
  rcases Nat.lt_trichotomy m n with later | rfl | earlier
  · exact later
  · exact absurd less (List.lt_irrefl _)
  · exact absurd less (List.lt_asymm (fractionText_lt_of_lt below earlier rest))

/-! ## Whole texts -/

theorem clockText_lt (c d : Clock) (rest : List Char) :
    clockText c ++ '+' :: rest < clockText d ++ '+' :: rest ↔ c.Before d := by
  have := c.hour_lt
  have := c.minute_lt
  have := c.second_lt
  have := c.nano_lt
  have := c.leap
  have := d.hour_lt
  have := d.minute_lt
  have := d.second_lt
  have := d.nano_lt
  have := d.leap
  unfold clockText Clock.Before
  -- A leap second is written as the sixtieth, which is after all others of its minute.
  split_ifs
  all_goals
    simp only [List.append_assoc, List.cons_append]
    rw [Text.Numeral.padded_append_lt (by decide) (by omega) (by omega), List.cons_lt_cons_self,
      Text.Numeral.padded_append_lt (by decide) (by omega) (by omega), List.cons_lt_cons_self,
      Text.Numeral.padded_append_lt (by decide) (by omega) (by omega),
      fractionText_lt (by omega) (by omega)]
    omega

theorem dateText_append_lt {d e : Date} (dated : 0 ≤ d.year ∧ d.year ≤ 9999)
    (dated' : 0 ≤ e.year ∧ e.year ≤ 9999) (p q : List Char) :
    dateText d ++ p < dateText e ++ q ↔ d.Before e ∨ d = e ∧ p < q := by
  have := d.month_le
  have := d.day_le_31
  have := e.month_le
  have := e.day_le_31
  rw [dateText, dateText, yearText, yearText, if_pos dated, if_pos dated']
  simp only [List.append_assoc, List.cons_append]
  rw [Text.Numeral.padded_append_lt (by decide) (by omega) (by omega), List.cons_lt_cons_self,
    Text.Numeral.padded_append_lt (by decide) (by omega) (by omega), List.cons_lt_cons_self,
    Text.Numeral.padded_append_lt (by decide) (by omega) (by omega), Date.before_iff, Date.eq_iff]
  have less : d.year.natAbs < e.year.natAbs ↔ d.year < e.year := by omega
  have same : d.year.natAbs = e.year.natAbs ↔ d.year = e.year := by omega
  simp only [less, same, and_or_left, or_assoc, and_assoc]

/-- **Stored instants of years with at most four digits have the order of time.** -/
theorem stored_lt {t u : Instant} (dated : t.Dated) (dated' : u.Dated) :
    stored t < stored u ↔ t.Before u := by
  rw [stored, stored, String.lt_iff, String.toList_ofList, String.toList_ofList, text, text,
    List.append_assoc, List.append_assoc, dateText_append_lt dated dated', List.cons_append,
    List.cons_append, List.cons_lt_cons_self, clockText_lt]
  rfl

/-- Half a second into a leap second is told as such, and is after the second before. -/
example : stored ⟨⟨2016, 12, 31, by decide, by decide⟩,
      ⟨23, 59, 59, 1500000000, by decide, by decide, by decide, by decide, by decide⟩⟩ =
        "2016-12-31T23:59:60.500+00:00" ∧
    "2016-12-31T23:59:59.999999+00:00" < "2016-12-31T23:59:60.500+00:00" := by
  decide +kernel

end Rfc3339

end PortPool.Time
