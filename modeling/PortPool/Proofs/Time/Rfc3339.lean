/-
# PortPool.Proofs.Time.Rfc3339 -- an instant that is written is read back

The reader of a stored text undoes its writer, for every instant of the years 0 to
9999 (`read?_stored`).  Outside of them the year is written with a sign or with more
digits, which the reader does not take.  The reader of a body's text takes those too,
and undoes its writer wherever an instant can be told at all (`readLoosely?_wire`), as
every stored one can that is read (`inReach_of_read?`).  Each part has one lemma: what
the reader takes off the front of the part's text, whatever stands behind it.
-/
import Mathlib.Data.List.TakeWhile
import PortPool.Time.Rfc3339
import PortPool.Proofs.Text.Numeral

namespace PortPool.Text.Reader

set_option autoImplicit false

/-- A reader goes on where the one before it ended. -/
theorem bind_of_eq_some {α β : Type} {r : Reader α} {f : α → Reader β} {s rest : List Char} {v : α}
    (taken : r s = some (v, rest)) : (r >>= f) s = f v rest := by
  show (r s >>= fun p => f p.1 p.2) = _
  rw [taken]
  rfl

/-- A reader fails where its first part does. -/
theorem bind_of_eq_none {α β : Type} {r : Reader α} {f : α → Reader β} {s : List Char}
    (refused : r s = none) : (r >>= f) s = none := by
  show (r s >>= fun p => f p.1 p.2) = _
  rw [refused]
  rfl

theorem char_cons (c : Char) (rest : List Char) : char c (c :: rest) = some ((), rest) := by
  rw [char, if_pos rfl]

/-- Whatever the reader takes has a property. -/
def Gives {α : Type} (p : α → Prop) (r : Reader α) : Prop :=
  ∀ s v rest, r s = some (v, rest) → p v

/-- A reader gives what its last part gives. -/
theorem gives_bind {α β : Type} {p : β → Prop} {r : Reader α} {f : α → Reader β}
    (last : ∀ v, Gives p (f v)) : Gives p (r >>= f) := by
  intro s w rest taken
  cases first : r s with
  | none =>
    rw [bind_of_eq_none first] at taken
    cases taken
  | some q =>
    rw [bind_of_eq_some first] at taken
    exact last q.1 q.2 w rest taken

theorem Gives.whole {α : Type} {p : α → Prop} {r : Reader α} (gives : Gives p r) {s : List Char}
    {v : α} (taken : r.whole s = some v) : p v := by
  simp only [Reader.whole] at taken
  split at taken
  · rename_i found
    cases taken
    exact gives _ _ _ found
  · cases taken

end PortPool.Text.Reader

namespace PortPool.Time

set_option autoImplicit false

open PortPool.Text (Numeral.padded Numeral.paddedValues Numeral.ofDigits)

/-- The stored text of the instant can be read back: its year has four digits. -/
def Instant.Dated (t : Instant) : Prop := 0 ≤ t.year ∧ t.year ≤ 9999

theorem Instant.Dated.inReach {t : Instant} (dated : t.Dated) : inReach t.year = true := by
  rw [Instant.inReach, Bool.and_eq_true, decide_eq_true_eq, decide_eq_true_eq]
  have := dated.1
  have := dated.2
  omega

theorem Date.month_le (d : Date) : d.month ≤ 12 := by
  apply Nat.le_of_not_lt
  intro above
  have none : daysIn d.year d.month = 0 := by
    unfold daysIn
    split <;> omega
  have := d.day_pos
  have := d.day_le
  omega

theorem Date.day_le_31 (d : Date) : d.day ≤ 31 := by
  have most : daysIn d.year d.month ≤ 31 := by
    unfold daysIn
    repeat' split
    all_goals omega
  exact Nat.le_trans d.day_le most

namespace Rfc3339

/-! ## Numbers -/

/-- The characters that are digits. -/
def isDigit (c : Char) : Bool := '0' ≤ c && c ≤ '9'

theorem isDigit_of_mem {ds : List Nat} (small : ∀ d ∈ ds, d < 10) :
    ∀ c ∈ ds.map Nat.digitChar, isDigit c = true := by
  have all : ∀ d < 10, isDigit (Nat.digitChar d) = true := by decide
  intro c member
  obtain ⟨d, digit, rfl⟩ := List.mem_map.mp member
  exact all d (small d digit)

theorem map_digitChar {ds : List Nat} (small : ∀ d ∈ ds, d < 10) :
    (ds.map Nat.digitChar).map (fun c => c.toNat - '0'.toNat) = ds := by
  rw [List.map_map]
  refine (List.map_congr_left fun d member => ?_).trans (List.map_id ds)
  show (Nat.digitChar d).toNat - 0x30 = d
  rw [Text.Numeral.toNat_digitChar (small d member), Nat.add_sub_cancel_left]

/-- A number takes the digits that it finds where it looks for them. -/
theorem number_of_takeWhile {low high : Nat} {ds : List Nat} (small : ∀ d ∈ ds, d < 10)
    (enough : low ≤ ds.length) {rest : List Char}
    (taken : ((ds.map Nat.digitChar ++ rest).take high).takeWhile isDigit = ds.map Nat.digitChar) :
    number low high (ds.map Nat.digitChar ++ rest) = some (Numeral.ofDigits 10 ds, rest) := by
  have long : ¬(ds.map Nat.digitChar).length < low := by
    rw [List.length_map]
    omega
  replace taken : ((ds.map Nat.digitChar ++ rest).take high).takeWhile
      (fun c => '0' ≤ c && c ≤ '9') = ds.map Nat.digitChar := taken
  unfold number
  apply (Text.Reader.bind_of_eq_some rfl).trans
  simp only [taken, map_digitChar small, if_neg long]
  show some (_, List.drop _ _) = _
  rw [List.drop_left]

/-- It takes as many as it may. -/
theorem number_digits (low : Nat) {ds : List Nat} (small : ∀ d ∈ ds, d < 10)
    (enough : low ≤ ds.length) (rest : List Char) :
    number low ds.length (ds.map Nat.digitChar ++ rest) = some (Numeral.ofDigits 10 ds, rest) := by
  have front : (ds.map Nat.digitChar ++ rest).take ds.length = ds.map Nat.digitChar := by
    rw [List.take_append_of_le_length (by simp), List.take_of_length_le (by simp)]
  refine number_of_takeWhile small enough ?_
  rw [front]
  exact List.takeWhile_eq_self_iff.mpr (isDigit_of_mem small)

/-- A number of fixed width. -/
theorem number_padded {low width n : Nat} (some_ : 0 < width) (narrow : low ≤ width)
    (fits : n < 10 ^ width) (rest : List Char) :
    number low width (Numeral.padded width n ++ rest) = some (n, rest) := by
  have length := Text.Numeral.length_paddedValues some_ fits
  have taken := number_digits low (fun d => Text.Numeral.lt_of_mem_paddedValues)
    (length.symm ▸ narrow) rest
  rwa [length, Text.Numeral.ofDigits_paddedValues, ← Text.Numeral.padded_eq] at taken

/-- No number starts with anything but a digit. -/
theorem number_eq_none {low high : Nat} (some_ : 0 < low) {c : Char} (other : isDigit c = false)
    (rest : List Char) : number low high (c :: rest) = none := by
  have taken : ((c :: rest).take high).takeWhile (fun c => '0' ≤ c && c ≤ '9') = [] := by
    cases high with
    | zero => rfl
    | succ high => exact List.takeWhile_cons_of_neg (by simpa [isDigit] using other)
  unfold number
  apply (Text.Reader.bind_of_eq_some rfl).trans
  simp only [taken, List.length_nil, if_pos some_]
  rfl

/-! ## Fractions -/

/-- The fraction of a second takes all digits; fewer than nine stand for as many with
zeros behind them. -/
theorem fraction_digits {ds : List Nat} (small : ∀ d ∈ ds, d < 10) (some_ : ds ≠ [])
    (few : ds.length ≤ 9) {c : Char} (ends : isDigit c = false) (rest : List Char) :
    fraction ('.' :: ds.map Nat.digitChar ++ c :: rest) =
      some (Numeral.ofDigits 10 ds * 10 ^ (9 - ds.length), c :: rest) := by
  have taken : (ds.map Nat.digitChar ++ c :: rest).takeWhile
      (fun c => '0' ≤ c && c ≤ '9') = ds.map Nat.digitChar := by
    have stops : (c :: rest).takeWhile isDigit = [] := by simp [ends]
    show (ds.map Nat.digitChar ++ c :: rest).takeWhile isDigit = _
    rw [List.takeWhile_append_of_pos (isDigit_of_mem small), stops, List.append_nil]
  have nine : (ds.map Nat.digitChar ++ List.replicate 9 '0').take 9 =
      (ds ++ List.replicate (9 - ds.length) 0).map Nat.digitChar := by
    have zero : Nat.digitChar 0 = '0' := rfl
    rw [List.take_append, List.take_of_length_le (by simpa using few), List.take_replicate,
      List.length_map, List.map_append, List.map_replicate, zero]
    congr 2
    omega
  have all : ∀ d ∈ ds ++ List.replicate (9 - ds.length) 0, d < 10 := by
    intro d member
    rcases List.mem_append.mp member with digit | padding
    · exact small d digit
    · rw [(List.mem_replicate.mp padding).2]
      decide
  have digits : (ds.map Nat.digitChar).isEmpty = false := by simpa using some_
  unfold fraction
  apply (Text.Reader.bind_of_eq_some rfl).trans
  simp only [List.cons_append, taken, digits, nine, map_digitChar all, Bool.false_eq_true, if_false]
  show some (_, List.drop _ _) = _
  rw [List.drop_left, Text.Numeral.ofDigits_append_zeros]

theorem fraction_none {c : Char} (noPoint : c ≠ '.') (rest : List Char) :
    fraction (c :: rest) = some (0, c :: rest) := by
  unfold fraction
  apply (Text.Reader.bind_of_eq_some rfl).trans
  simp only [List.cons.injEq, noPoint, false_and, imp_self, implies_true]
  rfl

/-- **The fraction of a second is read back.** -/
theorem fraction_fractionText {nano : Nat} (below : nano < 1000000000) {c : Char}
    (ends : isDigit c = false) (noPoint : c ≠ '.') (rest : List Char) :
    fraction (fractionText nano ++ c :: rest) = some (nano, c :: rest) := by
  have part {width n : Nat} (some_ : 0 < width) (few : width ≤ 9) (fits : n < 10 ^ width) :
      fraction ('.' :: Numeral.padded width n ++ c :: rest) =
        some (n * 10 ^ (9 - width), c :: rest) := by
    have length := Text.Numeral.length_paddedValues some_ fits
    have nonempty : Numeral.paddedValues width n ≠ [] := by
      intro none
      rw [none, List.length_nil] at length
      omega
    have taken := fraction_digits (fun d => Text.Numeral.lt_of_mem_paddedValues) nonempty
      (by omega) ends rest
    rwa [length, Text.Numeral.ofDigits_paddedValues, ← Text.Numeral.padded_eq] at taken
  unfold fractionText
  split
  · rename_i zero
    subst zero
    exact fraction_none noPoint rest
  split
  · rw [part (by decide) (by decide) (by omega)]
    congr 2
    omega
  split
  · rw [part (by decide) (by decide) (by omega)]
    congr 2
    omega
  · rw [part (by decide) (by decide) (by omega), Nat.sub_self, Nat.pow_zero, Nat.mul_one]

/-! ## Instants -/

theorem make?_date (d : Date) : Date.make? d.year d.month d.day = some d := by
  rw [Date.make?, dif_pos ⟨d.day_pos, d.day_le⟩]

/-- A time is written with a second, at most the sixtieth, and a part of it, from which
it can be made again. -/
theorem clockText_eq (c : Clock) : ∃ second nano, second ≤ 60 ∧ nano < 1000000000 ∧
    Clock.make? c.hour c.minute second nano = some c ∧
    clockText c = Numeral.padded 2 c.hour ++ ':' :: Numeral.padded 2 c.minute ++ ':' ::
      Numeral.padded 2 second ++ fractionText nano := by
  have hour := c.hour_lt
  have minute := c.minute_lt
  have second := c.second_lt
  have nano := c.nano_lt
  by_cases leap : 1000000000 ≤ c.nano
  · have last := c.leap leap
    refine ⟨c.second + 1, c.nano - 1000000000, by omega, by omega, ?_, ?_⟩
    · have sixty : c.second + 1 = 60 := by omega
      have nanos : c.nano - 1000000000 + 1000000000 = c.nano := by omega
      simp only [Clock.make?, sixty, if_true, nanos]
      rw [dif_pos ⟨hour, minute, by decide, nano, fun _ => trivial⟩, Option.some.injEq]
      cases c
      cases last
      rfl
    · simp only [clockText, leap, if_true]
  · refine ⟨c.second, c.nano, by omega, by omega, ?_, ?_⟩
    · have notSixty : c.second ≠ 60 := by omega
      simp only [Clock.make?, notSixty, if_false]
      rw [dif_pos ⟨hour, minute, second, nano, c.leap⟩]
    · simp only [clockText, leap, if_false]

theorem ofLocal?_zero {t : Instant} (told : Instant.inReach t.year = true) :
    Instant.ofLocal? t.date t.clock 0 = some t := by
  have hour := t.clock.hour_lt
  have minute := t.clock.minute_lt
  have notBefore : ¬((t.clock.hour * 60 + t.clock.minute : Nat) - 0 : Int) < 0 := by omega
  have notAfter : ¬1440 ≤ ((t.clock.hour * 60 + t.clock.minute : Nat) - 0 : Int) := by omega
  have whole : ((t.clock.hour * 60 + t.clock.minute : Nat) - 0 : Int).toNat =
      t.clock.hour * 60 + t.clock.minute := by omega
  have hours : (t.clock.hour * 60 + t.clock.minute) / 60 = t.clock.hour := by omega
  have minutes : (t.clock.hour * 60 + t.clock.minute) % 60 = t.clock.minute := by omega
  rw [Instant.ofLocal?, if_pos ⟨by decide, by decide, told⟩]
  simp only [if_neg notBefore, if_neg notAfter, whole, hours, minutes]
  rw [dif_pos hour]
  exact if_pos told

/-- The reader takes all of a text with the offset zero. -/
theorem strictly_text {t : Instant} (low : 0 ≤ t.year) (high : t.year ≤ 9999) :
    strictly (text 'T' t ++ ['+', '0', '0', ':', '0', '0']) = some (t, []) := by
  obtain ⟨second, nano, sixty, below, made, written⟩ := clockText_eq t.clock
  have month := t.date.month_le
  have day := t.date.day_le_31
  have hour := t.clock.hour_lt
  have minute := t.clock.minute_lt
  have year : t.date.year = t.date.year.natAbs := by
    have : 0 ≤ t.date.year := low
    omega
  have fits : t.date.year.natAbs < 10 ^ 4 := by
    have : t.date.year ≤ 9999 := high
    omega
  have told : Instant.inReach t.year = true := Instant.Dated.inReach ⟨low, high⟩
  rw [text, dateText, yearText, if_pos ⟨low, high⟩, written]
  simp only [List.append_assoc, List.cons_append]
  unfold strictly
  rw [Text.Reader.bind_of_eq_some (number_padded (by decide) (by decide) fits _),
    Text.Reader.bind_of_eq_some (Text.Reader.char_cons _ _),
    Text.Reader.bind_of_eq_some (number_padded (by decide) (by decide) (by omega) _),
    Text.Reader.bind_of_eq_some (Text.Reader.char_cons _ _),
    Text.Reader.bind_of_eq_some (number_padded (by decide) (by decide) (by omega) _),
    Text.Reader.bind_of_eq_some (v := ()) rfl,
    Text.Reader.bind_of_eq_some (number_padded (by decide) (by decide) (by omega) _),
    Text.Reader.bind_of_eq_some (Text.Reader.char_cons _ _),
    Text.Reader.bind_of_eq_some (number_padded (by decide) (by decide) (by omega) _),
    Text.Reader.bind_of_eq_some (Text.Reader.char_cons _ _),
    Text.Reader.bind_of_eq_some (number_padded (by decide) (by decide) (by omega) _),
    Text.Reader.bind_of_eq_some (fraction_fractionText below (by decide) (by decide) _),
    Text.Reader.bind_of_eq_some (v := 0) rfl]
  rw [assemble, ← year, make?_date, made]
  show (Instant.ofLocal? t.date t.clock 0 >>= fun t => some (t, [])) = _
  rw [ofLocal?_zero told]
  rfl

/-- **A stored instant is read back**, as long as its year has at most four digits. -/
theorem read?_stored {t : Instant} (low : 0 ≤ t.year) (high : t.year ≤ 9999) :
    read? (stored t) = some t := by
  rw [read?, stored, String.toList_ofList, Text.Reader.whole, strictly_text low high]

/-- A year of any other form starts with its sign, which the reader refuses. -/
theorem read?_stored_eq_none {t : Instant} (outside : ¬(0 ≤ t.year ∧ t.year ≤ 9999)) :
    read? (stored t) = none := by
  have signed (c : Char) (other : isDigit c = false) (rest : List Char) :
      strictly (c :: rest) = none :=
    Text.Reader.bind_of_eq_none (number_eq_none (by decide) other rest)
  have written : yearText t.date.year =
      (if t.date.year < 0 then '-' else '+') :: Text.Numeral.padded 4 t.date.year.natAbs :=
    if_neg outside
  rw [read?, stored, String.toList_ofList, Text.Reader.whole, text, dateText, written]
  simp only [List.cons_append]
  by_cases before : t.date.year < 0
  · rw [if_pos before, signed '-' (by decide)]
  · rw [if_neg before, signed '+' (by decide)]

/-! ## Instants in bodies -/

/-- A number ends where its digits do. -/
theorem number_run {low high : Nat} {ds : List Nat} (small : ∀ d ∈ ds, d < 10)
    (enough : low ≤ ds.length) (few : ds.length ≤ high) {c : Char} (ends : isDigit c = false)
    (rest : List Char) : number low high (ds.map Nat.digitChar ++ c :: rest) =
      some (Numeral.ofDigits 10 ds, c :: rest) := by
  have stops (n : Nat) : ((c :: rest).take n).takeWhile isDigit = [] := by
    cases n with
    | zero => rfl
    | succ n => simp [ends]
  refine number_of_takeWhile small enough ?_
  rw [List.take_append, List.take_of_length_le (by simpa using few),
    List.takeWhile_append_of_pos (isDigit_of_mem small), stops, List.append_nil]

theorem blanks_cons {c : Char} (plain : Text.isBlank c = false) (rest : List Char) :
    blanks (c :: rest) = some ((), c :: rest) := by
  show some ((), List.dropWhile Text.isBlank (c :: rest)) = _
  rw [List.dropWhile_cons_of_neg (by simp [plain])]

/-- A padded number begins with a digit. -/
theorem padded_cons (width n : Nat) : ∃ c cs, Numeral.padded width n = c :: cs ∧ isDigit c := by
  have small : ∀ d ∈ Numeral.paddedValues width n, d < 10 := fun _ =>
    Text.Numeral.lt_of_mem_paddedValues
  rw [Text.Numeral.padded_eq]
  cases split : Numeral.paddedValues width n with
  | nil => exact absurd split (Text.Numeral.paddedValues_ne_nil width n)
  | cons d ds =>
    refine ⟨_, _, rfl, isDigit_of_mem small _ ?_⟩
    rw [split]
    exact List.mem_cons_self

theorem isBlank_of_isDigit {c : Char} (digit : isDigit c = true) : Text.isBlank c = false := by
  simp only [isDigit, Bool.and_eq_true, decide_eq_true_eq, Char.le_def, UInt32.le_iff_toNat_le]
    at digit
  have low : 0x30 ≤ c.toNat := digit.1
  have high : c.toNat ≤ 0x39 := digit.2
  simp only [Text.isBlank, Bool.or_eq_false_iff, Bool.and_eq_false_iff, decide_eq_false_iff_not,
    beq_eq_false_iff_ne]
  omega

theorem blanks_padded (width n : Nat) (rest : List Char) :
    blanks (Numeral.padded width n ++ rest) = some ((), Numeral.padded width n ++ rest) := by
  obtain ⟨c, cs, written, digit⟩ := padded_cons width n
  rw [written]
  exact blanks_cons (isBlank_of_isDigit digit) _

/-- A year without a sign has at most four digits. -/
theorem signedYear_digit {c : Char} (digit : isDigit c = true) (rest : List Char) :
    signedYear (c :: rest) = (number 1 4 >>= fun n => pure (n : Int)) (c :: rest) := by
  have notMinus : c ≠ '-' := by
    rintro rfl
    cases digit
  have notPlus : c ≠ '+' := by
    rintro rfl
    cases digit
  unfold signedYear
  apply (Text.Reader.bind_of_eq_some rfl).trans
  simp only [List.cons.injEq, notMinus, notPlus, false_and, imp_self, implies_true]

/-- A year with a sign may have more. -/
theorem signedYear_sign (width n : Nat) {c : Char} (ends : isDigit c = false)
    (rest : List Char) (negative : Bool) :
    signedYear ((if negative then '-' else '+') :: Numeral.padded width n ++ c :: rest) =
      some (if negative then -(n : Int) else n, c :: rest) := by
  have small : ∀ d ∈ Numeral.paddedValues width n, d < 10 := fun _ =>
    Text.Numeral.lt_of_mem_paddedValues
  have taken : number 1 (Numeral.padded width n ++ c :: rest).length
      ((Numeral.paddedValues width n).map Nat.digitChar ++ c :: rest) = _ := number_run small
    (List.length_pos_iff.mpr (Text.Numeral.paddedValues_ne_nil _ _))
    (by simp [Text.Numeral.padded_eq]) ends rest
  rw [Text.Numeral.ofDigits_paddedValues, ← Text.Numeral.padded_eq] at taken
  unfold signedYear
  apply (Text.Reader.bind_of_eq_some rfl).trans
  cases negative
  · apply (Text.Reader.bind_of_eq_some (v := ()) rfl).trans
    exact Text.Reader.bind_of_eq_some taken
  · apply (Text.Reader.bind_of_eq_some (v := ()) rfl).trans
    exact Text.Reader.bind_of_eq_some taken

/-- **The year of a body's instant is read back**, with its sign where it has one. -/
theorem signedYear_yearText (year : Int) {c : Char} (ends : isDigit c = false)
    (rest : List Char) :
    signedYear (yearText year ++ c :: rest) = some (year, c :: rest) := by
  by_cases within : 0 ≤ year ∧ year ≤ 9999
  · obtain ⟨d, ds, written, digit⟩ := padded_cons 4 year.natAbs
    have taken : number 1 4 (Numeral.padded 4 year.natAbs ++ c :: rest) =
        some (year.natAbs, c :: rest) := number_padded (by decide) (by decide) (by omega) _
    have whole : (year.natAbs : Int) = year := by omega
    rw [yearText, if_pos within]
    rw [written, List.cons_append] at taken ⊢
    rw [signedYear_digit digit, Text.Reader.bind_of_eq_some taken, whole]
    rfl
  · have signed := signedYear_sign 4 year.natAbs ends rest (year < 0)
    rw [yearText, if_neg within]
    simp only [decide_eq_true_eq] at signed
    rw [signed]
    congr 2
    omega

theorem blanks_yearText (year : Int) (rest : List Char) :
    blanks (yearText year ++ rest) = some ((), yearText year ++ rest) := by
  by_cases within : 0 ≤ year ∧ year ≤ 9999
  · rw [yearText, if_pos within]
    exact blanks_padded ..
  · rw [yearText, if_neg within]
    by_cases before : year < 0
    · rw [if_pos before]
      exact blanks_cons (by decide) _
    · rw [if_neg before]
      exact blanks_cons (by decide) _

/-- The reader takes all of a text with the mark of universal time. -/
theorem loosely_text {t : Instant} (told : Instant.inReach t.year = true) :
    loosely (text 'T' t ++ ['Z']) = some (t, []) := by
  obtain ⟨second, nano, sixty, below, made, written⟩ := clockText_eq t.clock
  have month := t.date.month_le
  have day := t.date.day_le_31
  have hour := t.clock.hour_lt
  have minute := t.clock.minute_lt
  have two {n : Nat} (small : n < 100) (rest : List Char) :
      number 1 2 (Numeral.padded 2 n ++ rest) = some (n, rest) :=
    number_padded (by decide) (by decide) small rest
  have hyphen (rest : List Char) := blanks_cons (c := '-') (by decide) rest
  have colon (rest : List Char) := blanks_cons (c := ':') (by decide) rest
  rw [text, dateText, written]
  simp only [List.append_assoc, List.cons_append]
  unfold loosely
  rw [Text.Reader.bind_of_eq_some (blanks_yearText _ _),
    Text.Reader.bind_of_eq_some (signedYear_yearText _ (by decide) _),
    Text.Reader.bind_of_eq_some (hyphen _),
    Text.Reader.bind_of_eq_some (Text.Reader.char_cons _ _),
    Text.Reader.bind_of_eq_some (blanks_padded _ _ _),
    Text.Reader.bind_of_eq_some (two (by omega) _),
    Text.Reader.bind_of_eq_some (hyphen _),
    Text.Reader.bind_of_eq_some (Text.Reader.char_cons _ _),
    Text.Reader.bind_of_eq_some (blanks_padded _ _ _),
    Text.Reader.bind_of_eq_some (two (by omega) _),
    Text.Reader.bind_of_eq_some (v := ()) rfl,
    Text.Reader.bind_of_eq_some (blanks_padded _ _ _),
    Text.Reader.bind_of_eq_some (two (by omega) _),
    Text.Reader.bind_of_eq_some (colon _),
    Text.Reader.bind_of_eq_some (Text.Reader.char_cons _ _),
    Text.Reader.bind_of_eq_some (blanks_padded _ _ _),
    Text.Reader.bind_of_eq_some (two (by omega) _),
    Text.Reader.bind_of_eq_some (colon _),
    Text.Reader.bind_of_eq_some (Text.Reader.char_cons _ _),
    Text.Reader.bind_of_eq_some (blanks_padded _ _ _),
    Text.Reader.bind_of_eq_some (two (by omega) _),
    Text.Reader.bind_of_eq_some (fraction_fractionText below (by decide) (by decide) _),
    Text.Reader.bind_of_eq_some (blanks_cons (by decide) _),
    Text.Reader.bind_of_eq_some (v := 0) rfl,
    Text.Reader.bind_of_eq_some (v := ()) rfl]
  rw [assemble, make?_date, made]
  show (Instant.ofLocal? t.date t.clock 0 >>= fun t => some (t, [])) = _
  rw [ofLocal?_zero told]
  rfl

/-- **An instant in an answer is read back**, whatever its year, as long as it can be told. -/
theorem readLoosely?_wire {t : Instant} (told : Instant.inReach t.year = true) :
    readLoosely? (wire t) = some t := by
  rw [readLoosely?, wire, String.toList_ofList, Text.Reader.whole, loosely_text told]

/-- An instant that was moved to universal time can be told. -/
theorem inReach_of_ofLocal? {date : Date} {clock : Clock} {offset : Int} {t : Instant}
    (made : Instant.ofLocal? date clock offset = some t) : Instant.inReach t.year = true := by
  simp only [Instant.ofLocal?] at made
  split at made
  · generalize (if ((clock.hour * 60 + clock.minute : Nat) - offset : Int) < 0 then _ else _ :
        Date × Int) = moved at made
    split at made
    · split at made
      · rename_i told
        cases made
        exact told
      · cases made
    · cases made
  · cases made

theorem inReach_of_assemble {year : Int} {month day hour minute second nano : Nat} {offset : Int}
    {t : Instant} (made : assemble year month day hour minute second nano offset = some t) :
    Instant.inReach t.year = true := by
  simp only [assemble, Option.bind_eq_bind, Option.bind_eq_some_iff] at made
  obtain ⟨date, -, clock, -, made⟩ := made
  exact inReach_of_ofLocal? made

/-- **A stored instant that is read can be told.** -/
theorem inReach_of_read? {s : String} {t : Instant} (read : read? s = some t) :
    Instant.inReach t.year = true := by
  have gives : Text.Reader.Gives (fun t => Instant.inReach t.year = true) strictly := by
    unfold strictly
    repeat refine Text.Reader.gives_bind fun _ => ?_
    intro s v rest taken
    obtain ⟨made, same⟩ := Option.bind_eq_some_iff.mp taken
    cases same.2
    exact inReach_of_assemble same.1
  exact gives.whole read

end Rfc3339

end PortPool.Time
