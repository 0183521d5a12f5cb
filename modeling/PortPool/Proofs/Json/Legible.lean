/-
# PortPool.Proofs.Json.Legible -- what was read can be written and read again

Every number that a text can denote can be written, and its text read again
(`legible_of_read`); so can every object made of such numbers that does not nest too
deep (`decodeText_render_of_decoded`).  A whole number comes back as it was.  A fraction
may come back as a neighbour, but it comes back: its shortest digits are few, so all of
them are taken, and a fraction written without its point is far enough below the limit
that rounding thrice does not reach it, save the two greatest, which are looked at one
by one.
-/
import PortPool.Proofs.Decimal.Shortest
import PortPool.Proofs.Json.Decode

namespace PortPool.Json

set_option autoImplicit false

open PortPool.Decimal (Binary64 Shortest.Digits.value Shortest.shortest_fits)
open PortPool.Decimal.Binary64 (limit)
open PortPool.Text (Numeral.digitValues Numeral.ofDigits)
open PortPool.Text (Utf8.encode)

variable {x y : Binary64} {power : Int} {m : Nat} {negative : Bool}

/-! ## Scaling -/

theorem scale_finite {steps : Nat} (finite : x.Finite) (scaled : scale steps x power = some y) :
    y.Finite := by
  fun_induction scale steps x power with
  | case1 => exact Binary64.mulPow10_finite scaled
  | case2 => exact Binary64.divPow10_finite scaled
  | case3 =>
    cases scaled
    exact finite
  | case4 => cases scaled
  | case5 => cases scaled
  | case6 x power far nonzero down steps ih =>
    obtain ⟨z, divided, scaled⟩ := Option.bind_eq_some_iff.mp scaled
    exact ih z (Binary64.divPow10_finite divided) scaled

/-- There are steps enough for every power below zero. -/
theorem scale_isSome {steps : Nat} (finite : x.Finite) (down : power < 0)
    (enough : power.natAbs ≤ 308 * (steps + 1)) : (scale steps x power).isSome := by
  fun_induction scale steps x power with
  | case1 => omega
  | case2 => exact Binary64.divPow10_isSome finite (by omega) (by omega)
  | case3 => rfl
  | case4 => omega
  | case5 => omega
  | case6 x power far nonzero up steps ih =>
    obtain ⟨z, divided⟩ := Option.isSome_iff_exists.mp
      (Binary64.divPow10_isSome finite (k := 308) (by decide) (Nat.le_refl _))
    rw [divided]
    exact ih z (Binary64.divPow10_finite divided) (by omega) (by omega)

/-! ## Rounding a numeral -/

theorem realOf?_finite {n : Number} (read : realOf? negative m power = some n) :
    ∃ x : Binary64, n = .real x ∧ x.Finite := by
  obtain ⟨x, rounded, read⟩ := Option.bind_eq_some_iff.mp read
  obtain ⟨y, scaled, read⟩ := Option.bind_eq_some_iff.mp read
  cases read
  have finite := scale_finite (Binary64.ofRatio_finite rounded) scaled
  exact ⟨{ y with negative }, rfl, finite.short, finite.least, finite.greatest⟩

theorem ofRatio_natural (small : (m : ℚ) < limit) :
    ∃ x, Binary64.ofRatio false m 1 = some x ∧ x.Finite := by
  have quotient : (m : ℚ) / (1 : Nat) = m := by rw [Nat.cast_one, div_one]
  obtain ⟨x, rounded⟩ := Option.isSome_iff_exists.mp
    (Binary64.ofRatio_isSome false (quotient.symm ▸ small))
  exact ⟨x, rounded, Binary64.ofRatio_finite rounded⟩

/-- Digits behind the point never lead beyond the limit. -/
theorem realOf?_isSome_of_neg (small : m < UInt64.size) (down : power < 0) :
    (realOf? negative m power).isSome := by
  have within : (m : ℚ) < limit := by
    have most : UInt64.size ≤ (2 ^ 54 - 1) * 2 ^ 970 := by decide +kernel
    rw [Binary64.limit_eq]
    exact Nat.cast_lt.mpr (Nat.lt_of_lt_of_le small most)
  obtain ⟨x, rounded, finite⟩ := ofRatio_natural within
  have steps : power.natAbs ≤ 308 * (power.natAbs / 308 + 1 + 1) := by omega
  obtain ⟨y, scaled⟩ := Option.isSome_iff_exists.mp (scale_isSome finite down steps)
  rw [realOf?, rounded]
  show ((scale (power.natAbs / 308 + 1) x power).bind fun y => some _).isSome
  rw [scaled]
  rfl

/-- Digits before the point must stay below it, with what two roundings add. -/
theorem realOf?_isSome {k : Nat} (some_ : 0 < m) (few : k ≤ 308)
    (small : (m : ℚ) * 10 ^ k * (1 + 1 / 2 ^ 53) ^ 2 < limit) :
    (realOf? negative m k).isSome := by
  have ten : (1 : ℚ) ≤ 10 ^ k := one_le_pow₀ (by norm_num)
  have one_le : (1 : ℚ) ≤ m := by exact_mod_cast some_
  have within : (m : ℚ) < limit := by
    have grows : (1 : ℚ) ≤ (1 + 1 / 2 ^ 53) ^ 2 := by norm_num
    refine lt_of_le_of_lt ?_ small
    calc (m : ℚ) = m * 1 * 1 := by ring
      _ ≤ (m : ℚ) * 10 ^ k * (1 + 1 / 2 ^ 53) ^ 2 := by gcongr
  obtain ⟨x, rounded, finite⟩ := ofRatio_natural within
  have quotient : (m : ℚ) / (1 : Nat) = m := by rw [Nat.cast_one, div_one]
  have close := Binary64.ofRatio_close (quotient.symm ▸ one_le) rounded
  rw [quotient] at close
  have product : x.magnitude * (10 ^ k * (1 + 1 / 2 ^ 53)) < limit := by
    have grown : x.magnitude ≤ m * (1 + 1 / 2 ^ 53) := by
      have := (abs_le.mp close).2
      linarith
    calc x.magnitude * (10 ^ k * (1 + 1 / 2 ^ 53))
        ≤ (m : ℚ) * (1 + 1 / 2 ^ 53) * (10 ^ k * (1 + 1 / 2 ^ 53)) := by gcongr
      _ = (m : ℚ) * 10 ^ k * (1 + 1 / 2 ^ 53) ^ 2 := by ring
      _ < limit := small
  obtain ⟨y, multiplied⟩ := Option.isSome_iff_exists.mp (Binary64.mulPow10_isSome few product)
  have scaled : scale (k / 308 + 1) x k = some y := by
    rw [scale, Int.natAbs_natCast, if_pos few, if_pos (Int.natCast_nonneg k), multiplied]
  rw [realOf?, rounded]
  show ((scale (k / 308 + 1) x k).bind fun y => some _).isSome
  rw [scaled]
  rfl

/-! ## Numerals with a point or an exponent -/

theorem absorb_append {ds es : List Nat} (fits : Numeral.ofDigits 10 (ds ++ es) < UInt64.size) :
    absorb 0 ds = (Numeral.ofDigits 10 ds, []) ∧
      absorb (Numeral.ofDigits 10 ds) es = (Numeral.ofDigits 10 (ds ++ es), []) := by
  rw [Text.Numeral.ofDigits_append] at fits ⊢
  exact ⟨absorb_eq (Nat.lt_of_le_of_lt (le_foldl_digits _ es) fits), absorb_eq fits⟩

variable {ds es : List Nat}

/-- Of a numeral with a point all digits are taken, if 64 bits hold them. -/
theorem value?_point (some_ : es ≠ [])
    (fits : Numeral.ofDigits 10 (ds ++ es) < UInt64.size) :
    (⟨negative, ds, es, none⟩ : Numeral).value? =
      realOf? negative (Numeral.ofDigits 10 (ds ++ es)) (-(es.length : Nat)) := by
  obtain ⟨whole, fraction⟩ := absorb_append fits
  have pointed : es.isEmpty = false := by simpa using some_
  unfold Numeral.value?
  simp only [whole, fraction, pointed, Bool.false_and, Bool.false_eq_true, if_false,
    List.length_nil, Nat.sub_zero]
  congr 1
  omega

/-- Of a numeral with an exponent, too. -/
theorem value?_mark {down : Bool} {e : Nat} (near : e < 0x80000000)
    (fits : Numeral.ofDigits 10 (ds ++ es) < UInt64.size) :
    (⟨negative, ds, es, some (down, Numeral.digitValues e)⟩ : Numeral).value? =
      realOf? negative (Numeral.ofDigits 10 (ds ++ es))
        ((if down then -(e : Int) else e) - (es.length : Nat)) := by
  obtain ⟨whole, fraction⟩ := absorb_append fits
  unfold Numeral.value?
  simp only [whole, fraction, Option.isNone_some, Bool.and_false, Bool.false_eq_true, if_false,
    List.length_nil, Nat.sub_zero, Text.Numeral.ofDigits_digitValues, if_neg (Nat.not_le_of_lt near)]
  congr 1
  split <;> omega

/-- The text of a fraction denotes its digits at their place, or more digits behind the
point. -/
theorem value?_placed (negative : Bool) {digits : Nat} (few : digits ≤ 10 ^ 17) (low : -346 ≤ power)
    (high : power ≤ 308) :
    ∃ m p, (placed negative (Numeral.digitValues digits) power).value? = realOf? negative m p ∧
      m < UInt64.size ∧ (p < 0 ∨ m = digits ∧ p = power) := by
  have size : UInt64.size = 2 ^ 64 := rfl
  have fits : digits < UInt64.size := by omega
  have denoted := Text.Numeral.ofDigits_digitValues digits
  have short : (Numeral.digitValues digits).length ≤ 18 :=
    (Text.Numeral.length_digitValues_le_iff (by decide)).mpr (by omega)
  have some_ := Text.Numeral.digitValues_ne_nil digits
  have below : digits < 10 ^ (Numeral.digitValues digits).length :=
    (Text.Numeral.length_digitValues_le_iff (List.length_pos_iff.mpr some_)).mp (Nat.le_refl _)
  generalize Numeral.digitValues digits = ds at denoted short some_ below ⊢
  have positive := List.length_pos_iff.mpr some_
  unfold placed
  simp only
  split
  · rename_i within
    obtain ⟨k, rfl⟩ := Int.eq_ofNat_of_zero_le within.1
    have whole : Numeral.ofDigits 10 (ds ++ List.replicate k 0 ++ [0]) = digits * 10 ^ (k + 1) := by
      rw [List.append_assoc, ← List.replicate_succ', Text.Numeral.ofDigits_append_zeros, denoted]
    have small : digits * 10 ^ (k + 1) < UInt64.size := by
      calc digits * 10 ^ (k + 1) < 10 ^ ds.length * 10 ^ (k + 1) :=
            Nat.mul_lt_mul_of_pos_right below (Nat.pow_pos (by decide))
        _ = 10 ^ (ds.length + (k + 1)) := (Nat.pow_add ..).symm
        _ ≤ 10 ^ 17 := Nat.pow_le_pow_right (by decide) (by omega)
        _ < UInt64.size := by decide
    refine ⟨digits * 10 ^ (k + 1), -1, ?_, small, .inl (by decide)⟩
    rw [Int.toNat_natCast, value?_point (by simp) (whole ▸ small), whole]
    rfl
  split
  · rename_i notBefore within
    obtain ⟨k, point⟩ : ∃ k : Nat, (ds.length : Int) + power = k :=
      Int.eq_ofNat_of_zero_le (by omega)
    have down : power < 0 := by omega
    have all : Numeral.ofDigits 10 (ds.take k ++ ds.drop k) = digits := by
      rw [List.take_append_drop, denoted]
    have length : (ds.drop k).length = ds.length - k := List.length_drop
    refine ⟨digits, power, ?_, fits, .inl down⟩
    have some_ : ds.drop k ≠ [] := by
      intro none
      rw [none, List.length_nil] at length
      omega
    rw [point, Int.toNat_natCast, value?_point some_ (all ▸ fits), all, length]
    congr 1
    omega
  split
  · rename_i notBefore notWithin within
    have down : power < 0 := by omega
    have all (k : Nat) : Numeral.ofDigits 10 ([0] ++ (List.replicate k 0 ++ ds)) = digits := by
      rw [← List.append_assoc, ← List.replicate_one, List.replicate_append_replicate,
        Text.Numeral.ofDigits_zeros, denoted]
    refine ⟨digits, power, ?_, fits, .inl down⟩
    rw [value?_point (by simp [some_]) ((all _).symm ▸ fits), all, List.length_append,
      List.length_replicate]
    congr 1
    omega
  · rename_i notBefore notWithin notBehind
    have all : Numeral.ofDigits 10 (ds.take 1 ++ ds.drop 1) = digits := by
      rw [List.take_append_drop, denoted]
    have length : (ds.drop 1).length = ds.length - 1 := List.length_drop
    refine ⟨digits, power, ?_, fits, .inr ⟨rfl, rfl⟩⟩
    rw [value?_mark (by omega) (all ▸ fits), all, length]
    congr 1
    simp only [decide_eq_true_eq]
    split <;> omega

/-! ## Fractions -/

/-- The number can be written and read again. -/
def Number.Legible (n : Number) : Prop := n.Plain ∧ n.numeral.value?.isSome

/-- The two greatest fractions are read from their texts. -/
theorem value?_greatest (short : x.significand < 2 ^ 53) (great : 2 ^ 53 ≤ x.significand + 2)
    (power : x.power = Binary64.greatestPower) : (Number.real x).numeral.value?.isSome := by
  obtain ⟨negative, significand, _⟩ := x
  simp only at short great power
  subst power
  obtain rfl | rfl : significand = 2 ^ 53 - 1 ∨ significand = 2 ^ 53 - 2 := by omega
  · cases negative <;> decide +kernel
  · cases negative <;> decide +kernel

/-- A fraction can be written and read again. -/
theorem legible_of_finite (finite : x.Finite) : (Number.real x).Legible := by
  cases zero : x.isZero with
  | true =>
    refine ⟨fun nonzero => absurd (zero.symm.trans nonzero) (by decide), ?_⟩
    simp only [Number.numeral, zero, if_true]
    cases x.negative <;> decide +kernel
  | false =>
    have fits := Shortest.shortest_fits finite zero
    refine ⟨fun _ => fits.some_, ?_⟩
    by_cases greatest : x.power = Binary64.greatestPower ∧ 2 ^ 53 ≤ x.significand + 2
    · exact value?_greatest finite.short greatest.2 greatest.1
    · simp only [Number.numeral, zero, Bool.false_eq_true, if_false]
      obtain ⟨m, p, denoted, small, place⟩ := value?_placed x.negative fits.few
        fits.place (fits.power_le finite)
      rw [denoted]
      by_cases down : p < 0
      · exact realOf?_isSome_of_neg small down
      · obtain ⟨rfl, rfl⟩ : m = _ ∧ p = _ := place.resolve_left down
        obtain ⟨k, up⟩ := Int.eq_ofNat_of_zero_le (Int.not_lt.mp down)
        have most := fits.power_le finite
        have below := fits.lt_limit finite greatest
        rw [Shortest.Digits.value, up, zpow_natCast] at below
        rw [up]
        exact realOf?_isSome (Nat.pos_of_ne_zero fits.some_) (by omega) below

/-! ## Numbers that were read -/

theorem absorb_lt {n : Nat} (ds : List Nat) (small : n < UInt64.size) :
    (absorb n ds).1 < UInt64.size := by
  induction ds generalizing n with
  | nil => exact small
  | cons d ds ih =>
    rw [absorb]
    split
    · rename_i fits
      exact ih fits
    · exact small

/-- The number is a whole one of 64 bits, signed or unsigned, or a fraction of 64 bits. -/
def Number.Sized : Number → Prop
  | .whole i => -0x8000000000000000 ≤ i ∧ i < UInt64.size
  | .real x => x.Finite

theorem sized_of_realOf? {n : Number} (read : realOf? negative m power = some n) : n.Sized := by
  obtain ⟨x, rfl, finite⟩ := realOf?_finite read
  exact finite

theorem sized_of_read {n : Number} (read : n.Read) : n.Sized := by
  obtain ⟨numeral, read⟩ := read
  have small : (absorb 0 numeral.whole).1 < UInt64.size := absorb_lt _ (by decide)
  unfold Numeral.value? at read
  generalize absorb 0 numeral.whole = taken at read small
  obtain ⟨m, dropped⟩ := taken
  simp only at read small
  split at read
  · split at read
    · exact sized_of_realOf? read
    split at read
    · cases read
      exact ⟨by omega, by exact_mod_cast small⟩
    split at read
    · cases read
      exact Binary64.zero_finite true
    split at read
    · cases read
      exact ⟨by omega, by omega⟩
    · exact sized_of_realOf? read
  · split at read
    · exact sized_of_realOf? read
    · split at read
      · split at read
        · cases read
        · cases read
          exact Binary64.zero_finite _
      · exact sized_of_realOf? read

/-- **Every number that was read can be written and read again.** -/
theorem legible_of_read {n : Number} (read : n.Read) : n.Legible := by
  have sized := sized_of_read read
  cases n with
  | whole i =>
    refine ⟨trivial, ?_⟩
    rw [value?_whole sized.1 sized.2]
    rfl
  | real x => exact legible_of_finite sized

/-! ## Objects that were read -/

namespace Value

mutual

theorem isSome_reread (v : Value) (legible : v.Each Number.Legible) : v.reread.isSome := by
  cases v with
  | null | flag | text => rfl
  | number n =>
    rw [reread, Option.isSome_map]
    exact legible.2
  | array items =>
    rw [reread, Option.isSome_map]
    exact isSome_rereadItems items legible
  | object members =>
    rw [reread, Option.isSome_map]
    exact isSome_rereadMembers [] members legible

theorem isSome_rereadItems (vs : List Value) (legible : EachItem Number.Legible vs) :
    (rereadItems vs).isSome := by
  cases vs with
  | nil => rfl
  | cons v vs =>
    obtain ⟨w, first⟩ := Option.isSome_iff_exists.mp (isSome_reread v legible.1)
    obtain ⟨ws, rest⟩ := Option.isSome_iff_exists.mp (isSome_rereadItems vs legible.2)
    rw [rereadItems, first, rest]
    rfl

theorem isSome_rereadMembers (before : Members) (ms : List (String × Value))
    (legible : EachMember Number.Legible ms) : (rereadMembers before ms).isSome := by
  cases ms with
  | nil => rfl
  | cons m ms =>
    obtain ⟨name, v⟩ := m
    obtain ⟨w, first⟩ := Option.isSome_iff_exists.mp (isSome_reread v legible.1)
    rw [rereadMembers, first]
    exact isSome_rereadMembers (insertMember name w before) ms legible.2

end

end Value

/-- **An object that was read can be read again from its text.** -/
theorem decodeText_render_of_decoded {ms : Members}
    (decoded : (Value.object ms).Decoded deepest) :
    ∃ others, decodeText Decoder.members (Utf8.encode (Value.object ms).render) = .ok others := by
  have legible : Value.EachMember Number.Legible ms :=
    Value.EachMember.imp (fun _ => legible_of_read) ms decoded.1
  have plain := Value.EachMember.imp (fun _ both => both.1) ms legible
  obtain ⟨others, found⟩ := Option.isSome_iff_exists.mp (Value.isSome_rereadMembers [] ms legible)
  refine ⟨others, ?_⟩
  rw [decodeText_render plain decoded.2, found]
  rfl

end PortPool.Json
