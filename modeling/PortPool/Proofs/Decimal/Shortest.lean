/-
# PortPool.Proofs.Decimal.Shortest -- what the shortest digits are good for

The digits that a binary fraction is written with are not zero, are at most seventeen,
and denote no more than what still rounds to the fraction (`shortest_fits`).  A reader
can hence take all of them, and finds the number within reach.  None of this depends on
whether one of the grids was found to hold a neighbour that reads back: where none is,
the digits are those of the finest grid, below the value.
-/
import PortPool.Decimal.Shortest
import PortPool.Proofs.Decimal.Binary64
import PortPool.Proofs.Text.Numeral

namespace PortPool.Decimal

set_option autoImplicit false

open PortPool.Text (Numeral.digits)

namespace Shortest

/-- The number that the digits denote. -/
def Digits.value (d : Digits) : ℚ := d.digits * (10 : ℚ) ^ d.power

variable {x : Binary64} {i : Interval} {num den k : Nat} {power : Int}

/-! ## The interval -/

/-- A quarter of the last bit, as a quotient. -/
def quarter (x : Binary64) : Nat × Nat :=
  if 0 ≤ x.power then (Nat.pow 2 x.power.toNat, 4) else (1, 4 * Nat.pow 2 x.power.natAbs)

theorem quarter_pos (x : Binary64) : 0 < (quarter x).2 := by
  unfold quarter
  split
  · exact Nat.succ_pos 3
  · exact Nat.mul_pos (by decide) (Nat.pow_pos (by decide))

theorem quarter_eq (x : Binary64) :
    ((quarter x).1 : ℚ) / (quarter x).2 = (2 : ℚ) ^ x.power / 4 := by
  unfold quarter
  split
  · rename_i up
    obtain ⟨n, same⟩ := Int.eq_ofNat_of_zero_le up
    simp only [same, Int.toNat_natCast, Nat.pow_eq, Nat.cast_pow, Nat.cast_ofNat, zpow_natCast]
  · rename_i down
    obtain ⟨n, same⟩ : ∃ n : Nat, x.power = -(n : Int) := ⟨x.power.natAbs, by omega⟩
    simp only [same, Int.natAbs_neg, Int.natAbs_natCast, Nat.cast_mul, Nat.pow_eq, Nat.cast_pow,
      Nat.cast_ofNat, zpow_neg, zpow_natCast, Nat.cast_one]
    field_simp

theorem interval_den_pos (x : Binary64) : 0 < (interval x).den := quarter_pos x

theorem interval_value (x : Binary64) :
    ((interval x).value : ℚ) / (interval x).den = x.magnitude := by
  show ((4 * x.significand * (quarter x).1 : Nat) : ℚ) / (quarter x).2 = _
  rw [Nat.cast_mul, mul_div_assoc, quarter_eq, Binary64.magnitude]
  push_cast
  ring

theorem interval_high (x : Binary64) : ((interval x).high : ℚ) / (interval x).den =
    (x.significand + 1 / 2) * (2 : ℚ) ^ x.power := by
  show (((4 * x.significand + 2) * (quarter x).1 : Nat) : ℚ) / (quarter x).2 = _
  rw [Nat.cast_mul, mul_div_assoc, quarter_eq]
  push_cast
  ring

/-! ## Grids -/

/-- The grid point below is below, and the next one is above. -/
theorem below_spec (num : Nat) (power : Int) (positive : 0 < den) :
    (below num den power : ℚ) * (10 : ℚ) ^ power ≤ (num : ℚ) / den ∧
      (num : ℚ) / den < ((below num den power : ℚ) + 1) * (10 : ℚ) ^ power := by
  have den_pos : (0 : ℚ) < den := by exact_mod_cast positive
  unfold below
  by_cases up : 0 ≤ power
  · obtain ⟨n, rfl⟩ := Int.eq_ofNat_of_zero_le up
    have unit : 0 < den * 10 ^ n := Nat.mul_pos positive (Nat.pow_pos (by decide))
    have low : num / (den * 10 ^ n) * 10 ^ n * den ≤ num := by
      rw [Nat.mul_assoc, Nat.mul_comm (10 ^ n)]
      exact Nat.div_mul_le_self num (den * 10 ^ n)
    have high : num < (num / (den * 10 ^ n) + 1) * 10 ^ n * den := by
      rw [Nat.mul_assoc, Nat.mul_comm (10 ^ n), Nat.mul_comm]
      exact Nat.lt_mul_div_succ num unit
    rw [if_pos up, Int.toNat_natCast, zpow_natCast, le_div_iff₀ den_pos, div_lt_iff₀ den_pos,
      Nat.pow_eq]
    exact ⟨by exact_mod_cast low, by exact_mod_cast high⟩
  · obtain ⟨n, rfl⟩ : ∃ n : Nat, power = -(n : Int) := ⟨power.natAbs, by omega⟩
    have unit : (0 : ℚ) < 10 ^ n := by positivity
    have low : num * 10 ^ n / den * den ≤ num * 10 ^ n := Nat.div_mul_le_self _ den
    have high : num * 10 ^ n < (num * 10 ^ n / den + 1) * den := by
      rw [Nat.mul_comm (_ + 1)]
      exact Nat.lt_mul_div_succ _ positive
    rw [if_neg up, Int.natAbs_neg, Int.natAbs_natCast, zpow_neg, zpow_natCast, le_div_iff₀ den_pos,
      div_lt_iff₀ den_pos, Nat.pow_eq, mul_right_comm, ← div_eq_mul_inv, div_le_iff₀ unit,
      mul_right_comm, ← div_eq_mul_inv, lt_div_iff₀ unit]
    exact ⟨by exact_mod_cast low, by exact_mod_cast high⟩

/-- A point of a grid is below a value if it is in its interval. -/
theorem has_le (positive : 0 < i.den) (inside : i.has k power = true) :
    (k : ℚ) * (10 : ℚ) ^ power ≤ (i.high : ℚ) / i.den := by
  have den_pos : (0 : ℚ) < i.den := by exact_mod_cast positive
  unfold Interval.has at inside
  rw [le_div_iff₀ den_pos]
  by_cases up : 0 ≤ power
  · obtain ⟨n, rfl⟩ := Int.eq_ofNat_of_zero_le up
    have le : k * 10 ^ n * i.den ≤ i.high := by
      simp only [up, if_true, Int.toNat_natCast, Nat.pow_eq, Nat.mul_one] at inside
      split at inside <;> simp only [Bool.and_eq_true, decide_eq_true_eq] at inside <;> omega
    rw [zpow_natCast]
    exact_mod_cast le
  · obtain ⟨n, rfl⟩ : ∃ n : Nat, power = -(n : Int) := ⟨power.natAbs, by omega⟩
    have le : k * i.den ≤ i.high * 10 ^ n := by
      simp only [up, if_false, Int.natAbs_neg, Int.natAbs_natCast, Nat.pow_eq] at inside
      split at inside <;> simp only [Bool.and_eq_true, decide_eq_true_eq] at inside <;> omega
    rw [zpow_neg, zpow_natCast, mul_right_comm, ← div_eq_mul_inv, div_le_iff₀ (by positivity)]
    exact_mod_cast le

/-- A grid gives the neighbour below or the one above, if it is in the interval. -/
theorem onGrid_spec {d : Digits} (found : onGrid i power = some d) :
    d.power = power ∧ d.digits ≠ 0 ∧ d.digits ≤ below i.value i.den power + 1 ∧
      i.has d.digits power = true := by
  unfold onGrid at found
  simp only at found
  generalize below i.value i.den power = k at found ⊢
  have up : k + 1 ≠ 0 := Nat.succ_ne_zero k
  cases low : (i.has k power && k != 0) <;> cases high : i.has (k + 1) power <;>
    simp only [low, high] at found
  · cases found
  · cases found
    exact ⟨rfl, up, Nat.le_refl _, high⟩
  · obtain ⟨inside, nonzero⟩ := (Bool.and_eq_true _ _).mp low
    cases found
    exact ⟨rfl, by simpa using nonzero, Nat.le_succ k, inside⟩
  · obtain ⟨inside, nonzero⟩ := (Bool.and_eq_true _ _).mp low
    have nonzero : k ≠ 0 := by simpa using nonzero
    split at found
    · cases found
      exact ⟨rfl, nonzero, Nat.le_succ k, inside⟩
    · cases found
      exact ⟨rfl, up, Nat.le_refl _, high⟩
    · cases found
      rcases Nat.mod_two_eq_zero_or_one k with even | odd
      · rw [even]
        exact ⟨rfl, nonzero, Nat.le_succ k, inside⟩
      · rw [odd]
        exact ⟨rfl, up, Nat.le_refl _, high⟩

/-! ## The leading digit -/

/-- The value is below the next power of ten. -/
theorem lt_leading (positive : 0 < den) :
    (num : ℚ) / den < (10 : ℚ) ^ (leading num den + 1) := by
  have den_pos : (0 : ℚ) < den := by exact_mod_cast positive
  unfold leading
  split
  · have some_ : 0 < (Numeral.digits (num / den)).length := Nat.length_toDigits_pos
    have below : num / den < 10 ^ (Numeral.digits (num / den)).length :=
      (Nat.length_toDigits_le_iff (by decide) some_).mp (Nat.le_refl _)
    rw [sub_add_cancel, zpow_natCast, div_lt_iff₀ den_pos]
    exact_mod_cast (Nat.div_lt_iff_lt_mul positive).mp below
  · rename_i zero
    have less : num < den := (Nat.div_eq_zero_iff_lt positive).mp (not_not.mp zero)
    split
    · rename_i p found
      obtain ⟨-, -, first⟩ := List.find?_range_eq_some.mp found
      have short : num * 10 ^ p < den := by
        cases p with
        | zero => rwa [Nat.pow_zero, Nat.mul_one]
        | succ p =>
          have none := first p (Nat.lt_succ_self p)
          simp only [ne_eq, decide_not, Bool.not_not, decide_eq_true_eq] at none
          exact (Nat.div_eq_zero_iff_lt positive).mp none
      have place : Int.negSucc p + 1 = -(p : Int) := by omega
      rw [place, zpow_neg, zpow_natCast, div_lt_iff₀ den_pos, inv_mul_eq_div,
        lt_div_iff₀ (by positivity)]
      exact_mod_cast short
    · rw [div_lt_iff₀ den_pos]
      have : (num : ℚ) < den := by exact_mod_cast less
      norm_num
      linarith

/-- The value is not below the power of ten of its leading digit, if a digit shows up in
one of the places that are looked at. -/
theorem leading_le (positive : 0 < den) {p : Nat} (few : p < 330)
    (visible : num * Nat.pow 10 (p + 1) / den ≠ 0) :
    (10 : ℚ) ^ leading num den ≤ (num : ℚ) / den := by
  have den_pos : (0 : ℚ) < den := by exact_mod_cast positive
  unfold leading
  split
  · rename_i nonzero
    have some_ : 0 < (Numeral.digits (num / den)).length := Nat.length_toDigits_pos
    obtain ⟨l, length⟩ : ∃ l, (Numeral.digits (num / den)).length = l + 1 :=
      Nat.exists_eq_succ_of_ne_zero (by omega)
    have above : 10 ^ l ≤ num / den := by
      rcases Nat.eq_zero_or_pos l with rfl | more
      · exact Nat.pos_of_ne_zero nonzero
      · apply Nat.le_of_not_lt
        intro below
        have := (Nat.length_toDigits_le_iff (by decide) more).mpr below
        unfold Numeral.digits at length
        omega
    rw [length, Nat.cast_succ, add_sub_cancel_right, zpow_natCast, le_div_iff₀ den_pos]
    exact_mod_cast (Nat.le_div_iff_mul_le positive).mp above
  · split
    · rename_i p found
      obtain ⟨here, -, -⟩ := List.find?_range_eq_some.mp found
      have long : den ≤ num * 10 ^ (p + 1) := by
        simp only [ne_eq, decide_not, Bool.not_eq_true', decide_eq_false_iff_not] at here
        refine Nat.le_of_not_lt fun below => here ?_
        exact (Nat.div_eq_zero_iff_lt positive).mpr below
      rw [zpow_negSucc, le_div_iff₀ den_pos, inv_mul_eq_div, div_le_iff₀ (by positivity)]
      exact_mod_cast long
    · rename_i none
      have nowhere := List.find?_eq_none.mp none p (List.mem_range.mpr few)
      rw [decide_eq_true_eq, not_not] at nowhere
      exact absurd nowhere visible

theorem neg_le_leading (num den : Nat) : -330 ≤ leading num den := by
  unfold leading
  split
  · omega
  · split
    · rename_i p found
      have few := List.mem_range.mp (List.mem_of_find?_eq_some found)
      omega
    · decide

/-- On the grids from the leading digit on, the point below has one digit more on each. -/
theorem below_lt (num : Nat) (positive : 0 < den) (n : Nat) :
    below num den (leading num den - n) < 10 ^ (n + 1) := by
  have unit : (0 : ℚ) < (10 : ℚ) ^ (leading num den - n) := zpow_pos (by norm_num) _
  have less : (below num den (leading num den - n) : ℚ) * (10 : ℚ) ^ (leading num den - n) <
      (10 : ℚ) ^ (n + 1) * (10 : ℚ) ^ (leading num den - n) := by
    calc (below num den (leading num den - n) : ℚ) * (10 : ℚ) ^ (leading num den - n)
        ≤ (num : ℚ) / den := (below_spec num _ positive).1
      _ < (10 : ℚ) ^ (leading num den + 1) := lt_leading positive
      _ = (10 : ℚ) ^ (((n + 1 : Nat) : Int) + (leading num den - n)) := by
        congr 1
        push_cast
        ring
      _ = (10 : ℚ) ^ (n + 1) * (10 : ℚ) ^ (leading num den - n) := by
        rw [zpow_add₀ (by norm_num), zpow_natCast]
  exact_mod_cast lt_of_mul_lt_mul_right less unit.le

/-- On a grid finer than the leading digit, the point below is not zero. -/
theorem below_ne_zero (positive : 0 < den)
    (leads : (10 : ℚ) ^ leading num den ≤ (num : ℚ) / den) (n : Nat) :
    below num den (leading num den - n) ≠ 0 := by
  intro zero
  have above := (below_spec num (leading num den - n) positive).2
  rw [zero, Nat.cast_zero, zero_add, one_mul] at above
  have coarser : (10 : ℚ) ^ (leading num den - n) ≤ (10 : ℚ) ^ leading num den :=
    zpow_le_zpow_right₀ (by norm_num) (by omega)
  linarith

/-! ## The shortest digits -/

/-- Digits that a reader can take: not zero, at most seventeen, not too far behind the
point, and denoting at most what still rounds to the binary fraction. -/
structure Digits.Fits (d : Digits) (x : Binary64) : Prop where
  some_ : d.digits ≠ 0
  few : d.digits ≤ 10 ^ 17
  place : -346 ≤ d.power
  le : d.value ≤ (x.significand + 1 / 2) * (2 : ℚ) ^ x.power

theorem stripZeros_fits (fuel : Nat) {d : Digits} (fits : d.Fits x) :
    (stripZeros fuel d).Fits x := by
  induction fuel generalizing d with
  | zero => exact fits
  | succ fuel ih =>
    rw [stripZeros]
    split
    · rename_i stripped
      obtain ⟨nonzero, even⟩ := stripped
      have tenfold : d.digits = 10 * (d.digits / 10) := by omega
      have few := fits.few
      have place := fits.place
      refine ih ⟨?_, ?_, ?_, ?_⟩
      · show d.digits / 10 ≠ 0
        omega
      · show d.digits / 10 ≤ 10 ^ 17
        omega
      · show -346 ≤ d.power + 1
        omega
      · refine le_trans (le_of_eq ?_) fits.le
        show ((d.digits / 10 : Nat) : ℚ) * (10 : ℚ) ^ (d.power + 1) = d.digits * (10 : ℚ) ^ d.power
        rw [zpow_add_one₀ (by norm_num), ← mul_assoc, mul_right_comm]
        congr 1
        rw [mul_comm]
        exact_mod_cast tenfold.symm
    · exact fits

/-- The value of a binary fraction shows a digit within 330 places behind the point. -/
theorem visible (finite : x.Finite) (nonzero : x.isZero = false) :
    ∃ p < 330, (interval x).value * Nat.pow 10 (p + 1) / (interval x).den ≠ 0 := by
  have some_ : 0 < x.significand := by
    have : x.significand ≠ 0 := by simpa [Binary64.isZero] using nonzero
    omega
  have least : (-1074 : Int) ≤ x.power := finite.least
  have near (n : Nat) (few : x.power.natAbs ≤ n) : 2 ^ x.power.natAbs ≤ 2 ^ n :=
    Nat.pow_le_pow_right (by decide) few
  obtain ⟨p, few, far⟩ : ∃ p < 330, 2 ^ 1074 ≤ 10 ^ (p + 1) :=
    ⟨329, by decide, by decide +kernel⟩
  refine ⟨p, few, Nat.ne_of_gt (Nat.div_pos ?_ (interval_den_pos x))⟩
  show (quarter x).2 ≤ 4 * x.significand * (quarter x).1 * Nat.pow 10 (p + 1)
  unfold quarter
  split
  · have full : 0 < x.significand * Nat.pow 2 x.power.toNat * Nat.pow 10 (p + 1) :=
      Nat.mul_pos (Nat.mul_pos some_ (Nat.pow_pos two_pos)) (Nat.pow_pos (by decide))
    show 4 ≤ 4 * x.significand * Nat.pow 2 x.power.toNat * Nat.pow 10 (p + 1)
    rw [Nat.mul_assoc 4, Nat.mul_assoc 4]
    exact Nat.le_mul_of_pos_right 4 full
  · show 4 * 2 ^ x.power.natAbs ≤ 4 * x.significand * 1 * 10 ^ (p + 1)
    calc 4 * 2 ^ x.power.natAbs ≤ 4 * 10 ^ (p + 1) :=
          Nat.mul_le_mul_left 4 (Nat.le_trans (near 1074 (by omega)) far)
      _ ≤ 4 * x.significand * 1 * 10 ^ (p + 1) := Nat.mul_le_mul_right _ (by omega)

/-- **The shortest digits of a binary fraction fit a reader.** -/
theorem shortest_fits (finite : x.Finite) (nonzero : x.isZero = false) : (shortest x).Fits x := by
  have den_pos := interval_den_pos x
  obtain ⟨p, near, shows⟩ := visible finite nonzero
  have leads := leading_le den_pos near shows
  have least := neg_le_leading (interval x).value (interval x).den
  rw [shortest, if_neg (by simp [nonzero])]
  simp only
  apply stripZeros_fits 20
  cases found : (List.range 17).findSome? fun n =>
      onGrid (interval x) (leading (interval x).value (interval x).den - (n : Nat)) with
  | none =>
    -- the finest grid, below the value
    have few := below_lt (interval x).value den_pos 16
    rw [Option.getD_none]
    refine ⟨below_ne_zero den_pos leads 16, Nat.le_of_lt few, ?_, ?_⟩
    · show -346 ≤ leading (interval x).value (interval x).den - 16
      omega
    · apply le_trans (below_spec _ _ den_pos).1
      rw [interval_value, Binary64.magnitude]
      gcongr
      linarith
  | some d =>
    obtain ⟨n, member, grid⟩ := List.exists_of_findSome?_eq_some found
    have finest : n < 17 := List.mem_range.mp member
    obtain ⟨power, nonzero, next, inside⟩ := onGrid_spec grid
    have few := below_lt (interval x).value den_pos n
    rw [Option.getD_some]
    refine ⟨nonzero, ?_, ?_, ?_⟩
    · calc d.digits ≤ 10 ^ (n + 1) := by omega
        _ ≤ 10 ^ 17 := Nat.pow_le_pow_right (by decide) (by omega)
    · show -346 ≤ d.power
      omega
    · rw [Digits.value, power, ← interval_high]
      exact has_le den_pos inside

/-! ## Within the limit -/

namespace Digits.Fits

variable {d : Digits}

theorem le_limit (fits : d.Fits x) (finite : x.Finite) : d.value ≤ Binary64.limit := by
  have short : (x.significand : ℚ) + 1 ≤ 2 ^ 53 := by exact_mod_cast finite.short
  have bits : (x.significand : ℚ) + 1 / 2 ≤ 2 ^ 53 - 1 / 2 := by linarith
  have power : (2 : ℚ) ^ x.power ≤ (2 : ℚ) ^ Binary64.greatestPower :=
    zpow_le_zpow_right₀ (by norm_num) finite.greatest
  exact le_trans fits.le (mul_le_mul bits power (zpow_nonneg (by norm_num) _) (by norm_num))

/-- Powers of ten beyond those that readers know do not occur. -/
theorem power_le (fits : d.Fits x) (finite : x.Finite) : d.power ≤ 308 := by
  by_contra large
  have one_le : (1 : ℚ) ≤ d.digits := by exact_mod_cast Nat.pos_of_ne_zero fits.some_
  have far (n : Nat) (less : (n : Int) ≤ d.power) : ((10 ^ n : Nat) : ℚ) ≤ d.value := by
    calc ((10 ^ n : Nat) : ℚ) = (10 : ℚ) ^ (n : Int) := by
          rw [zpow_natCast]
          push_cast
          rfl
      _ ≤ (10 : ℚ) ^ d.power := zpow_le_zpow_right₀ (by norm_num) less
      _ ≤ d.value := le_mul_of_one_le_left (zpow_nonneg (by norm_num) _) one_le
  have most : (2 ^ 54 - 1) * 2 ^ 970 < 10 ^ 309 := by decide +kernel
  have near := le_trans (far 309 (by omega)) (fits.le_limit finite)
  rw [Binary64.limit_eq] at near
  exact Nat.not_le_of_lt most (Nat.cast_le.mp near)

/-- Except for the two greatest fractions, two roundings do not reach the limit. -/
theorem lt_limit (fits : d.Fits x) (finite : x.Finite)
    (lesser : ¬(x.power = Binary64.greatestPower ∧ 2 ^ 53 ≤ x.significand + 2)) :
    d.value * (1 + 1 / 2 ^ 53) ^ 2 < Binary64.limit := by
  have unit : (0 : ℚ) < (2 : ℚ) ^ Binary64.greatestPower := zpow_pos (by norm_num) _
  have greatest := finite.greatest
  have below : d.value ≤ (2 ^ 53 - 5 / 2) * (2 : ℚ) ^ Binary64.greatestPower := by
    apply le_trans fits.le
    by_cases top : x.power = Binary64.greatestPower
    · have short : x.significand + 3 ≤ 2 ^ 53 := by omega
      have short : (x.significand : ℚ) + 3 ≤ 2 ^ 53 := by exact_mod_cast short
      rw [top]
      exact mul_le_mul_of_nonneg_right (by linarith) unit.le
    · have short : (x.significand : ℚ) + 1 ≤ 2 ^ 53 := by exact_mod_cast finite.short
      have half : (2 : ℚ) ^ x.power * 2 ≤ (2 : ℚ) ^ Binary64.greatestPower := by
        rw [← zpow_add_one₀ (by norm_num)]
        exact zpow_le_zpow_right₀ (by norm_num) (by omega)
      calc ((x.significand : ℚ) + 1 / 2) * (2 : ℚ) ^ x.power
          ≤ 2 ^ 53 * (2 : ℚ) ^ x.power :=
            mul_le_mul_of_nonneg_right (by linarith) (zpow_nonneg (by norm_num) _)
        _ = 2 ^ 52 * ((2 : ℚ) ^ x.power * 2) := by ring
        _ ≤ 2 ^ 52 * (2 : ℚ) ^ Binary64.greatestPower := mul_le_mul_of_nonneg_left half (by norm_num)
        _ ≤ (2 ^ 53 - 5 / 2) * (2 : ℚ) ^ Binary64.greatestPower :=
            mul_le_mul_of_nonneg_right (by norm_num) unit.le
  calc d.value * (1 + 1 / 2 ^ 53) ^ 2
      ≤ (2 ^ 53 - 5 / 2) * (2 : ℚ) ^ Binary64.greatestPower * (1 + 1 / 2 ^ 53) ^ 2 :=
        mul_le_mul_of_nonneg_right below (by norm_num)
    _ = (2 ^ 53 - 5 / 2) * (1 + 1 / 2 ^ 53) ^ 2 * (2 : ℚ) ^ Binary64.greatestPower := by ring
    _ < Binary64.limit := mul_lt_mul_of_pos_right (by norm_num) unit

end Digits.Fits

end Shortest

end PortPool.Decimal
