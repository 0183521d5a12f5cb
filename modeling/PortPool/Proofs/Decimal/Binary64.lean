/-
# PortPool.Proofs.Decimal.Binary64 -- rounding to 53 bits

The magnitude of a binary fraction is a rational number here.  A quotient is rounded
under a power of two that leaves it 53 bits (`powerFor_spec`), so what comes out is
within half of the last bit (`ofRatio_spec`).  Two things follow that readers of
decimals need: only a quotient beyond `limit`, half a bit above the greatest binary
fraction, is refused (`ofRatio_isSome`), and a quotient of at least one grows or
shrinks by no more than the factor `1 ± 2^-53` (`ofRatio_close`).
-/
import Mathlib.Algebra.Order.Field.Power
import Mathlib.Algebra.Order.Field.Rat
import Mathlib.Tactic.FieldSimp
import Mathlib.Tactic.Linarith
import Mathlib.Tactic.NormNum
import Mathlib.Tactic.Positivity
import Mathlib.Tactic.Ring
import PortPool.Decimal.Binary64

namespace PortPool.Decimal.Binary64

set_option autoImplicit false

/-- The magnitude of a binary fraction. -/
def magnitude (x : Binary64) : ℚ := x.significand * (2 : ℚ) ^ x.power

/-- The binary fraction fits 64 bits. -/
structure Finite (x : Binary64) : Prop where
  short : x.significand < 2 ^ 53
  least : leastPower ≤ x.power
  greatest : x.power ≤ greatestPower

variable {num den : Nat} {power : Int} {negative : Bool}

/-! ## Quotients -/

theorem scaled_pos (positive : 0 < den) : 0 < (scaled num den power).2 := by
  unfold scaled
  split
  · exact Nat.mul_pos positive (Nat.pow_pos (by decide))
  · exact positive

/-- A scaled quotient is the quotient divided by the power of two. -/
theorem scaled_eq : ((scaled num den power).1 : ℚ) / (scaled num den power).2 =
    (num : ℚ) / den / (2 : ℚ) ^ power := by
  unfold scaled
  split
  · rename_i up
    obtain ⟨k, rfl⟩ := Int.eq_ofNat_of_zero_le up
    simp only [Int.toNat_natCast, Nat.cast_mul, Nat.pow_eq, Nat.cast_pow, Nat.cast_ofNat,
      zpow_natCast]
    rw [div_div]
  · rename_i down
    obtain ⟨k, rfl⟩ : ∃ k : Nat, power = -(k : Int) := ⟨power.natAbs, by omega⟩
    simp only [Int.natAbs_neg, Int.natAbs_natCast, Nat.cast_mul, Nat.pow_eq, Nat.cast_pow,
      Nat.cast_ofNat, zpow_neg, zpow_natCast, div_inv_eq_mul]
    rw [mul_div_right_comm]

theorem ratio_eq (x : Binary64) : (x.ratio.1 : ℚ) / x.ratio.2 = x.magnitude := by
  unfold ratio magnitude
  split
  · rename_i up
    obtain ⟨k, same⟩ := Int.eq_ofNat_of_zero_le up
    simp only [same, Int.toNat_natCast, Nat.cast_mul, Nat.pow_eq, Nat.cast_pow, Nat.cast_ofNat,
      zpow_natCast, Nat.cast_one, div_one]
  · rename_i down
    obtain ⟨k, same⟩ : ∃ k : Nat, x.power = -(k : Int) := ⟨x.power.natAbs, by omega⟩
    simp only [same, Int.natAbs_neg, Int.natAbs_natCast, Nat.pow_eq, Nat.cast_pow,
      Nat.cast_ofNat, zpow_neg, zpow_natCast]
    rfl

/-! ## Rounding -/

/-- The nearest natural is at most one half away. -/
theorem roundEven_near (num : Nat) (positive : 0 < den) :
    2 * (roundEven num den * den) ≤ 2 * num + den ∧
      2 * num ≤ 2 * (roundEven num den * den) + den := by
  have split_ := Nat.div_add_mod num den
  have small := Nat.mod_lt num positive
  rw [Nat.mul_comm] at split_
  unfold roundEven
  simp only
  split
  · omega
  split
  · rw [Nat.add_mul, Nat.one_mul]
    omega
  · rcases Nat.mod_two_eq_zero_or_one (num / den) with even | odd
    · rw [even, Nat.add_zero]
      omega
    · rw [odd, Nat.add_mul, Nat.one_mul]
      omega

theorem abs_roundEven_sub_le (num : Nat) (positive : 0 < den) :
    |(roundEven num den : ℚ) - (num : ℚ) / den| ≤ 1 / 2 := by
  have den_pos : (0 : ℚ) < den := by exact_mod_cast positive
  obtain ⟨low, high⟩ := roundEven_near num positive
  have low : 2 * ((roundEven num den : ℚ) * den) ≤ 2 * num + den := by exact_mod_cast low
  have high : 2 * (num : ℚ) ≤ 2 * (roundEven num den * den) + den := by exact_mod_cast high
  have whole : (num : ℚ) / den * den = num := div_mul_cancel₀ _ den_pos.ne'
  rw [abs_le]
  constructor
  · refine le_of_mul_le_mul_right ?_ den_pos
    rw [sub_mul, whole]
    linarith
  · refine le_of_mul_le_mul_right ?_ den_pos
    rw [sub_mul, whole]
    linarith

/-- The two logarithms enclose a quotient between powers of two. -/
theorem quotient_between (num_pos : 0 < num) (den_pos : 0 < den) :
    (2 : ℚ) ^ ((Nat.log2 num : Int) - Nat.log2 den - 1) ≤ (num : ℚ) / den ∧
      (num : ℚ) / den < (2 : ℚ) ^ ((Nat.log2 num : Int) - Nat.log2 den + 1) := by
  have den_pos' : (0 : ℚ) < den := by exact_mod_cast den_pos
  have num_low : (2 : ℚ) ^ (Nat.log2 num : Int) ≤ num := by
    rw [zpow_natCast]
    exact_mod_cast Nat.log2_self_le (Nat.ne_of_gt num_pos)
  have num_high : (num : ℚ) < (2 : ℚ) ^ ((Nat.log2 num : Int) + 1) := by
    exact_mod_cast Nat.lt_log2_self (n := num)
  have den_low : (2 : ℚ) ^ (Nat.log2 den : Int) ≤ den := by
    rw [zpow_natCast]
    exact_mod_cast Nat.log2_self_le (Nat.ne_of_gt den_pos)
  have den_high : (den : ℚ) < (2 : ℚ) ^ ((Nat.log2 den : Int) + 1) := by
    exact_mod_cast Nat.lt_log2_self (n := den)
  constructor
  · rw [le_div_iff₀ den_pos']
    calc (2 : ℚ) ^ ((Nat.log2 num : Int) - Nat.log2 den - 1) * den
        ≤ (2 : ℚ) ^ ((Nat.log2 num : Int) - Nat.log2 den - 1) *
            (2 : ℚ) ^ ((Nat.log2 den : Int) + 1) := by gcongr
      _ = (2 : ℚ) ^ (Nat.log2 num : Int) := by
        rw [← zpow_add₀ (by norm_num)]
        congr 1
        ring
      _ ≤ num := num_low
  · rw [div_lt_iff₀ den_pos']
    calc (num : ℚ) < (2 : ℚ) ^ ((Nat.log2 num : Int) + 1) := num_high
      _ = (2 : ℚ) ^ ((Nat.log2 num : Int) - Nat.log2 den + 1) * (2 : ℚ) ^ (Nat.log2 den : Int) := by
        rw [← zpow_add₀ (by norm_num)]
        congr 1
        ring
      _ ≤ (2 : ℚ) ^ ((Nat.log2 num : Int) - Nat.log2 den + 1) * den := by gcongr

/-- The scaled quotient has more than 53 bits. -/
theorem full_iff (positive : 0 < den) :
    2 * leastFull ≤ (scaled num den power).1 / (scaled num den power).2 ↔
      (2 : ℚ) ^ 53 * (2 : ℚ) ^ power ≤ (num : ℚ) / den := by
  have below : 0 < (scaled num den power).2 := scaled_pos positive
  have below' : (0 : ℚ) < (scaled num den power).2 := by exact_mod_cast below
  have full : 2 * leastFull = 2 ^ 53 := by decide
  have step : (2 : ℚ) ^ 53 * (2 : ℚ) ^ power ≤ (num : ℚ) / den ↔
      (2 : ℚ) ^ 53 ≤ ((scaled num den power).1 : ℚ) / (scaled num den power).2 := by
    rw [scaled_eq, le_div_iff₀ (zpow_pos (by norm_num) power)]
  rw [step, le_div_iff₀ below', Nat.le_div_iff_mul_le below, full]
  exact_mod_cast Iff.rfl

/-- The power leaves 53 bits before the point, or fewer if it is the least. -/
theorem powerFor_spec (num_pos : 0 < num) (den_pos : 0 < den) :
    leastPower ≤ powerFor num den ∧
      (num : ℚ) / den < (2 : ℚ) ^ 53 * (2 : ℚ) ^ powerFor num den ∧
      (powerFor num den = leastPower ∨
        (2 : ℚ) ^ 52 * (2 : ℚ) ^ powerFor num den ≤ (num : ℚ) / den) := by
  obtain ⟨low, high⟩ := quotient_between num_pos den_pos
  unfold powerFor
  simp only [full_iff den_pos]
  generalize first : max leastPower ((Nat.log2 num : Int) - (Nat.log2 den : Int) - 53) = guess
  split
  · rename_i full
    have double : (2 : ℚ) ^ (guess + 1) = 2 * (2 : ℚ) ^ guess := by
      rw [zpow_add_one₀ (by norm_num), mul_comm]
    refine ⟨by omega, ?_, .inr ?_⟩
    · -- the guess is at most one bit short
      calc (num : ℚ) / den < (2 : ℚ) ^ ((Nat.log2 num : Int) - Nat.log2 den + 1) := high
        _ ≤ (2 : ℚ) ^ (53 + (guess + 1)) := zpow_le_zpow_right₀ (by norm_num) (by omega)
        _ = (2 : ℚ) ^ 53 * (2 : ℚ) ^ (guess + 1) := by
          rw [zpow_add₀ (by norm_num)]
          rfl
    · rw [double]
      linarith
  · rename_i notFull
    refine ⟨by omega, not_le.mp notFull, ?_⟩
    rcases Int.le_total ((Nat.log2 num : Int) - Nat.log2 den - 53) leastPower with least | more
    · exact .inl (by omega)
    · refine .inr ?_
      calc (2 : ℚ) ^ 52 * (2 : ℚ) ^ guess = (2 : ℚ) ^ (52 + guess) := by
            rw [zpow_add₀ (by norm_num)]
            rfl
        _ = (2 : ℚ) ^ ((Nat.log2 num : Int) - Nat.log2 den - 1) := by
            congr 1
            omega
        _ ≤ (num : ℚ) / den := low

/-- **Rounding.**  What a quotient is rounded to is at most half of the last bit away
from it; it is refused only if its power is too large. -/
theorem ofRatio_spec (negative : Bool) (num_pos : 0 < num) (den_pos : 0 < den) :
    ∃ x : Binary64, x.significand < 2 ^ 53 ∧ leastPower ≤ x.power ∧
      |x.magnitude - (num : ℚ) / den| ≤ (2 : ℚ) ^ powerFor num den / 2 ∧
      (x.power = powerFor num den ∨
        x.power = powerFor num den + 1 ∧ x.significand = 2 ^ 52) ∧
      ofRatio negative num den = if greatestPower < x.power then none else some x := by
  obtain ⟨least, high, -⟩ := powerFor_spec num_pos den_pos
  have below : 0 < (scaled num den (powerFor num den)).2 := scaled_pos den_pos
  have unit : (0 : ℚ) < (2 : ℚ) ^ powerFor num den := zpow_pos (by norm_num) _
  have near := abs_roundEven_sub_le (scaled num den (powerFor num den)).1 below
  rw [scaled_eq] at near
  have inside : ¬(num = 0 ∨ den = 0) := by omega
  unfold ofRatio
  rw [if_neg inside]
  simp only
  generalize roundEven _ _ = m at near ⊢
  -- the rounded significand times its unit
  have close : |(m : ℚ) * (2 : ℚ) ^ powerFor num den - (num : ℚ) / den| ≤
      (2 : ℚ) ^ powerFor num den / 2 := by
    have scaled_ : (m : ℚ) * (2 : ℚ) ^ powerFor num den - (num : ℚ) / den =
        ((m : ℚ) - (num : ℚ) / den / (2 : ℚ) ^ powerFor num den) * (2 : ℚ) ^ powerFor num den := by
      rw [sub_mul, div_mul_cancel₀ _ unit.ne']
    rw [scaled_, abs_mul, abs_of_pos unit]
    linarith [mul_le_mul_of_nonneg_right near unit.le]
  have small : m ≤ 2 ^ 53 := by
    have : (num : ℚ) / den / (2 : ℚ) ^ powerFor num den < 2 ^ 53 := by rwa [div_lt_iff₀ unit]
    have upper : (m : ℚ) < (2 ^ 53 : Nat) + 1 := by
      push_cast
      linarith [(abs_le.mp near).2]
    have : m < 2 ^ 53 + 1 := by exact_mod_cast upper
    omega
  by_cases full : m = 2 * leastFull
  · refine ⟨⟨negative, leastFull, powerFor num den + 1⟩, ?_, Int.le_add_one least, ?_,
      .inr ⟨rfl, rfl⟩, ?_⟩
    · show leastFull < 2 ^ 53
      decide
    · have same : magnitude ⟨negative, leastFull, powerFor num den + 1⟩ =
          (m : ℚ) * (2 : ℚ) ^ powerFor num den := by
        rw [magnitude, full, zpow_add_one₀ (by norm_num)]
        push_cast
        ring
      rwa [same]
    · rw [if_pos full]
  · refine ⟨⟨negative, m, powerFor num den⟩, ?_, least, close, .inl rfl, ?_⟩
    · have : 2 * leastFull = 2 ^ 53 := by decide
      show m < 2 ^ 53
      omega
    · rw [if_neg full]

/-! ## What is refused, and how much is lost -/

/-- Half a bit above the greatest binary fraction. -/
def limit : ℚ := (2 ^ 53 - 1 / 2) * (2 : ℚ) ^ greatestPower

theorem limit_eq : limit = ((2 ^ 54 - 1) * 2 ^ 970 : Nat) := by
  have halves (n : Nat) : (2 ^ 53 - 1 / 2) * (2 : ℚ) ^ (n + 1) = ((2 ^ 54 - 1) * 2 ^ n : Nat) := by
    push_cast
    ring
  show (2 ^ 53 - 1 / 2) * (2 : ℚ) ^ ((970 + 1 : Nat) : Int) = _
  rw [zpow_natCast]
  exact halves 970

theorem zero_finite (negative : Bool) : (zero negative).Finite where
  short := by
    show 0 < 2 ^ 53
    decide
  least := Int.le_refl _
  greatest := by
    show leastPower ≤ greatestPower
    decide

theorem Finite.magnitude_lt {x : Binary64} (finite : x.Finite) : x.magnitude < limit := by
  have short : (x.significand : ℚ) ≤ 2 ^ 53 - 1 := by
    have : x.significand + 1 ≤ 2 ^ 53 := finite.short
    have : (x.significand : ℚ) + 1 ≤ 2 ^ 53 := by exact_mod_cast this
    linarith
  have power : (2 : ℚ) ^ x.power ≤ (2 : ℚ) ^ greatestPower :=
    zpow_le_zpow_right₀ (by norm_num) finite.greatest
  have unit : (0 : ℚ) < (2 : ℚ) ^ greatestPower := zpow_pos (by norm_num) _
  have some_ : (0 : ℚ) ≤ (2 : ℚ) ^ x.power := zpow_nonneg (by norm_num) _
  calc x.magnitude ≤ (2 ^ 53 - 1) * (2 : ℚ) ^ greatestPower :=
        mul_le_mul short power some_ (by norm_num)
    _ < limit := mul_lt_mul_of_pos_right (by norm_num) unit

/-- What is rounded fits 64 bits. -/
theorem ofRatio_finite {x : Binary64} (rounded : ofRatio negative num den = some x) :
    x.Finite := by
  by_cases none : num = 0 ∨ den = 0
  · rw [ofRatio, if_pos none, Option.some.injEq] at rounded
    exact rounded ▸ zero_finite negative
  · have num_pos : 0 < num := by omega
    have den_pos : 0 < den := by omega
    obtain ⟨y, short, least, -, -, result⟩ := ofRatio_spec negative num_pos den_pos
    rw [result] at rounded
    split at rounded
    · cases rounded
    · rename_i within
      cases rounded
      exact ⟨short, least, Int.not_lt.mp within⟩

/-- **Only what is beyond the limit is refused.** -/
theorem ofRatio_isSome (negative : Bool) (small : (num : ℚ) / den < limit) :
    (ofRatio negative num den).isSome := by
  by_cases none : num = 0 ∨ den = 0
  · rw [ofRatio, if_pos none]
    rfl
  · have num_pos : 0 < num := by omega
    have den_pos : 0 < den := by omega
    obtain ⟨x, -, -, near, power, result⟩ := ofRatio_spec negative num_pos den_pos
    obtain ⟨-, -, full⟩ := powerFor_spec num_pos den_pos
    suffices within : ¬greatestPower < x.power by
      rw [result, if_neg within]
      rfl
    intro beyond
    have greatest : (greatestPower : Int) = 971 := rfl
    have unit : (0 : ℚ) < (2 : ℚ) ^ greatestPower := zpow_pos (by norm_num) _
    refine absurd small (not_lt.mpr ?_)
    rcases power with same | ⟨next, carried⟩
    · have far : (2 : ℚ) ^ greatestPower * 2 ≤ (2 : ℚ) ^ powerFor num den := by
        rw [← zpow_add_one₀ (by norm_num)]
        exact zpow_le_zpow_right₀ (by norm_num) (by omega)
      rcases full with least | full
      · have : (leastPower : Int) = -1074 := rfl
        omega
      · rw [limit]
        linarith
    · have far : (2 : ℚ) ^ greatestPower ≤ (2 : ℚ) ^ powerFor num den :=
        zpow_le_zpow_right₀ (by norm_num) (by omega)
      have whole : x.magnitude = 2 ^ 53 * (2 : ℚ) ^ powerFor num den := by
        rw [magnitude, next, carried, zpow_add_one₀ (by norm_num)]
        push_cast
        ring
      rw [whole] at near
      have := (abs_le.mp near).2
      rw [limit]
      linarith

/-- **A quotient of at least one is met within the last of 53 bits.** -/
theorem ofRatio_close {x : Binary64} (one_le : 1 ≤ (num : ℚ) / den)
    (rounded : ofRatio negative num den = some x) :
    |x.magnitude - (num : ℚ) / den| ≤ (num : ℚ) / den / 2 ^ 53 := by
  have num_pos : 0 < num := by
    apply Nat.pos_of_ne_zero
    rintro rfl
    norm_num at one_le
  have den_pos : 0 < den := by
    apply Nat.pos_of_ne_zero
    rintro rfl
    norm_num at one_le
  obtain ⟨y, -, -, near, -, result⟩ := ofRatio_spec negative num_pos den_pos
  obtain ⟨-, -, full⟩ := powerFor_spec num_pos den_pos
  have same : y = x := by
    rw [result] at rounded
    split at rounded
    · cases rounded
    · exact Option.some.inj rounded
  rw [same] at near
  apply le_trans near
  rw [le_div_iff₀ (by norm_num)]
  rcases full with least | full
  · have tiny : (2 : ℚ) ^ leastPower ≤ (2 : ℚ) ^ (-52 : Int) :=
      zpow_le_zpow_right₀ (by norm_num) (by decide)
    rw [least]
    norm_num at tiny ⊢
    linarith
  · linarith

/-! ## Powers of ten -/

variable {x y : Binary64} {k : Nat}

theorem magnitude_nonneg (x : Binary64) : 0 ≤ x.magnitude :=
  mul_nonneg (Nat.cast_nonneg _) (zpow_nonneg (by norm_num) _)

/-- A power of ten that readers multiply or divide by, rounded. -/
theorem ofRatio_ten (few : k ≤ 308) : ∃ ten, ofRatio false (Nat.pow 10 k) 1 = some ten ∧
    |ten.magnitude - 10 ^ k| ≤ (10 : ℚ) ^ k / 2 ^ 53 := by
  have quotient : ((Nat.pow 10 k : Nat) : ℚ) / (1 : Nat) = 10 ^ k := by
    rw [Nat.pow_eq]
    push_cast
    rw [div_one]
  have small : ((Nat.pow 10 k : Nat) : ℚ) / (1 : Nat) < limit := by
    have most : 10 ^ 308 < (2 ^ 54 - 1) * 2 ^ 970 := by decide +kernel
    have less (n : Nat) (few : k ≤ n) : 10 ^ k ≤ 10 ^ n := Nat.pow_le_pow_right (by decide) few
    rw [Nat.cast_one, div_one, limit_eq, Nat.pow_eq]
    exact Nat.cast_lt.mpr (Nat.lt_of_le_of_lt (less 308 few) most)
  obtain ⟨ten, rounded⟩ := Option.isSome_iff_exists.mp (ofRatio_isSome false small)
  have one_le : 1 ≤ ((Nat.pow 10 k : Nat) : ℚ) / (1 : Nat) := by
    rw [quotient]
    exact one_le_pow₀ (by norm_num)
  have close := ofRatio_close one_le rounded
  rw [quotient] at close
  exact ⟨ten, rounded, close⟩

/-- A product within the limit, with what the power of ten may have grown by, exists. -/
theorem mulPow10_isSome (few : k ≤ 308)
    (small : x.magnitude * (10 ^ k * (1 + 1 / 2 ^ 53)) < limit) : (x.mulPow10 k).isSome := by
  obtain ⟨ten, rounded, close⟩ := ofRatio_ten few
  have grown : ten.magnitude ≤ 10 ^ k * (1 + 1 / 2 ^ 53) := by
    have := (abs_le.mp close).2
    linarith
  have product : ((x.ratio.1 * ten.ratio.1 : Nat) : ℚ) / (x.ratio.2 * ten.ratio.2 : Nat) =
      x.magnitude * ten.magnitude := by
    rw [← ratio_eq, ← ratio_eq]
    push_cast
    rw [mul_div_mul_comm]
  have within : ((x.ratio.1 * ten.ratio.1 : Nat) : ℚ) / (x.ratio.2 * ten.ratio.2 : Nat) < limit := by
    rw [product]
    exact lt_of_le_of_lt (mul_le_mul_of_nonneg_left grown (magnitude_nonneg x)) small
  unfold mulPow10
  rw [rounded]
  exact ofRatio_isSome x.negative within

/-- A quotient by a power of ten exists. -/
theorem divPow10_isSome (finite : x.Finite) (some_ : 0 < k) (few : k ≤ 308) :
    (x.divPow10 k).isSome := by
  obtain ⟨ten, rounded, close⟩ := ofRatio_ten few
  have one_le : 1 ≤ ten.magnitude := by
    have ten_le : (10 : ℚ) ^ 1 ≤ 10 ^ k := pow_le_pow_right₀ (by norm_num) some_
    have := (abs_le.mp close).1
    linarith
  have quotient : ((x.ratio.1 * ten.ratio.2 : Nat) : ℚ) / (x.ratio.2 * ten.ratio.1 : Nat) =
      x.magnitude / ten.magnitude := by
    rw [← ratio_eq, ← ratio_eq]
    push_cast
    rw [div_div_div_eq]
  have within : ((x.ratio.1 * ten.ratio.2 : Nat) : ℚ) / (x.ratio.2 * ten.ratio.1 : Nat) < limit := by
    rw [quotient]
    exact lt_of_le_of_lt (div_le_self (magnitude_nonneg x) one_le) finite.magnitude_lt
  unfold divPow10
  rw [rounded]
  exact ofRatio_isSome x.negative within

theorem mulPow10_finite (multiplied : x.mulPow10 k = some y) : y.Finite := by
  obtain ⟨ten, -, rounded⟩ := Option.bind_eq_some_iff.mp multiplied
  exact ofRatio_finite rounded

theorem divPow10_finite (divided : x.divPow10 k = some y) : y.Finite := by
  obtain ⟨ten, -, rounded⟩ := Option.bind_eq_some_iff.mp divided
  exact ofRatio_finite rounded

end PortPool.Decimal.Binary64
