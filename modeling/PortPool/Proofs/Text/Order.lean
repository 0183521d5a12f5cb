/-
# PortPool.Proofs.Text.Order -- the order of texts

Texts are compared character by character, a beginning before what it begins.  Parts of
one width decide in turn (`append_lt_append`), so numbers padded to one width have the
order of the numbers (`padded_append_lt`), and digits after a point that of the
fractions, however many zeros are left out, if what follows them comes before every digit
(`digits_lt_of_fraction_lt`).

UTF-8 keeps the order: texts compare as their octets do (`encode_lt_encode`).
-/
import Mathlib.Tactic.ByContra
import Mathlib.Tactic.SplitIfs
import PortPool.Proofs.Text.Numeral
import PortPool.Proofs.Text.Utf8

namespace PortPool.Text

set_option autoImplicit false

/-- Of two texts that begin equally long, the beginnings decide, and what follows if
they are the same. -/
theorem append_lt_append {α : Type} [LT α] {s t p q : List α} (even : s.length = t.length) :
    s ++ p < t ++ q ↔ s < t ∨ s = t ∧ p < q := by
  induction s generalizing t with
  | nil =>
    obtain rfl := List.eq_nil_of_length_eq_zero even.symm
    simp
  | cons a s ih =>
    cases t with
    | nil => cases even
    | cons b t =>
      simp only [List.cons_append, List.cons_lt_cons_iff, List.cons.injEq, ih (Nat.succ.inj even),
        and_or_left, or_assoc, and_assoc]

/-- A map that keeps the order both ways keeps that of the texts. -/
theorem iff_of_lt_imp {α β : Type} [LT α] [LT β] {f : α → β}
    (total : ∀ {a b : α}, ¬a < b → ¬b < a → a = b) (asymm : ∀ {x y : β}, x < y → ¬y < x)
    (keeps : ∀ {a b : α}, a < b → f a < f b) (a b : α) : f a < f b ↔ a < b := by
  refine ⟨fun less => ?_, keeps⟩
  by_contra notLess
  by_cases more : b < a
  · exact asymm less (keeps more)
  · obtain rfl := total notLess more
    exact asymm less less

namespace Numeral

/-! ## Digits -/

theorem digitChar_lt {d e : Nat} (small : d < 10) (small' : e < 10) :
    Nat.digitChar d < Nat.digitChar e ↔ d < e := by
  have all : ∀ d < 10, ∀ e < 10, (Nat.digitChar d < Nat.digitChar e ↔ d < e) := by decide
  exact all d small e small'

theorem digitChar_inj {d e : Nat} (small : d < 10) (small' : e < 10) :
    Nat.digitChar d = Nat.digitChar e ↔ d = e := by
  have all : ∀ d < 10, ∀ e < 10, (Nat.digitChar d = Nat.digitChar e ↔ d = e) := by decide
  exact all d small e small'

section Digits

variable {ds es : List Nat} (small : ∀ d ∈ ds, d < 10) (small' : ∀ e ∈ es, e < 10)

include small small'

theorem map_digitChar_lt : ds.map Nat.digitChar < es.map Nat.digitChar ↔ ds < es := by
  induction ds generalizing es with
  | nil => cases es <;> simp
  | cons d ds ih =>
    cases es with
    | nil => simp
    | cons e es =>
      rw [List.forall_mem_cons] at small small'
      simp only [List.map_cons, List.cons_lt_cons_iff, digitChar_lt small.1 small'.1,
        digitChar_inj small.1 small'.1, ih small.2 small'.2]

/-- Runs of equally many digits have the order of the numbers, read after any others. -/
theorem foldl_lt_foldl (even : ds.length = es.length) (m n : Nat) :
    ds.foldl (fun n d => n * 10 + d) m < es.foldl (fun n d => n * 10 + d) n ↔
      m < n ∨ m = n ∧ ds < es := by
  induction ds generalizing es m n with
  | nil =>
    obtain rfl := List.eq_nil_of_length_eq_zero even.symm
    simp
  | cons d ds ih =>
    cases es with
    | nil => cases even
    | cons e es =>
      rw [List.forall_mem_cons] at small small'
      obtain ⟨digit, small⟩ := small
      obtain ⟨digit', small'⟩ := small'
      have less : m * 10 + d < n * 10 + e ↔ m < n ∨ m = n ∧ d < e := by omega
      have same : m * 10 + d = n * 10 + e ↔ m = n ∧ d = e := by omega
      simp only [List.foldl_cons, ih small small' (Nat.succ.inj even), less, same,
        List.cons_lt_cons_iff, and_or_left, or_assoc, and_assoc]

theorem ofDigits_lt (even : ds.length = es.length) : ofDigits 10 ds < ofDigits 10 es ↔ ds < es := by
  rw [ofDigits, ofDigits, foldl_lt_foldl small small' even]
  simp

end Digits

section Padded

variable {width m n : Nat} (some_ : 0 < width) (fits : m < 10 ^ width) (fits' : n < 10 ^ width)

include some_ fits fits'

theorem padded_lt : padded width m < padded width n ↔ m < n := by
  have even : (paddedValues width m).length = (paddedValues width n).length := by
    rw [length_paddedValues some_ fits, length_paddedValues some_ fits']
  rw [padded_eq, padded_eq, map_digitChar_lt (fun _ => lt_of_mem_paddedValues)
    (fun _ => lt_of_mem_paddedValues), ← ofDigits_lt (fun _ => lt_of_mem_paddedValues)
    (fun _ => lt_of_mem_paddedValues) even, ofDigits_paddedValues, ofDigits_paddedValues]

theorem padded_inj : padded width m = padded width n ↔ m = n := by
  refine ⟨fun same => ?_, congrArg _⟩
  have notLess := mt (padded_lt some_ fits fits').mpr (same ▸ List.lt_irrefl _)
  have notMore := mt (padded_lt some_ fits' fits).mpr (same ▸ List.lt_irrefl _)
  omega

/-- **Numbers padded to one width have the order of the numbers**, and what follows
decides between equal ones. -/
theorem padded_append_lt (p q : List Char) :
    padded width m ++ p < padded width n ++ q ↔ m < n ∨ m = n ∧ p < q := by
  have even : (padded width m).length = (padded width n).length := by
    rw [padded_eq, padded_eq, List.length_map, List.length_map,
      length_paddedValues some_ fits, length_paddedValues some_ fits']
  rw [append_lt_append even, padded_lt some_ fits fits', padded_inj some_ fits fits']

end Padded

/-! ## Digits after a point -/

theorem not_lt_zeros {ds : List Nat} {k : Nat} (long : k ≤ ds.length) :
    ¬ds < List.replicate k 0 := by
  induction k generalizing ds with
  | zero => simp
  | succ k ih =>
    cases ds with
    | nil => simp at long
    | cons d ds =>
      rw [List.replicate_succ, List.cons_lt_cons_iff]
      rintro (below | ⟨-, rest⟩)
      · exact absurd below (Nat.not_lt_zero d)
      · exact ih (Nat.le_of_succ_le_succ long) rest

/-- **Fractions without their last zeros keep their order**, if what follows comes before
every digit. -/
theorem digits_lt_of_fraction_lt {ds es : List Nat} (small : ∀ d ∈ ds, d < 10)
    (small' : ∀ e ∈ es, e < 10) {k l : Nat} (even : ds.length + k = es.length + l)
    (less : ds ++ List.replicate k 0 < es ++ List.replicate l 0) {c : Char}
    (first : ∀ d < 10, c < Nat.digitChar d) (p : List Char) :
    ds.map Nat.digitChar ++ c :: p < es.map Nat.digitChar ++ c :: p := by
  induction ds generalizing es with
  | nil =>
    cases es with
    | nil =>
      obtain rfl : k = l := by simpa using even
      exact absurd less (List.lt_irrefl _)
    | cons e es =>
      exact List.cons_lt_cons_iff.mpr (.inl (first e (small' e List.mem_cons_self)))
  | cons d ds ih =>
    cases es with
    | nil =>
      refine absurd less (not_lt_zeros ?_)
      simp only [List.length_nil, List.length_cons, List.length_append,
        List.length_replicate] at even ⊢
      omega
    | cons e es =>
      rw [List.forall_mem_cons] at small small'
      rw [List.cons_append, List.cons_append, List.cons_lt_cons_iff] at less
      rw [List.map_cons, List.map_cons, List.cons_append, List.cons_append, List.cons_lt_cons_iff]
      rcases less with earlier | ⟨rfl, later⟩
      · exact .inl ((digitChar_lt small.1 small'.1).mpr earlier)
      · refine .inr ⟨rfl, ih small.2 small'.2 ?_ later⟩
        simp only [List.length_cons] at even
        omega

end Numeral

/-! ## Octets -/

namespace Utf8

theorem ofNat_cons_lt {a b : Nat} (small : a < 256) (small' : b < 256) {p q : List UInt8} :
    UInt8.ofNat a :: p < UInt8.ofNat b :: q ↔ a < b ∨ a = b ∧ p < q := by
  rw [List.cons_lt_cons_iff, UInt8.lt_iff_toNat_lt, ← UInt8.toNat_inj, toNat_ofNat small,
    toNat_ofNat small']

/-- The octets of a lesser number come first, whatever follows. -/
theorem octetsOf_append_lt {v w : Nat} (less : v < w) (valid : w < 0x110000) (p q : List UInt8) :
    octetsOf v ++ p < octetsOf w ++ q := by
  have decides (n m : Nat) : n < m ↔ n / 64 < m / 64 ∨ n / 64 = m / 64 ∧ n % 64 < m % 64 := by
    omega
  have inTurn := less
  rw [decides v w, decides (v / 64), decides (v / 64 / 64)] at inTurn
  simp only [Nat.div_div_eq_div_mul, Nat.reduceMul] at inTurn
  have first : v / 262144 % 8 = v / 262144 := Nat.mod_eq_of_lt (by omega)
  have first' : w / 262144 % 8 = w / 262144 := Nat.mod_eq_of_lt (by omega)
  unfold octetsOf
  -- Of different numbers of octets the first decides, of equally many the first that differs.
  split_ifs <;>
    simp (disch := omega) only [List.cons_append, List.nil_append, ofNat_cons_lt] <;> omega

theorem encode_lt_of_lt {s t : List Char} (less : s < t) : encode s < encode t := by
  induction s generalizing t with
  | nil =>
    cases t with
    | nil => exact absurd less (List.lt_irrefl _)
    | cons d t =>
      cases octets : encode (d :: t) with
      | nil => exact absurd octets (by simp [encode, String.utf8EncodeChar_ne_nil])
      | cons b bs => exact List.nil_lt_cons b bs
  | cons c s ih =>
    cases t with
    | nil => exact absurd less (List.not_lt_nil _)
    | cons d t =>
      simp only [encode, List.flatMap_cons, utf8EncodeChar_eq]
      rcases List.cons_lt_cons_iff.mp less with earlier | ⟨rfl, later⟩
      · have less : c.toNat < d.toNat := earlier
        have valid := toNat_valid d
        exact octetsOf_append_lt less (by omega) _ _
      · exact (append_lt_append rfl).mpr (.inr ⟨rfl, ih later⟩)

/-- **Texts compare as their octets do.** -/
theorem encode_lt_encode {s t : List Char} : encode s < encode t ↔ s < t :=
  iff_of_lt_imp (fun notLess notMore => List.le_antisymm notMore notLess) List.lt_asymm
    encode_lt_of_lt s t

theorem ofString_lt_ofString {s t : String} : ofString s < ofString t ↔ s < t :=
  encode_lt_encode.trans String.lt_iff.symm

end Utf8

end PortPool.Text
