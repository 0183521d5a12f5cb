/-
# PortPool.Proofs.Text.Utf8 -- what is written as UTF-8 is read back

A character is written as one to four octets.  `foldl_octetsOf` follows the reader
through them: it takes the first for a beginning, finds each further one within its
bounds, and stands between two characters again afterwards.  Whole texts follow by
induction (`strict?_encode`).

Every character that is read takes an octet that begins one, so no text has more
characters than it has such octets (`length_le_of_strict?`).
-/
import PortPool.Text.Utf8

namespace PortPool.Text.Utf8

set_option autoImplicit false

/-! ## Octets of one character -/

/-- The octets of the character of a number. -/
def octetsOf (v : Nat) : List UInt8 :=
  if v ≤ 0x7f then [.ofNat v]
  else if v ≤ 0x7ff then [.ofNat (v / 64 % 0x20 + 0xc0), .ofNat (v % 0x40 + 0x80)]
  else if v ≤ 0xffff then
    [.ofNat (v / 4096 % 0x10 + 0xe0), .ofNat (v / 64 % 0x40 + 0x80), .ofNat (v % 0x40 + 0x80)]
  else
    [.ofNat (v / 262144 % 0x08 + 0xf0), .ofNat (v / 4096 % 0x40 + 0x80),
      .ofNat (v / 64 % 0x40 + 0x80), .ofNat (v % 0x40 + 0x80)]

theorem utf8EncodeChar_eq (c : Char) : String.utf8EncodeChar c = octetsOf c.toNat := rfl

theorem toNat_ofNat {b : Nat} (small : b < 256) : (UInt8.ofNat b).toNat = b := by
  simp [Nat.mod_eq_of_lt small]

/-- A character is no surrogate and at most U+10FFFF. -/
theorem toNat_valid (c : Char) : c.toNat < 0xD800 ∨ 0xDFFF < c.toNat ∧ c.toNat < 0x110000 :=
  c.valid

theorem octetsOf_ascii {v : Nat} (ascii : v < 0x80) : octetsOf v = [.ofNat v] :=
  if_pos (Nat.le_of_lt_succ ascii)

theorem encode_ascii {v : Nat} (ascii : v < 0x80) : encode [Char.ofNat v] = [.ofNat v] := by
  decide +revert

/-- Beyond ASCII every octet is. -/
theorem le_toNat_of_mem_octetsOf {v : Nat} (beyond : 0x80 ≤ v) {b : UInt8}
    (member : b ∈ octetsOf v) : 0x80 ≤ b.toNat := by
  unfold octetsOf at member
  rw [if_neg (by omega)] at member
  split at member
  · simp only [List.mem_cons, List.not_mem_nil, or_false] at member
    rcases member with rfl | rfl <;> rw [toNat_ofNat (by omega)] <;> omega
  · split at member
    · simp only [List.mem_cons, List.not_mem_nil, or_false] at member
      rcases member with rfl | rfl | rfl <;> rw [toNat_ofNat (by omega)] <;> omega
    · simp only [List.mem_cons, List.not_mem_nil, or_false] at member
      rcases member with rfl | rfl | rfl | rfl <;> rw [toNat_ofNat (by omega)] <;> omega

/-- An octet of ASCII stands for its own character only. -/
theorem ofNat_mem_encode {c : Char} (ascii : c.toNat < 0x80) {s : List Char}
    (member : UInt8.ofNat c.toNat ∈ encode s) : c ∈ s := by
  obtain ⟨d, among, octet⟩ := List.mem_flatMap.mp member
  rw [utf8EncodeChar_eq] at octet
  have value : (UInt8.ofNat c.toNat).toNat = c.toNat := toNat_ofNat (by omega)
  by_cases single : d.toNat < 0x80
  · rw [octetsOf_ascii single, List.mem_singleton] at octet
    have same := congrArg UInt8.toNat octet
    rw [value, toNat_ofNat (by omega)] at same
    have equal : c = d := Char.toNat_inj.mp same
    rwa [equal]
  · have := le_toNat_of_mem_octetsOf (by omega) octet
    omega

/-! ## The reader, octet by octet -/

namespace Scan

variable {read : List (Option Char)} {b missing low high value : Nat}

theorem step_first (small : b < 256) : step ⟨none, read⟩ (.ofNat b) = begin read b := by
  simp only [step, toNat_ofNat small]

theorem step_next (small : b < 256) (above : low ≤ b) (below : b ≤ high) :
    step ⟨some ⟨missing + 2, low, high, value⟩, read⟩ (.ofNat b) =
      ⟨some ⟨missing + 1, 0x80, 0xBF, value * 64 + (b - 0x80)⟩, read⟩ := by
  simp only [step, toNat_ofNat small, above, below, decide_true, Bool.and_self, if_true]

theorem step_last (small : b < 256) (above : low ≤ b) (below : b ≤ high) :
    step ⟨some ⟨1, low, high, value⟩, read⟩ (.ofNat b) =
      ⟨none, some (Char.ofNat (value * 64 + (b - 0x80))) :: read⟩ := by
  simp only [step, toNat_ofNat small, above, below, decide_true, Bool.and_self, if_true]

theorem foldl_octetsOf (read : List (Option Char)) {v : Nat}
    (valid : v < 0xD800 ∨ 0xDFFF < v ∧ v < 0x110000) :
    (octetsOf v).foldl step ⟨none, read⟩ = ⟨none, some (Char.ofNat v) :: read⟩ := by
  unfold octetsOf
  split
  · rw [List.foldl_cons, List.foldl_nil, step_first (by omega), begin, if_pos (by omega)]
  split
  · rw [List.foldl_cons, List.foldl_cons, List.foldl_nil, step_first (by omega), begin,
      if_neg (by omega), if_neg (by omega), if_pos (by omega),
      step_last (by omega) (by omega) (by omega),
      show (v / 64 % 0x20 + 0xc0 - 0xc0) * 64 + (v % 0x40 + 0x80 - 0x80) = v by omega]
  split
  · rw [List.foldl_cons, List.foldl_cons, List.foldl_cons, List.foldl_nil,
      step_first (by omega), begin, if_neg (by omega), if_neg (by omega), if_neg (by omega),
      if_pos (by omega), step_next (by omega) (by split <;> omega) (by split <;> omega),
      step_last (by omega) (by omega) (by omega),
      show ((v / 4096 % 0x10 + 0xe0 - 0xe0) * 64 + (v / 64 % 0x40 + 0x80 - 0x80)) * 64 +
        (v % 0x40 + 0x80 - 0x80) = v by omega]
  · rw [List.foldl_cons, List.foldl_cons, List.foldl_cons, List.foldl_cons, List.foldl_nil,
      step_first (by omega), begin, if_neg (by omega), if_neg (by omega), if_neg (by omega),
      if_neg (by omega), if_pos (by omega),
      step_next (by omega) (by split <;> omega) (by split <;> omega),
      step_next (by omega) (by omega) (by omega), step_last (by omega) (by omega) (by omega),
      show (((v / 262144 % 0x08 + 0xf0 - 0xf0) * 64 + (v / 4096 % 0x40 + 0x80 - 0x80)) * 64 +
        (v / 64 % 0x40 + 0x80 - 0x80)) * 64 + (v % 0x40 + 0x80 - 0x80) = v by omega]

theorem foldl_encode (read : List (Option Char)) (s : List Char) :
    (encode s).foldl step ⟨none, read⟩ = ⟨none, (s.map some).reverse ++ read⟩ := by
  induction s generalizing read with
  | nil => rfl
  | cons c s ih =>
    have one := foldl_octetsOf read (toNat_valid c)
    rw [Char.ofNat_toNat] at one
    rw [encode, List.flatMap_cons, List.foldl_append, utf8EncodeChar_eq, one]
    exact (ih (some c :: read)).trans (by simp)

end Scan

/-! ## Whole texts -/

theorem encode_append (s t : List Char) : encode (s ++ t) = encode s ++ encode t :=
  List.flatMap_append

theorem encode_cons (c : Char) (s : List Char) : encode (c :: s) = encode [c] ++ encode s :=
  encode_append [c] s

theorem decode_encode (s : List Char) : decode (encode s) = s.map some := by
  simp [decode, Scan.start, Scan.foldl_encode, Scan.finish]

/-- **What was written is read back.** -/
theorem strict?_encode (s : List Char) : strict? (encode s) = some s := by
  rw [strict?, decode_encode]
  induction s with
  | nil => rfl
  | cons c s ih =>
    rw [List.map_cons, List.mapM_cons, ih]
    rfl

theorem ofString_injective {s t : String} (same : ofString s = ofString t) : s = t := by
  have read := congrArg strict? same
  rw [ofString, ofString, strict?_encode, strict?_encode] at read
  exact String.toList_inj.mp (Option.some.inj read)

/-! ## How long a text is -/

/-- The octet begins a character: it goes on with none. -/
def isLeading (b : UInt8) : Bool := b.toNat < 0x80 || 0xC0 ≤ b.toNat

theorem isLeading_ofNat {b : Nat} (low : 0x80 ≤ b) (high : b < 0xC0) :
    isLeading (.ofNat b) = false := by
  rw [isLeading, toNat_ofNat (by omega)]
  simp only [Bool.or_eq_false_iff, decide_eq_false_iff_not]
  omega

/-- Only the first octet of a character begins one. -/
theorem countP_isLeading_octetsOf (v : Nat) : (octetsOf v).countP isLeading ≤ 1 := by
  have first {b : UInt8} {others : List UInt8} (next : ∀ o ∈ others, isLeading o = false) :
      (b :: others).countP isLeading ≤ 1 := by
    rw [List.countP_cons, List.countP_eq_zero.mpr fun o member => by simp [next o member]]
    split <;> omega
  unfold octetsOf
  split
  · exact first nofun
  · split
    · refine first (List.forall_mem_cons.mpr ⟨isLeading_ofNat ?_ ?_, nofun⟩) <;> omega
    · split
      · refine first (List.forall_mem_cons.mpr ⟨isLeading_ofNat ?_ ?_,
          List.forall_mem_cons.mpr ⟨isLeading_ofNat ?_ ?_, nofun⟩⟩) <;> omega
      · refine first (List.forall_mem_cons.mpr ⟨isLeading_ofNat ?_ ?_,
          List.forall_mem_cons.mpr ⟨isLeading_ofNat ?_ ?_,
            List.forall_mem_cons.mpr ⟨isLeading_ofNat ?_ ?_, nofun⟩⟩⟩) <;> omega

theorem countP_isLeading_encode (s : List Char) : (encode s).countP isLeading ≤ s.length := by
  induction s with
  | nil => exact Nat.le_refl _
  | cons c s ih =>
    have single := countP_isLeading_octetsOf c.toNat
    rw [encode_cons, List.countP_append, List.length_cons, encode, List.flatMap_singleton,
      utf8EncodeChar_eq]
    omega

namespace Scan

/-- How many characters were read, or begun. -/
def met (s : Scan) : Nat := s.read.length + if s.pending.isSome then 1 else 0

theorem begin_met (read : List (Option Char)) (b : UInt8) :
    none ∈ (begin read b.toNat).read ∨
      (begin read b.toNat).met = read.length + 1 ∧ isLeading b = true := by
  by_cases ascii : b.toNat < 0x80
  · exact .inr ⟨by simp [begin, ascii, met], by simp [isLeading, ascii]⟩
  by_cases short : b.toNat < 0xC2
  · exact .inl (by simp [begin, ascii, short])
  have leading : isLeading b = true := by
    rw [isLeading, Bool.or_eq_true, decide_eq_true_eq, decide_eq_true_eq]
    omega
  simp only [begin, if_neg ascii, if_neg short]
  split
  · exact .inr ⟨rfl, leading⟩
  · split
    · exact .inr ⟨rfl, leading⟩
    · split
      · exact .inr ⟨rfl, leading⟩
      · exact .inl List.mem_cons_self

theorem mem_begin_read {read : List (Option Char)} {b : Nat} {c : Option Char} (member : c ∈ read) :
    c ∈ (begin read b).read := by
  simp only [begin]
  repeat' split
  all_goals first | exact member | exact List.mem_cons_of_mem _ member

theorem mem_step_read {s : Scan} {b : UInt8} {c : Option Char} (member : c ∈ s.read) :
    c ∈ (s.step b).read := by
  simp only [step]
  split
  · exact mem_begin_read member
  · split
    · split
      · exact List.mem_cons_of_mem _ member
      · exact List.mem_cons_of_mem _ member
      · exact member
    · exact mem_begin_read (List.mem_cons_of_mem _ member)

/-- An octet adds a character only if it begins one. -/
theorem step_met (s : Scan) (b : UInt8) :
    none ∈ (s.step b).read ∨ (s.step b).met ≤ s.met + if isLeading b then 1 else 0 := by
  simp only [step]
  split
  · rename_i none
    rcases begin_met s.read b with bad | ⟨met, leading⟩
    · exact .inl bad
    · refine .inr ?_
      rw [met, if_pos leading, Scan.met, none]
      simp
  · rename_i p begun
    split
    · refine .inr (Nat.le_trans (Nat.le_of_eq ?_) (Nat.le_add_right _ _))
      split <;> simp [met, begun]
    · exact .inl (mem_begin_read List.mem_cons_self)

theorem mem_foldl_read {octets : List UInt8} {s : Scan} {c : Option Char} (member : c ∈ s.read) :
    c ∈ (octets.foldl step s).read := by
  induction octets generalizing s with
  | nil => exact member
  | cons b octets ih => exact ih (mem_step_read member)

theorem foldl_met (octets : List UInt8) (s : Scan) :
    none ∈ (octets.foldl step s).read ∨
      (octets.foldl step s).met ≤ s.met + octets.countP isLeading := by
  induction octets generalizing s with
  | nil => exact .inr (Nat.le_refl _)
  | cons b octets ih =>
    rw [List.foldl_cons, List.countP_cons]
    rcases step_met s b with bad | one
    · exact .inl (mem_foldl_read bad)
    · rcases ih (s.step b) with bad | rest
      · exact .inl bad
      · exact .inr (by omega)

end Scan

/-- **A text has no more characters than octets that begin one.** -/
theorem length_le_of_strict? {octets : List UInt8} {s : List Char}
    (read : strict? octets = some s) : s.length ≤ octets.countP isLeading := by
  have whole (l : List (Option Char)) (s : List Char) (taken : l.mapM id = some s) :
      l = s.map some := by
    induction l generalizing s with
    | nil =>
      cases taken
      rfl
    | cons c l ih =>
      simp only [List.mapM_cons, id_eq, Option.bind_eq_bind, Option.bind_eq_some_iff,
        Option.pure_def, Option.some.injEq] at taken
      obtain ⟨d, rfl, others, rest, rfl⟩ := taken
      rw [List.map_cons, ← ih others rest]
  have decoded := whole _ _ read
  have valid : none ∉ decode octets := decoded ▸ by simp
  have counted := congrArg List.length decoded
  simp only [decode, Scan.finish, List.length_map] at valid counted
  split at valid
  · rename_i complete
    simp only [complete, List.length_reverse] at counted
    rcases Scan.foldl_met octets Scan.start with bad | met
    · exact absurd (List.mem_reverse.mpr bad) valid
    · have begun : Scan.start.met = 0 := rfl
      rw [begun, Scan.met, counted] at met
      omega
  · exact absurd (List.mem_reverse.mpr List.mem_cons_self) valid

end PortPool.Text.Utf8
