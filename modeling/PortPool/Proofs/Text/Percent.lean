/-
# PortPool.Proofs.Text.Percent -- escapes are read back

An octet that is written as a percent sign and two hexadecimal digits is read back
(`decode_escape`).  So whatever octets a text has, it comes back when all of them are
escaped (`decode_escaped`).  Nothing but percent signs and digits stands in it then: no
slash, no question mark and no hash, so it is one part of a path.

Where percent signs are kept, as in the path of a URL, a text may have escapes of its own.
Escaping the rest of it changes nothing of what it is read as (`decode_encode_of_keeps`).
-/
import PortPool.Text.Percent
import PortPool.Proofs.Text.Utf8

namespace PortPool.Text.Percent

set_option autoImplicit false

/-! ## One octet -/

/-- The upper-case hexadecimal digit of a number. -/
def digit (n : Nat) : Char := Char.ofNat (if n < 10 then 0x30 + n else 0x37 + n)

/-- The octet of a digit. -/
def digitOctet (n : Nat) : UInt8 := UInt8.ofNat (digit n).toNat

theorem utf8EncodeChar_digit {n : Nat} (small : n < 16) :
    String.utf8EncodeChar (digit n) = [digitOctet n] := by
  decide +revert

theorem hexValue?_digitOctet {n : Nat} (small : n < 16) : hexValue? (digitOctet n) = some n := by
  decide +revert

/-- An octet is written as a percent sign and two digits, from which it can be made again. -/
theorem octets_escape (octet : UInt8) : ∃ high < 16, ∃ low < 16,
    UInt8.ofNat (high * 16 + low) = octet ∧
      Utf8.encode (escape octet) = [0x25, digitOctet high, digitOctet low] := by
  have small := octet.toNat_lt
  have high : octet.toNat / 16 < 16 := by omega
  have low : octet.toNat % 16 < 16 := by omega
  have whole : octet.toNat / 16 * 16 + octet.toNat % 16 = octet.toNat := by omega
  have written : escape octet = ['%', digit (octet.toNat / 16), digit (octet.toNat % 16)] := rfl
  refine ⟨_, high, _, low, by rw [whole, UInt8.ofNat_toNat], ?_⟩
  rw [written, Utf8.encode, List.flatMap_cons, List.flatMap_cons, List.flatMap_singleton,
    utf8EncodeChar_digit high, utf8EncodeChar_digit low]
  rfl

/-- An octet that begins no escape stands for itself. -/
theorem decode_cons_of_ne {octet : UInt8} (other : octet ≠ 0x25) (rest : List UInt8) :
    decode (octet :: rest) = octet :: decode rest := by
  rw [decode]
  rintro - - - rfl -
  exact other rfl

/-- Octets among which no escape begins stand for themselves. -/
theorem decode_of_notMem {octets : List UInt8} (plain : 0x25 ∉ octets) :
    decode octets = octets := by
  induction octets with
  | nil => rfl
  | cons octet octets ih =>
    rw [List.mem_cons, not_or] at plain
    rw [decode_cons_of_ne (Ne.symm plain.1), ih plain.2]

/-- **An escape is read back.** -/
theorem decode_escape (octet : UInt8) (rest : List UInt8) :
    decode (Utf8.encode (escape octet) ++ rest) = octet :: decode rest := by
  obtain ⟨high, isHigh, low, isLow, same, written⟩ := octets_escape octet
  simp only [written, List.cons_append, List.nil_append, decode, hexValue?_digitOctet isHigh,
    hexValue?_digitOctet isLow, same]

/-! ## Whole texts -/

/-- The octets, each of them escaped. -/
def escaped (octets : List UInt8) : List UInt8 := Utf8.encode (encode (fun _ => false) octets)

theorem escaped_cons (octet : UInt8) (octets : List UInt8) :
    escaped (octet :: octets) = Utf8.encode (escape octet) ++ escaped octets := by
  simp only [escaped, encode, Utf8.encode, List.flatMap_cons, Bool.false_eq_true, if_false,
    List.flatMap_append]

/-- Only percent signs and digits are written. -/
theorem exists_of_mem_escaped {octets : List UInt8} {octet : UInt8}
    (member : octet ∈ escaped octets) : octet = 0x25 ∨ ∃ n < 16, octet = digitOctet n := by
  induction octets with
  | nil => cases member
  | cons first octets ih =>
    rw [escaped_cons] at member
    rcases List.mem_append.mp member with here | later
    · obtain ⟨high, isHigh, low, isLow, -, written⟩ := octets_escape first
      simp only [written, List.mem_cons, List.not_mem_nil, or_false] at here
      rcases here with rfl | rfl | rfl
      · exact .inl rfl
      · exact .inr ⟨high, isHigh, rfl⟩
      · exact .inr ⟨low, isLow, rfl⟩
    · exact ih later

/-- No digit ends a part of a path, or the path. -/
theorem digitOctet_apart {n : Nat} (small : n < 16) :
    digitOctet n ≠ 0x2F ∧ digitOctet n ≠ 0x3F ∧ digitOctet n ≠ 0x23 := by
  decide +revert

/-- What is escaped throughout has nothing in it that ends a part of a path, or the path. -/
theorem apart_of_mem_escaped {octets : List UInt8} {octet : UInt8}
    (member : octet ∈ escaped octets) : octet ≠ 0x2F ∧ octet ≠ 0x3F ∧ octet ≠ 0x23 := by
  rcases exists_of_mem_escaped member with rfl | ⟨n, small, rfl⟩
  · decide
  · exact digitOctet_apart small

/-! ## Texts with escapes of their own -/

/-- Two hexadecimal digits come first, so that an escape ends with them. -/
def endsEscape : List UInt8 → Bool
  | high :: low :: _ => (hexValue? high).isSome && (hexValue? low).isSome
  | _ => false

theorem decode_percent {rest : List UInt8} (none : endsEscape rest = false) :
    decode (0x25 :: rest) = 0x25 :: decode rest := by
  match rest with
  | [] => rfl
  | [_] => rfl
  | high :: low :: rest =>
    rw [decode]
    split
    · rename_i isHigh isLow
      simp [endsEscape, isHigh, isLow] at none
    · rfl

/-- What stands for itself is in ASCII, and percent signs and hexadecimal digits do. -/
structure Keeps (keep : UInt8 → Bool) : Prop where
  ascii : ∀ octet, keep octet = true → octet.toNat < 0x80
  percent : keep 0x25 = true
  digits : ∀ octet, (hexValue? octet).isSome = true → keep octet = true

variable {keep : UInt8 → Bool} (keeps : Keeps keep)

include keeps

theorem octets_encode_cons (octet : UInt8) (octets : List UInt8) :
    Utf8.encode (encode keep (octet :: octets)) =
      (if keep octet then [octet] else Utf8.encode (escape octet)) ++
        Utf8.encode (encode keep octets) := by
  rw [encode, List.flatMap_cons, Utf8.encode_append]
  split
  · rename_i kept
    rw [Utf8.encode_ascii (keeps.ascii octet kept), UInt8.ofNat_toNat]
    rfl
  · rfl

theorem hexValue?_of_not_keep {octet : UInt8} (escaped : ¬keep octet = true) :
    hexValue? octet = none := by
  exact Option.not_isSome_iff_eq_none.mp fun digit => escaped (keeps.digits octet digit)

/-- Escaping makes no end of an escape, and hides none. -/
theorem endsEscape_encode (octets : List UInt8) :
    endsEscape (Utf8.encode (encode keep octets)) = endsEscape octets := by
  cases octets with
  | nil => rfl
  | cons high octets =>
    rw [octets_encode_cons keeps]
    by_cases first : keep high = true
    · rw [if_pos first]
      cases octets with
      | nil => rfl
      | cons low octets =>
        rw [octets_encode_cons keeps]
        by_cases second : keep low = true
        · rw [if_pos second]
          rfl
        · obtain ⟨_, -, _, -, -, written⟩ := octets_escape low
          have percent : hexValue? 0x25 = none := by decide
          rw [if_neg second, written]
          simp [endsEscape, hexValue?_of_not_keep keeps second, percent]
    · obtain ⟨_, -, _, -, -, written⟩ := octets_escape high
      have percent : hexValue? 0x25 = none := by decide
      rw [if_neg first, written]
      cases octets <;> simp [endsEscape, hexValue?_of_not_keep keeps first, percent]

/-- **Escaping the rest changes nothing of what a text is read as.** -/
theorem decode_encode_of_keeps (octets : List UInt8) :
    decode (Utf8.encode (encode keep octets)) = decode octets := by
  have lone {rest : List UInt8} (none : endsEscape rest = false)
      (ih : decode (Utf8.encode (encode keep rest)) = decode rest) :
      decode (Utf8.encode (encode keep (0x25 :: rest))) = decode (0x25 :: rest) := by
    have noneEither := (endsEscape_encode keeps rest).trans none
    rw [octets_encode_cons keeps, if_pos keeps.percent, List.singleton_append,
      decode_percent noneEither, decode_percent none, ih]
  induction octets using decode.induct with
  | case1 => rfl
  | case2 a b rest high low isLow isHigh ih =>
    have first : keep a = true := keeps.digits a (by rw [isHigh]; rfl)
    have second : keep b = true := keeps.digits b (by rw [isLow]; rfl)
    rw [octets_encode_cons keeps, octets_encode_cons keeps, octets_encode_cons keeps,
      if_pos keeps.percent, if_pos first, if_pos second]
    simp only [List.cons_append, List.nil_append, decode, isHigh, isLow, ih]
  | case3 a b rest noDigits ih =>
    refine lone ?_ ih
    cases isHigh : hexValue? a with
    | none => simp [endsEscape, isHigh]
    | some high =>
      cases isLow : hexValue? b with
      | none => simp [endsEscape, isLow]
      | some low => exact (noDigits high low isHigh isLow).elim
  | case4 octet rest short ih =>
    by_cases percent : octet = 0x25
    · subst percent
      refine lone ?_ ih
      match rest with
      | [] | [_] => rfl
      | a :: b :: rest => exact (short a b rest rfl rfl).elim
    · rw [octets_encode_cons keeps, decode_cons_of_ne percent]
      split
      · rw [List.singleton_append, decode_cons_of_ne percent, ih]
      · rw [decode_escape, ih]

omit keeps in
/-- Reading escapes begins no characters. -/
theorem countP_isLeading_decode (octets : List UInt8) :
    (decode octets).countP Utf8.isLeading ≤ octets.countP Utf8.isLeading := by
  induction octets using decode.induct with
  | case1 => exact Nat.le_refl _
  | case2 a b rest high low isLow isHigh ih =>
    have percent : Utf8.isLeading 0x25 = true := by decide
    simp only [decode, isHigh, isLow, List.countP_cons, percent, if_true]
    split <;> omega
  | case3 a b rest noDigits ih =>
    rw [decode]
    split
    · rename_i isHigh isLow
      exact (noDigits _ _ isHigh isLow).elim
    · rw [List.countP_cons, List.countP_cons]
      omega
  | case4 octet rest short ih =>
    rw [decode]
    · rw [List.countP_cons, List.countP_cons]
      omega
    · exact short

end PortPool.Text.Percent
