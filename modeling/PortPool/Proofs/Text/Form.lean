/-
# PortPool.Proofs.Text.Form -- pairs in a query string are read back

Each octet of a name or a value is written in one of three ways, and each is read back
as that octet: a blank as `+`, a plain octet as itself, any other as an escape
(`decode_encodeOctet`).  None of the three contains a mark of a query string, so its
pieces are the pairs, and what stands before the first `=` of a piece is the name
(`parse_render`).
-/
import PortPool.Proofs.Text.Percent
import PortPool.Proofs.Text.Split
import PortPool.Text.Form

namespace PortPool.Text.Form

set_option autoImplicit false

/-! ## One octet -/

/-- The octets with `+` as a blank. -/
def spaced (octets : List UInt8) : List UInt8 :=
  octets.map fun octet => if octet = 0x2B then 0x20 else octet

theorem encode_plain {octet : UInt8} (plain : isPlain octet = true) :
    Utf8.encode [Char.ofNat octet.toNat] = [octet] := by
  have small : octet.toNat < 0x80 := by
    simp only [isPlain, Bool.or_eq_true, Bool.and_eq_true, decide_eq_true_eq, beq_iff_eq] at plain
    omega
  rw [Utf8.encode_ascii small, UInt8.ofNat_toNat]

/-- An octet is written as `+`, as itself, or as an escape. -/
theorem octets_encodeOctet (octet : UInt8) :
    octet = 0x20 ∧ Utf8.encode (encodeOctet octet) = [0x2B] ∨
      isPlain octet = true ∧ Utf8.encode (encodeOctet octet) = [octet] ∨
      encodeOctet octet = Percent.escape octet := by
  unfold encodeOctet
  split
  · rename_i blank
    exact .inl ⟨blank, by decide⟩
  split
  · rename_i plain
    exact .inr (.inl ⟨plain, encode_plain plain⟩)
  · exact .inr (.inr rfl)

theorem digitOctet_plain {n : Nat} (small : n < 16) : isPlain (Percent.digitOctet n) = true := by
  decide +revert

/-- No plain octet is a mark of a query string, or begins an escape. -/
theorem apart_of_isPlain {octet : UInt8} (plain : isPlain octet = true) :
    octet ≠ 0x2B ∧ octet ≠ 0x25 ∧ octet ≠ 0x26 ∧ octet ≠ 0x3D ∧ octet ≠ 0x23 := by
  refine ⟨?_, ?_, ?_, ?_, ?_⟩ <;> rintro rfl <;> revert plain <;> decide

/-- **Every octet is read back.** -/
theorem decode_encodeOctet (octet : UInt8) (rest : List UInt8) :
    Percent.decode (spaced (Utf8.encode (encodeOctet octet)) ++ rest) =
      octet :: Percent.decode rest := by
  rcases octets_encodeOctet octet with ⟨rfl, written⟩ | ⟨plain, written⟩ | escaped
  · rw [written]
    exact Percent.decode_cons_of_ne (by decide) rest
  · obtain ⟨notPlus, notEscape, -⟩ := apart_of_isPlain plain
    rw [written, spaced, List.map_singleton, if_neg notPlus]
    exact Percent.decode_cons_of_ne notEscape rest
  · obtain ⟨high, isHigh, low, isLow, -, written⟩ := Percent.octets_escape octet
    have unchanged : spaced (Utf8.encode (Percent.escape octet)) =
        Utf8.encode (Percent.escape octet) := by
      have first := (apart_of_isPlain (digitOctet_plain isHigh)).1
      have second := (apart_of_isPlain (digitOctet_plain isLow)).1
      rw [written]
      simp [spaced, first, second]
    rw [escaped, unchanged, Percent.decode_escape]

/-- Nothing that is written for an octet is a mark of a query string. -/
theorem apart_of_mem_encodeOctet {octet b : UInt8} (member : b ∈ Utf8.encode (encodeOctet octet)) :
    b ≠ 0x26 ∧ b ≠ 0x3D ∧ b ≠ 0x23 := by
  rcases octets_encodeOctet octet with ⟨-, written⟩ | ⟨plain, written⟩ | escaped
  · rw [written, List.mem_singleton] at member
    subst member
    decide
  · rw [written, List.mem_singleton] at member
    subst member
    exact (apart_of_isPlain plain).2.2
  · obtain ⟨high, isHigh, low, isLow, -, written⟩ := Percent.octets_escape octet
    simp only [escaped, written, List.mem_cons, List.not_mem_nil, or_false] at member
    rcases member with rfl | rfl | rfl
    · decide
    · exact (apart_of_isPlain (digitOctet_plain isHigh)).2.2
    · exact (apart_of_isPlain (digitOctet_plain isLow)).2.2

/-! ## Names and values -/

theorem encode_flatMap (octets : List UInt8) :
    Utf8.encode (octets.flatMap encodeOctet) =
      octets.flatMap fun octet => Utf8.encode (encodeOctet octet) := by
  rw [Utf8.encode, List.flatMap_assoc]
  rfl

/-- A name or a value is read back. -/
theorem decode_encode (s : String) : decode (Utf8.encode (encode s)) = s := by
  have octets (bs : List UInt8) :
      Percent.decode (spaced (Utf8.encode (bs.flatMap encodeOctet))) = bs := by
    rw [encode_flatMap]
    induction bs with
    | nil => rfl
    | cons b bs ih =>
      rw [List.flatMap_cons, spaced, List.map_append]
      exact (decode_encodeOctet b _).trans (by rw [← spaced, ih])
  have same : Utf8.lossy (Utf8.ofString s) = s.toList := by
    rw [Utf8.lossy, Utf8.ofString, Utf8.decode_encode, List.map_map]
    exact List.map_id _
  show String.ofList (Utf8.lossy (Percent.decode (spaced (Utf8.encode (encode s))))) = s
  rw [encode, octets, same, String.ofList_toList]

theorem apart_of_mem_encode {s : String} {b : UInt8} (member : b ∈ Utf8.encode (encode s)) :
    b ≠ 0x26 ∧ b ≠ 0x3D ∧ b ≠ 0x23 := by
  rw [encode, encode_flatMap] at member
  obtain ⟨octet, -, within⟩ := List.mem_flatMap.mp member
  exact apart_of_mem_encodeOctet within

/-- Every character is written with one or more. -/
theorem length_le_encode (s : String) : s.length ≤ (encode s).length := by
  have atLeast {α β : Type} {f : α → List β} (some_ : ∀ a, f a ≠ []) (l : List α) :
      l.length ≤ (l.flatMap f).length := by
    induction l with
    | nil => exact Nat.zero_le _
    | cons a l ih =>
      have := List.length_pos_iff.mpr (some_ a)
      rw [List.flatMap_cons, List.length_append, List.length_cons]
      omega
  have octets := atLeast (f := String.utf8EncodeChar) (by simp) s.toList
  have written := atLeast (f := encodeOctet) (by
    intro octet
    unfold encodeOctet
    split
    · simp
    · split <;> simp [Percent.escape]) (Utf8.ofString s)
  exact Nat.le_trans octets written

/-! ## Pairs -/

/-- The octets of a pair. -/
def pairOctets (pair : String × String) : List UInt8 :=
  Utf8.encode (encode pair.1) ++ 0x3D :: Utf8.encode (encode pair.2)

theorem encode_render (pairs : List (String × String)) :
    Utf8.encode (render pairs) = List.intercalate [0x26] (pairs.map pairOctets) := by
  have one (pair : String × String) :
      Utf8.encode (encode pair.1 ++ '=' :: encode pair.2) = pairOctets pair := by
    rw [Utf8.encode_append, Utf8.encode_cons]
    rfl
  induction pairs with
  | nil => rfl
  | cons pair pairs ih =>
    cases pairs with
    | nil => simpa [render, List.intercalate] using one pair
    | cons next pairs =>
      have joined : render (pair :: next :: pairs) =
          (encode pair.1 ++ '=' :: encode pair.2) ++ '&' :: render (next :: pairs) := by
        simp [render]
      rw [joined, Utf8.encode_append, one, Utf8.encode_cons, ih]
      simp only [List.map_cons, List.intercalate_cons_cons, List.append_assoc]
      rfl

theorem apart_of_mem_pairOctets {pair : String × String} {b : UInt8}
    (member : b ∈ pairOctets pair) : b ≠ 0x26 ∧ b ≠ 0x23 := by
  rcases List.mem_append.mp member with name | value
  · obtain ⟨notMark, -, notHash⟩ := apart_of_mem_encode name
    exact ⟨notMark, notHash⟩
  · rcases List.mem_cons.mp value with rfl | value
    · decide
    · obtain ⟨notMark, -, notHash⟩ := apart_of_mem_encode value
      exact ⟨notMark, notHash⟩

/-- No fragment begins within a query string. -/
theorem hash_notMem_render (pairs : List (String × String)) :
    0x23 ∉ Utf8.encode (render pairs) := by
  rw [encode_render]
  induction pairs with
  | nil => exact List.not_mem_nil
  | cons pair pairs ih =>
    have first : 0x23 ∉ pairOctets pair := fun member => (apart_of_mem_pairOctets member).2 rfl
    cases pairs with
    | nil => simpa [List.intercalate] using first
    | cons next pairs =>
      rw [List.map_cons, List.map_cons, List.intercalate_cons_cons]
      intro member
      rcases List.mem_append.mp member with front | rest
      · rcases List.mem_append.mp front with here | mark
        · exact first here
        · revert mark
          decide
      · exact ih rest

/-- **Pairs are read back from the query string that is written for them.** -/
theorem parse_render (pairs : List (String × String)) :
    parse (Utf8.encode (render pairs)) = pairs := by
  rw [encode_render]
  by_cases none : pairs = []
  · subst none
    rfl
  have parts : pieces (0x26 : UInt8) (List.intercalate [0x26] (pairs.map pairOctets)) =
      pairs.map pairOctets := by
    refine pieces_intercalate (by simpa using none) fun part member b within => ?_
    obtain ⟨pair, -, rfl⟩ := List.mem_map.mp member
    exact (apart_of_mem_pairOctets within).1
  have nonempty : (pairs.map pairOctets).filter (fun part => !part.isEmpty) =
      pairs.map pairOctets := by
    refine List.filter_eq_self.mpr fun part member => ?_
    obtain ⟨pair, -, rfl⟩ := List.mem_map.mp member
    simp [pairOctets]
  have cut (pair : String × String) : cutFirst (0x3D : UInt8) (pairOctets pair) =
      (Utf8.encode (encode pair.1), some (Utf8.encode (encode pair.2))) :=
    cutFirst_append (fun b member => (apart_of_mem_encode member).2.1) _
  rw [parse, parts, nonempty, List.map_map]
  refine List.map_id'' (fun pair => ?_) pairs
  simp only [Function.comp_apply, cut, Option.getD_some, decode_encode]

end PortPool.Text.Form
