/-
# PortPool.Proofs.Json.Decode -- what a rendered value is read back as

A text that was rendered is decoded without a fault as long as it nests no deeper
than the decoder allows and all its numbers can be read; `Value.reread` says what
comes out (`decodeText_render`).  Numbers are where something may be lost: the digits
of a fraction are read with rounding.  An object whose names are in order, with numbers of
which nothing is lost, comes back as it was (`decodeText_render_exact`).
-/
import PortPool.Json.Decode
import PortPool.Proofs.Except
import PortPool.Proofs.Json.Draft

namespace PortPool.Json

set_option autoImplicit false

open PortPool.Text (Utf8.encode)

/-! ## Strings -/

theorem octets?_octets (bs out : List UInt8) (ps : List Piece) :
    octets? out (bs.map .octet ++ ps) = octets? (bs.reverse ++ out) ps := by
  induction bs generalizing out with
  | nil => rfl
  | cons b bs ih =>
    rw [List.map_cons, List.cons_append, octets?, ih, List.reverse_cons, List.append_assoc,
      List.singleton_append]

theorem octets?_piecesOf (c : Char) (out : List UInt8) (ps : List Piece) :
    octets? out (piecesOf c ++ ps) = octets? ((Utf8.encode [c]).reverse ++ out) ps := by
  have octets : Utf8.encode [c] = Text.Utf8.octetsOf c.toNat := by
    rw [Utf8.encode, List.flatMap_singleton, Text.Utf8.utf8EncodeChar_eq]
  unfold piecesOf
  split
  · rename_i control
    have notLow : isLow c.toNat = false := by
      simp only [isLow, Bool.and_eq_false_iff, decide_eq_false_iff_not]
      omega
    have notHigh : isHigh c.toNat = false := by
      simp only [isHigh, Bool.and_eq_false_iff, decide_eq_false_iff_not]
      omega
    rw [List.singleton_append, octets?.eq_def]
    simp only [notLow, notHigh, Bool.false_eq_true, if_false, Char.ofNat_toNat]
  · rw [octets?_octets, octets]

theorem octets?_flatMap (s : List Char) (out : List UInt8) :
    octets? out (s.flatMap piecesOf) = some (out.reverse ++ Utf8.encode s) := by
  induction s generalizing out with
  | nil => simp [octets?, Utf8.encode]
  | cons c s ih =>
    rw [List.flatMap_cons, octets?_piecesOf, ih]
    simp [Utf8.encode]

theorem textOf_textPieces (s : String) : textOf (textPieces s) = .ok s := by
  rw [textOf, textPieces, octets?_flatMap]
  simp [Text.Utf8.strict?_encode]

/-! ## Whole numbers -/

theorem le_foldl_digits (n : Nat) (ds : List Nat) :
    n ≤ ds.foldl (fun n d => n * 10 + d) n := by
  induction ds generalizing n with
  | nil => exact Nat.le_refl n
  | cons d ds ih =>
    have := ih (n * 10 + d)
    rw [List.foldl_cons]
    omega

/-- Digits of a number that 64 bits hold are all taken. -/
theorem absorb_eq {n : Nat} {ds : List Nat}
    (fits : ds.foldl (fun n d => n * 10 + d) n < UInt64.size) :
    absorb n ds = (ds.foldl (fun n d => n * 10 + d) n, []) := by
  induction ds generalizing n with
  | nil => rfl
  | cons d ds ih =>
    have := le_foldl_digits (n * 10 + d) ds
    rw [List.foldl_cons] at fits ⊢
    rw [absorb, if_pos (by omega), ih fits]

theorem absorb_digitValues {n : Nat} (fits : n < UInt64.size) :
    absorb 0 (Text.Numeral.digitValues n) = (n, []) := by
  have denoted := Text.Numeral.ofDigits_digitValues n
  rw [Text.Numeral.ofDigits] at denoted
  rw [absorb_eq (by rwa [denoted]), denoted]

/-- **A whole number that 64 bits hold is read back.** -/
theorem value?_whole {i : Int} (low : -0x8000000000000000 ≤ i) (high : i < UInt64.size) :
    (Number.whole i).numeral.value? = some (.whole i) := by
  have size : (UInt64.size : Int) = 0x10000000000000000 := rfl
  have fits : i.natAbs < UInt64.size := by
    have : UInt64.size = 0x10000000000000000 := rfl
    omega
  simp only [Numeral.value?, Number.numeral, absorb_digitValues fits, List.isEmpty_nil,
    Option.isNone_none, Bool.and_self, if_true, Bool.not_true, Bool.false_eq_true, if_false]
  by_cases negative : i < 0
  · have nonzero : i.natAbs ≠ 0 := by omega
    have within : i.natAbs ≤ 0x8000000000000000 := by omega
    simp only [negative, decide_true, Bool.not_true, Bool.false_eq_true, if_false, nonzero, within,
      if_true]
    congr 2
    omega
  · simp only [negative, decide_false, Bool.not_false, if_true]
    congr 2
    omega

/-! ## Values -/

namespace Value

mutual

/-- The value that the text of a value is read as, if its numbers can be read. -/
def reread : Value → Option Value
  | .number n => n.numeral.value?.map .number
  | .array items => (rereadItems items).map .array
  | .object members => (rereadMembers [] members).map .object
  | v => some v

/-- The items that items are read as. -/
def rereadItems : List Value → Option (List Value)
  | [] => some []
  | v :: vs => do
    let w ← reread v
    let ws ← rereadItems vs
    pure (w :: ws)

/-- The members that members are read as, put in their places among those before. -/
def rereadMembers (before : Members) : List (String × Value) → Option Members
  | [] => some before
  | (name, v) :: ms => do
    let w ← reread v
    rereadMembers (insertMember name w before) ms

end

end Value

/-- What a decoder gives for a value, or for one with a number that is too large. -/
def readOr {α : Type} : Option α → Except Refusal α
  | some v => .ok v
  | none => .error .malformed

namespace Decoder

open Value

mutual

theorem value_draft (v : Value) {room : Nat} (deep : v.depth ≤ room) :
    value room v.draft = readOr v.reread := by
  cases v with
  | null | flag => rfl
  | number n =>
    cases found : n.numeral.value? <;> simp [draft, value, reread, readOr, found]
  | text s =>
    rw [draft, value, textOf_textPieces]
    rfl
  | array items =>
    cases room with
    | zero => simp [depth] at deep
    | succ room =>
      have inner := valueItems_itemDrafts items [] (Nat.le_of_succ_le_succ deep)
      rw [draft, value, inner, reread]
      cases rereadItems items <;> rfl
  | object members =>
    cases room with
    | zero => simp [depth] at deep
    | succ room =>
      have inner := valueMembers_memberDrafts members [] (Nat.le_of_succ_le_succ deep)
      rw [draft, value, inner, reread]
      cases rereadMembers [] members <;> rfl

theorem valueItems_itemDrafts (vs : List Value) (before : List Value) {room : Nat}
    (deep : depthItems vs ≤ room) :
    valueItems room before (itemDrafts vs) = readOr ((rereadItems vs).map (before.reverse ++ ·)) := by
  cases vs with
  | nil => simp [itemDrafts, valueItems, rereadItems, readOr]
  | cons v vs =>
    have first := value_draft v (Nat.le_trans (Nat.le_max_left ..) deep)
    rw [itemDrafts, valueItems, first, rereadItems]
    cases reread v with
    | none => rfl
    | some w =>
      refine (valueItems_itemDrafts vs (w :: before)
        (Nat.le_trans (Nat.le_max_right ..) deep)).trans ?_
      cases rereadItems vs with
      | none => rfl
      | some ws => simp [readOr]

theorem valueMembers_memberDrafts (ms : List (String × Value)) (before : Members) {room : Nat}
    (deep : depthMembers ms ≤ room) :
    valueMembers room before (memberDrafts ms) = readOr (rereadMembers before ms) := by
  cases ms with
  | nil => rfl
  | cons m ms =>
    obtain ⟨name, v⟩ := m
    have first := value_draft v (Nat.le_trans (Nat.le_max_left ..) deep)
    rw [memberDrafts, valueMembers, textOf_textPieces, rereadMembers]
    show (value room v.draft >>= fun w => _) = _
    rw [first]
    cases reread v with
    | none => rfl
    | some w =>
      exact valueMembers_memberDrafts ms (insertMember name w before)
        (Nat.le_trans (Nat.le_max_right ..) deep)

end

mutual

/-- A value that is too deep is refused. -/
theorem value_draft_deep (v : Value) {room : Nat} (deep : room < v.depth) :
    value room v.draft = .error .malformed := by
  cases v with
  | null | flag | number | text => exact absurd deep (Nat.not_lt_zero _)
  | array items =>
    cases room with
    | zero => rfl
    | succ room =>
      rw [draft, value, valueItems_itemDrafts_deep items [] (Nat.lt_of_succ_lt_succ deep)]
      rfl
  | object members =>
    cases room with
    | zero => rfl
    | succ room =>
      rw [draft, value, valueMembers_memberDrafts_deep members [] (Nat.lt_of_succ_lt_succ deep)]
      rfl

theorem valueItems_itemDrafts_deep (vs : List Value) (before : List Value) {room : Nat}
    (deep : room < depthItems vs) :
    valueItems room before (itemDrafts vs) = .error .malformed := by
  cases vs with
  | nil => exact absurd deep (Nat.not_lt_zero _)
  | cons v vs =>
    rw [itemDrafts, valueItems]
    by_cases first : room < v.depth
    · rw [value_draft_deep v first]
      rfl
    · rw [value_draft v (Nat.le_of_not_lt first)]
      cases v.reread with
      | none => rfl
      | some w =>
        refine valueItems_itemDrafts_deep vs (w :: before) ?_
        rw [depthItems] at deep
        omega

theorem valueMembers_memberDrafts_deep (ms : List (String × Value)) (before : Members)
    {room : Nat} (deep : room < depthMembers ms) :
    valueMembers room before (memberDrafts ms) = .error .malformed := by
  cases ms with
  | nil => exact absurd deep (Nat.not_lt_zero _)
  | cons m ms =>
    obtain ⟨name, v⟩ := m
    rw [memberDrafts, valueMembers, textOf_textPieces]
    show (value room v.draft >>= fun w => _) = _
    by_cases first : room < v.depth
    · rw [value_draft_deep v first]
      rfl
    · rw [value_draft v (Nat.le_of_not_lt first)]
      cases v.reread with
      | none => rfl
      | some w =>
        refine valueMembers_memberDrafts_deep ms (insertMember name w before) ?_
        rw [depthMembers] at deep
        omega

end

end Decoder

/-- **An object is read back from its text.** -/
theorem decodeText_render {ms : Members} (plain : Value.EachMember Number.Plain ms)
    (deep : (Value.object ms).depth ≤ deepest) :
    decodeText Decoder.members (Utf8.encode (Value.object ms).render) =
      readOr (Value.rereadMembers [] ms) := by
  have inner := Decoder.valueMembers_memberDrafts ms [] (Nat.le_of_succ_le_succ deep)
  rw [decodeText, ofText_render (v := .object ms) plain]
  show (Decoder.members (126 + 1) (.object (Value.memberDrafts ms) none) >>= fun v => _) = _
  rw [Decoder.members, inner]
  cases Value.rereadMembers [] ms <;> rfl

/-! ## What comes back as it was -/

/-- The number is read back from its text. -/
def Number.Exact (n : Number) : Prop := n.Plain ∧ n.numeral.value? = some n

theorem insertMember_last {name : String} {v : Value} {ms : Members}
    (last : ∀ m ∈ ms, m.1 < name) : insertMember name v ms = ms ++ [(name, v)] := by
  induction ms with
  | nil => rfl
  | cons m ms ih =>
    obtain ⟨other, old⟩ := m
    have before : other < name := last _ List.mem_cons_self
    have notBefore : ¬name < other := String.lt_asymm before
    have differs : name ≠ other := fun same => Std.lt_irrefl (same ▸ before)
    rw [insertMember, if_neg notBefore, if_neg differs,
      ih fun m member => last m (List.mem_cons_of_mem _ member), List.cons_append]

namespace Value

mutual

theorem reread_eq_some (v : Value) (kept : v.Each Number.Exact) (ordered : v.Ordered) :
    v.reread = some v := by
  cases v with
  | null | flag | text => rfl
  | number n =>
    rw [reread, kept.2]
    rfl
  | array items =>
    rw [reread, rereadItems_eq_some items kept ordered]
    rfl
  | object members =>
    rw [reread, rereadMembers_eq_some [] members kept ordered.2 (by simpa using ordered.1)]
    rfl

theorem rereadItems_eq_some (vs : List Value) (kept : EachItem Number.Exact vs)
    (ordered : OrderedItems vs) : rereadItems vs = some vs := by
  cases vs with
  | nil => rfl
  | cons v vs =>
    rw [rereadItems, reread_eq_some v kept.1 ordered.1, rereadItems_eq_some vs kept.2 ordered.2]
    rfl

/-- Members in order are put behind those before them. -/
theorem rereadMembers_eq_some (before : Members) (ms : List (String × Value))
    (kept : EachMember Number.Exact ms) (ordered : OrderedMembers ms)
    (ascends : ((before ++ ms).map (·.1)).Pairwise (· < ·)) :
    rereadMembers before ms = some (before ++ ms) := by
  cases ms with
  | nil => rw [rereadMembers, List.append_nil]
  | cons m ms =>
    obtain ⟨name, v⟩ := m
    have last : ∀ m ∈ before, m.1 < name := by
      intro m member
      rw [List.map_append, List.pairwise_append] at ascends
      exact ascends.2.2 _ (List.mem_map_of_mem member) name List.mem_cons_self
    rw [rereadMembers, reread_eq_some v kept.1 ordered.1]
    show rereadMembers (insertMember name v before) ms = _
    rw [insertMember_last last]
    refine (rereadMembers_eq_some _ ms kept.2 ordered.2 ?_).trans ?_
    · rwa [List.append_assoc]
    · rw [List.append_assoc, List.singleton_append]

end

mutual

theorem exact_of_whole (v : Value) (whole : v.Whole) : v.Each Number.Exact := by
  cases v with
  | null | flag | text => exact trivial
  | number n =>
    cases n with
    | whole i => exact ⟨trivial, value?_whole whole.1 whole.2⟩
    | real x => exact whole.elim
  | array items => exact exact_of_wholeItems items whole
  | object members => exact exact_of_wholeMembers members whole

theorem exact_of_wholeItems (vs : List Value) (whole : WholeItems vs) :
    EachItem Number.Exact vs := by
  cases vs with
  | nil => exact trivial
  | cons v vs => exact ⟨exact_of_whole v whole.1, exact_of_wholeItems vs whole.2⟩

theorem exact_of_wholeMembers (ms : List (String × Value)) (whole : WholeMembers ms) :
    EachMember Number.Exact ms := by
  cases ms with
  | nil => exact trivial
  | cons m ms => exact ⟨exact_of_whole m.2 whole.1, exact_of_wholeMembers ms whole.2⟩

end

end Value

/-- **An object whose numbers all come back comes back as it was.** -/
theorem decodeText_render_exact {ms : Members} (kept : Value.EachMember Number.Exact ms)
    (ordered : (Value.object ms).Ordered) (deep : (Value.object ms).depth ≤ deepest) :
    decodeText Decoder.members (Utf8.encode (Value.object ms).render) = .ok ms := by
  have plain := Value.EachMember.imp (fun _ both => both.1) ms kept
  have same := Value.rereadMembers_eq_some [] ms kept ordered.2 (by simpa using ordered.1)
  rw [decodeText_render plain deep, same]
  rfl

/-! ## What a decoder gives -/

/-- The number was read from a numeral. -/
def Number.Read (n : Number) : Prop := ∃ m : Numeral, m.value? = some n

theorem mem_insertMember {name : String} {v : Value} {ms : Members} {m : String × Value}
    (member : m ∈ insertMember name v ms) : m = (name, v) ∨ m ∈ ms := by
  induction ms with
  | nil => exact .inl (List.mem_singleton.mp member)
  | cons other rest ih =>
    obtain ⟨otherName, old⟩ := other
    simp only [insertMember] at member
    split at member
    · exact List.mem_cons.mp member
    · split at member
      · rcases List.mem_cons.mp member with new | later
        · exact .inl new
        · exact .inr (List.mem_cons_of_mem _ later)
      · rcases List.mem_cons.mp member with first | later
        · exact .inr (first ▸ List.mem_cons_self)
        · rcases ih later with new | old
          · exact .inl new
          · exact .inr (List.mem_cons_of_mem _ old)

namespace Value

theorem depthItems_le_iff {vs : List Value} {n : Nat} :
    depthItems vs ≤ n ↔ ∀ v ∈ vs, v.depth ≤ n := by
  induction vs with
  | nil => simp [depthItems]
  | cons v vs ih => rw [depthItems, Nat.max_le, ih, List.forall_mem_cons]

theorem depthMembers_le_iff {ms : List (String × Value)} {n : Nat} :
    depthMembers ms ≤ n ↔ ∀ m ∈ ms, m.2.depth ≤ n := by
  induction ms with
  | nil => simp [depthMembers]
  | cons m ms ih => rw [depthMembers, Nat.max_le, ih, List.forall_mem_cons]

/-- A value as decoders give them: its numbers were read, and it is not too deep. -/
def Decoded (room : Nat) (v : Value) : Prop := v.Each Number.Read ∧ v.depth ≤ room

theorem Decoded.mono {room more : Nat} {v : Value} (decoded : v.Decoded room)
    (fewer : room ≤ more) : v.Decoded more :=
  ⟨decoded.1, Nat.le_trans decoded.2 fewer⟩

end Value

namespace Decoder

open Value

/-- A decoder passes a property on from the values that it reads to what it makes of them, where
`room` is how many levels may still be opened.  The members of an object are put in their places
one by one; what they have meanwhile is a property of its own. -/
structure Passes (P : Nat → Value → Prop) (Q : Nat → Members → Prop) : Prop where
  null {room : Nat} : P room .null
  flag {room : Nat} (b : Bool) : P room (.flag b)
  number {room : Nat} {n : Number} (read : n.Read) : P room (.number n)
  text {room : Nat} (s : String) : P room (.text s)
  array {room : Nat} {vs : List Value} (each : ∀ v ∈ vs, P room v) : P (room + 1) (.array vs)
  empty {room : Nat} : Q room []
  insert {room : Nat} {name : String} {v : Value} {ms : Members} (new : P room v)
    (earlier : Q room ms) : Q room (insertMember name v ms)
  object {room : Nat} {ms : Members} (all : Q room ms) : P (room + 1) (.object ms)

namespace Passes

variable {P : Nat → Value → Prop} {Q : Nat → Members → Prop}

mutual

/-- **Every value that is read has the property.** -/
theorem of_value (passes : Passes P Q) (d : Draft) {room : Nat} {v : Value}
    (read : value room d = .ok v) : P room v := by
  cases d with
  | null =>
    cases read
    exact passes.null
  | flag b =>
    cases read
    exact passes.flag b
  | numeral n =>
    simp only [value] at read
    split at read
    · cases read
    · rename_i found
      cases read
      exact passes.number ⟨n, found⟩
  | text pieces =>
    obtain ⟨s, -, rfl⟩ := map_eq_ok.mp read
    exact passes.text s
  | array ds ending =>
    cases room with
    | zero => cases read
    | succ room =>
      simp only [value, bind_eq_ok] at read
      obtain ⟨vs, inner, -, -, same⟩ := read
      cases same
      exact passes.array (of_valueItems passes ds inner (by simp))
  | object ms ending =>
    cases room with
    | zero => cases read
    | succ room =>
      simp only [value, bind_eq_ok] at read
      obtain ⟨vs, inner, -, -, same⟩ := read
      cases same
      exact passes.object (of_valueMembers passes ms inner passes.empty)
  | torn t => cases read

theorem of_valueItems (passes : Passes P Q) (ds : List Draft) {room : Nat}
    {before vs : List Value} (read : valueItems room before ds = .ok vs)
    (earlier : ∀ v ∈ before, P room v) : ∀ v ∈ vs, P room v := by
  cases ds with
  | nil =>
    cases read
    exact fun v member => earlier v (List.mem_reverse.mp member)
  | cons d ds =>
    simp only [valueItems, bind_eq_ok] at read
    obtain ⟨v, first, rest⟩ := read
    apply of_valueItems passes ds rest
    intro w member
    rcases List.mem_cons.mp member with rfl | old
    · exact of_value passes d first
    · exact earlier w old

theorem of_valueMembers (passes : Passes P Q) (ds : List (List Piece × Draft)) {room : Nat}
    {before ms : Members} (read : valueMembers room before ds = .ok ms)
    (earlier : Q room before) : Q room ms := by
  cases ds with
  | nil =>
    cases read
    exact earlier
  | cons d ds =>
    simp only [valueMembers, bind_eq_ok] at read
    obtain ⟨name, -, v, first, rest⟩ := read
    exact of_valueMembers passes ds rest (passes.insert (of_value passes d.2 first) earlier)

end

theorem of_members (passes : Passes P Q) {d : Draft} {room : Nat} {ms : Members}
    (read : members room d = .ok ms) : P room (.object ms) := by
  cases d with
  | object ds ending =>
    cases room with
    | zero => cases read
    | succ room =>
      simp only [members, bind_eq_ok] at read
      obtain ⟨vs, inner, -, -, same⟩ := read
      cases same
      exact passes.object (of_valueMembers passes ds inner passes.empty)
  | _ => cases room <;> cases read

end Passes

theorem passes_decoded :
    Passes (fun room v => v.Decoded room) fun room ms => ∀ m ∈ ms, m.2.Decoded room where
  null := ⟨trivial, Nat.zero_le _⟩
  flag _ := ⟨trivial, Nat.zero_le _⟩
  number read := ⟨read, Nat.zero_le _⟩
  text _ := ⟨trivial, Nat.zero_le _⟩
  array each := ⟨eachItem_iff.mpr fun w member => (each w member).1,
    Nat.succ_le_succ (depthItems_le_iff.mpr fun w member => (each w member).2)⟩
  empty := by simp
  insert new earlier m member := by
    rcases mem_insertMember member with rfl | old
    · exact new
    · exact earlier m old
  object all := ⟨eachMember_iff.mpr fun w member => (all w member).1,
    Nat.succ_le_succ (depthMembers_le_iff.mpr fun w member => (all w member).2)⟩

/-- The members of a decoded object make a decoded value. -/
theorem decoded_of_members {d : Draft} {room : Nat} {ms : Members}
    (read : members room d = .ok ms) : (Value.object ms).Decoded room :=
  passes_decoded.of_members read

end Decoder

end PortPool.Json
