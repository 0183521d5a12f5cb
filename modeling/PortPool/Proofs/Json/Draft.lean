/-
# PortPool.Proofs.Json.Draft -- the tree of a rendered value

The builder turns the tokens of a value into the tree that `Value.draft` describes,
whole and with nothing behind it (`ofText_render`).  A value is taken wherever one may
stand and is handed to what is open around it, so the statement about one value is
about the builder with any stack (`foldl_spelling`).
-/
import PortPool.Json.Draft
import PortPool.Proofs.Json.Token

namespace PortPool.Json

set_option autoImplicit false

namespace Value

mutual

/-- The tree of a value. -/
def draft : Value → Draft
  | .null => .null
  | .flag b => .flag b
  | .number n => .numeral n.numeral
  | .text s => .text (textPieces s)
  | .array items => .array (itemDrafts items) none
  | .object members => .object (memberDrafts members) none

/-- The trees of items. -/
def itemDrafts : List Value → List Draft
  | [] => []
  | v :: vs => draft v :: itemDrafts vs

/-- The trees of members, with their names. -/
def memberDrafts : List (String × Value) → List (List Piece × Draft)
  | [] => []
  | (name, v) :: ms => (textPieces name, draft v) :: memberDrafts ms

end

end Value

namespace Builder

open Value

variable {stack : List Frame}

/-- Where the first item may stand, a value may. -/
theorem foldl_firstItem (v : Value) (rest : List Token) :
    (spelling v ++ rest).foldl step ⟨.firstItem, stack⟩ =
      (spelling v ++ rest).foldl step ⟨.value, .array [] :: stack⟩ := by
  cases v with
  | null | flag | number | text => rfl
  | array items => cases items <;> rfl
  | object members => cases members <;> rfl

mutual

theorem foldl_spelling (v : Value) (stack : List Frame) (rest : List Token) :
    (spelling v ++ rest).foldl step ⟨.value, stack⟩ = rest.foldl step (deliver v.draft stack) := by
  cases v with
  | null | flag | number | text => rfl
  | array items =>
    cases items with
    | nil => rfl
    | cons v vs =>
      have opened : step ⟨.value, stack⟩ .openArray = ⟨.firstItem, stack⟩ := rfl
      simp only [spelling, List.cons_append, List.append_assoc]
      rw [List.foldl_cons, opened, foldl_firstItem, foldl_spelling v]
      exact foldl_itemsSpelling vs [v.draft] stack rest
  | object members =>
    cases members with
    | nil => rfl
    | cons m ms =>
      obtain ⟨name, v⟩ := m
      simp only [spelling, List.cons_append, List.append_assoc, List.foldl_cons]
      exact (foldl_spelling v (.object [] (textPieces name) :: stack) _).trans
        (foldl_membersSpelling ms [(textPieces name, v.draft)] stack rest)

theorem foldl_itemsSpelling (vs : List Value) (items : List Draft) (stack : List Frame)
    (rest : List Token) :
    (itemsSpelling vs ++ rest).foldl step ⟨.itemEnd items, stack⟩ =
      rest.foldl step (deliver (.array (items.reverse ++ itemDrafts vs) none) stack) := by
  cases vs with
  | nil =>
    rw [itemDrafts, List.append_nil]
    rfl
  | cons v vs =>
    simp only [itemsSpelling, List.cons_append, List.append_assoc, List.foldl_cons]
    apply (foldl_spelling v (.array items :: stack) _).trans
    apply (foldl_itemsSpelling vs (v.draft :: items) stack rest).trans
    rw [itemDrafts, List.reverse_cons, List.append_assoc, List.singleton_append]

theorem foldl_membersSpelling (ms : List (String × Value)) (members : List (List Piece × Draft))
    (stack : List Frame) (rest : List Token) :
    (membersSpelling ms ++ rest).foldl step ⟨.memberEnd members, stack⟩ =
      rest.foldl step (deliver (.object (members.reverse ++ memberDrafts ms) none) stack) := by
  cases ms with
  | nil =>
    rw [memberDrafts, List.append_nil]
    rfl
  | cons m ms =>
    obtain ⟨name, v⟩ := m
    simp only [membersSpelling, List.cons_append, List.append_assoc, List.foldl_cons]
    apply (foldl_spelling v (.object members (textPieces name) :: stack) _).trans
    apply (foldl_membersSpelling ms ((textPieces name, v.draft) :: members) stack rest).trans
    rw [memberDrafts, List.reverse_cons, List.append_assoc, List.singleton_append]

end

end Builder

theorem ofTokens_spelling (v : Value) : Draft.ofTokens v.spelling = ⟨v.draft, false⟩ := by
  have built := Builder.foldl_spelling v [] []
  rw [List.append_nil] at built
  rw [Draft.ofTokens, Builder.start, built]
  rfl

/-- **The tree of the text of a value is that of the value.** -/
theorem ofText_render {v : Value} (plain : v.Each Number.Plain) :
    Draft.ofText (Text.Utf8.encode v.render) = ⟨v.draft, false⟩ := by
  rw [Draft.ofText, tokens_render plain, ofTokens_spelling]

end PortPool.Json
