/-
# PortPool.Text.Split -- cutting a list at a mark

Paths are cut at slashes, query strings at ampersands, targets and addresses at
colons.  `pieces` cuts at every mark, `cutFirst` at the first, `cutLast` at the
last.
-/
namespace PortPool.Text

set_option autoImplicit false

variable {α : Type} [BEq α]

/-- The parts between the marks: one more than there are marks. -/
def pieces (mark : α) : List α → List (List α)
  | [] => [[]]
  | a :: s =>
    match pieces mark s with
    | [] => [[a]]
    | p :: ps => if a == mark then [] :: p :: ps else (a :: p) :: ps

/-- What stands before the first mark, and what after it, if there is one. -/
def cutFirst (mark : α) : List α → List α × Option (List α)
  | [] => ([], none)
  | a :: s =>
    if a == mark then ([], some s)
    else
      let (before, after) := cutFirst mark s
      (a :: before, after)

/-- What stands before the last mark and what after it, if there is one. -/
def cutLast (mark : α) : List α → Option (List α × List α)
  | [] => none
  | a :: s =>
    match cutLast mark s with
    | some (before, after) => some (a :: before, after)
    | none => if a == mark then some ([], s) else none

/-- The pattern stands somewhere in the text; the empty one does everywhere. -/
def occursIn (pattern : List α) : List α → Bool
  | [] => pattern.isEmpty
  | a :: s => pattern.isPrefixOf (a :: s) || occursIn pattern s

end PortPool.Text
