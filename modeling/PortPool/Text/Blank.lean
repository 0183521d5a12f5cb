/-
# PortPool.Text.Blank -- blanks, trimming and words

Names, ids, port numerals and socket tables are cut at blanks.  A blank is a
character with the Unicode property `White_Space`; the twenty-five of them are
listed here once, and `trim`, `words` and `lines` are said in terms of them.
-/
namespace PortPool.Text

set_option autoImplicit false

/-- A character with the Unicode property `White_Space`. -/
def isBlank (c : Char) : Bool :=
  let n := c.toNat
  (0x09 ≤ n && n ≤ 0x0D) || n == 0x20 || n == 0x85 || n == 0xA0 || n == 0x1680 ||
    (0x2000 ≤ n && n ≤ 0x200A) || n == 0x2028 || n == 0x2029 || n == 0x202F || n == 0x205F ||
    n == 0x3000

/-- The text without its leading blanks. -/
def trimStart (s : List Char) : List Char := s.dropWhile isBlank

/-- The text without its trailing blanks. -/
def trimEnd (s : List Char) : List Char := (s.reverse.dropWhile isBlank).reverse

/-- The text without its leading and trailing blanks. -/
def trim (s : List Char) : List Char := trimEnd (trimStart s)

/-- The string without its leading and trailing blanks. -/
def trimmed (s : String) : String := String.ofList (trim s.toList)

/-- The maximal runs of characters that are no blanks, in order. -/
def words : List Char → List (List Char)
  | [] => []
  | c :: s =>
    if isBlank c then words s
    else
      match s with
      | [] => [[c]]
      | d :: _ =>
        if isBlank d then [c] :: words s
        else
          match words s with
          | [] => [[c]]
          | w :: ws => (c :: w) :: ws

/-- The lines of a text: each ends with a line feed, which the last one may
lack; an empty last line is none. -/
def lines : List Char → List (List Char)
  | [] => []
  | c :: s =>
    if c = '\n' then [] :: lines s
    else
      match lines s with
      | [] => [[c]]
      | l :: ls => (c :: l) :: ls

end PortPool.Text
