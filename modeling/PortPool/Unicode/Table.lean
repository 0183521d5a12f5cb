/-
# PortPool.Unicode.Table -- properties of characters, as tables

A property of characters is written down as a table: a text of entries parted by
blanks.  An entry names a span of characters by hexadecimal numbers, `AA` or
`C0-D6`, and may say something about them behind a colon.  `spans` reads a table
of spans alone, `noted` one whose entries say something.
-/
import PortPool.Text.Numeral
import PortPool.Text.Split

namespace PortPool.Unicode

set_option autoImplicit false

open PortPool.Text

/-- All characters from one to another. -/
structure Span where
  first : Nat
  last : Nat
deriving DecidableEq, Repr

/-- The character lies in the span. -/
def Span.has (s : Span) (c : Char) : Bool := s.first ≤ c.toNat && c.toNat ≤ s.last

/-- The entries of a table. -/
def entries (table : String) : List (List Char) :=
  let (done, word) := table.toList.foldl
    (fun (done, word) c =>
      if c = ' ' || c = '\n' then (if word.isEmpty then done else word.reverse :: done, [])
      else (done, c :: word))
    (([] : List (List Char)), ([] : List Char))
  (if word.isEmpty then done else word.reverse :: done).reverse

/-- The number of a character. -/
def codeOf (digits : List Char) : Nat := (Numeral.natOf? 16 digits).getD 0

/-- The character of a number. -/
def charOf (digits : List Char) : Char := Char.ofNat (codeOf digits)

/-- The span that an entry names. -/
def spanOf (entry : List Char) : Span :=
  match cutFirst '-' entry with
  | (first, some last) => ⟨codeOf first, codeOf last⟩
  | (only, none) => ⟨codeOf only, codeOf only⟩

/-- The spans of a table. -/
def spans (table : String) : List Span := (entries table).map spanOf

/-- The spans of a table, and what it says about each. -/
def noted {α : Type} (read : List Char → α) (table : String) : List (Span × α) :=
  (entries table).map fun entry =>
    let (span, note) := cutFirst ':' entry
    (spanOf span, read (note.getD []))

/-- The character lies in one of the spans. -/
def isIn (ss : List Span) (c : Char) : Bool := ss.any (·.has c)

/-- What a table says about a character. -/
def note? {α : Type} (rows : List (Span × α)) (c : Char) : Option α :=
  (rows.find? (·.1.has c)).map (·.2)

/-- The characters that points part. -/
def charsOf (s : List Char) : List Char := (pieces '.' s).map charOf

end PortPool.Unicode
