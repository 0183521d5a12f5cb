/-
# PortPool.Time.Rfc3339 -- instants as text

Instants are stored and sent as RFC 3339 text.  `stored` ends in `+00:00` and
`wire` in `Z`; both write the fewest of 0, 3, 6 or 9 digits of a second that
lose nothing.

There are two readers.  `read?` takes the text of a stored row: fixed widths, a
colon in the offset, nothing before or after.  `readLoosely?` takes the text of
a body: numbers may lack leading zeros, the year may have a sign, blanks may
stand between the parts, and the offset may be `UTC` or lack its colon.
-/
import PortPool.Time.Instant
import PortPool.Text.Blank
import PortPool.Text.Numeral
import PortPool.Text.Reader

namespace PortPool.Time.Rfc3339

set_option autoImplicit false

open PortPool.Text (Numeral.padded isBlank Reader Reader.char)

/-! ## Writing -/

/-- Four digits; outside of them a sign and at least four. -/
def yearText (year : Int) : List Char :=
  if 0 ≤ year ∧ year ≤ 9999 then Numeral.padded 4 year.natAbs
  else (if year < 0 then '-' else '+') :: Numeral.padded 4 year.natAbs

/-- The date with hyphens. -/
def dateText (d : Date) : List Char :=
  yearText d.year ++ '-' :: Numeral.padded 2 d.month ++ '-' :: Numeral.padded 2 d.day

/-- The fraction of a second with the fewest of 0, 3, 6 or 9 digits. -/
def fractionText (nano : Nat) : List Char :=
  if nano = 0 then []
  else if nano % 1000000 = 0 then '.' :: Numeral.padded 3 (nano / 1000000)
  else if nano % 1000 = 0 then '.' :: Numeral.padded 6 (nano / 1000)
  else '.' :: Numeral.padded 9 nano

/-- The time with colons; a leap second is the sixtieth. -/
def clockText (c : Clock) : List Char :=
  let (second, nano) :=
    if 1000000000 ≤ c.nano then (c.second + 1, c.nano - 1000000000) else (c.second, c.nano)
  Numeral.padded 2 c.hour ++ ':' :: Numeral.padded 2 c.minute ++ ':' :: Numeral.padded 2 second ++
    fractionText nano

/-- Date and time, joined by `mark`. -/
def text (mark : Char) (t : Instant) : List Char := dateText t.date ++ mark :: clockText t.clock

/-- The text of a stored row. -/
def stored (t : Instant) : String := String.ofList (text 'T' t ++ ['+', '0', '0', ':', '0', '0'])

/-- The text in an answer. -/
def wire (t : Instant) : String := String.ofList (text 'T' t ++ ['Z'])

/-- The text shown to people. -/
def shown (t : Instant) : String := String.ofList (text ' ' t ++ [' ', 'U', 'T', 'C'])

/-! ## Reading -/

/-- A run of at least `low` digits, of which at most `high` are taken. -/
def number (low high : Nat) : Reader Nat := do
  let s ← get
  let ds := (s.take high).takeWhile fun c => '0' ≤ c && c ≤ '9'
  if ds.length < low then failure
  set (s.drop ds.length)
  pure (PortPool.Text.Numeral.ofDigits 10 (ds.map fun c => c.toNat - '0'.toNat))

/-- The blanks that stand here. -/
def blanks : Reader Unit := modify fun s => s.dropWhile isBlank

/-- The mark between a date and a time. -/
def divider : Reader Unit := do
  match ← get with
  | c :: s => if c = 'T' || c = 't' || c = ' ' then set s else failure
  | [] => failure

/-- The fraction of a second, if there is one; digits after the ninth are passed
over. -/
def fraction : Reader Nat := do
  match ← get with
  | '.' :: s =>
    let ds := s.takeWhile fun c => '0' ≤ c && c ≤ '9'
    if ds.isEmpty then failure
    set (s.drop ds.length)
    let nine := (ds ++ List.replicate 9 '0').take 9
    pure (PortPool.Text.Numeral.ofDigits 10 (nine.map fun c => c.toNat - '0'.toNat))
  | _ => pure 0

/-- The minutes of an offset after its sign: two digits, what may part them, two
digits. -/
def offsetMinutes (between : Reader Unit) : Reader Nat := do
  let hours ← number 2 2
  between
  let minutes ← number 2 2
  if 60 ≤ minutes then failure
  pure (hours * 60 + minutes)

/-- An offset in minutes; its minus sign may be U+2212. -/
def offset (between : Reader Unit) : Reader Int := do
  match ← get with
  | [] => failure
  | c :: s =>
    if c = 'Z' || c = 'z' then
      set s
      pure 0
    else if c = '+' then
      set s
      return (← offsetMinutes between : Nat)
    else if c = '-' || c.toNat = 0x2212 then
      set s
      return -(← offsetMinutes between : Nat)
    else failure

/-- The instant of the numbers read. -/
def assemble (year : Int) (month day hour minute second nano : Nat) (offset : Int) :
    Option Instant := do
  Instant.ofLocal? (← Date.make? year month day) (← Clock.make? hour minute second nano) offset

/-- The reader of a stored instant. -/
def strictly : Reader Instant := do
  let year ← number 4 4
  Reader.char '-'
  let month ← number 2 2
  Reader.char '-'
  let day ← number 2 2
  divider
  let hour ← number 2 2
  Reader.char ':'
  let minute ← number 2 2
  Reader.char ':'
  let second ← number 2 2
  let nano ← fraction
  let shift ← offset (Reader.char ':')
  assemble year month day hour minute second nano shift

/-- A year with a sign, or of at most four digits. -/
def signedYear : Reader Int := do
  let s ← get
  match s with
  | '-' :: rest =>
    set rest
    return -((← number 1 rest.length : Nat) : Int)
  | '+' :: rest =>
    set rest
    return (← number 1 rest.length : Nat)
  | _ => return (← number 1 4 : Nat)

/-- The offset of a body's instant. -/
def looseOffset : Reader Int := do
  let s ← get
  if (s.take 3).map Char.toUpper = ['U', 'T', 'C'] then
    set (s.drop 3)
    pure 0
  else
    offset (modify fun s => s.dropWhile fun c => c = ':' || isBlank c)

/-- The reader of an instant in a body. -/
def loosely : Reader Instant := do
  blanks
  let year ← signedYear
  blanks
  Reader.char '-'
  blanks
  let month ← number 1 2
  blanks
  Reader.char '-'
  blanks
  let day ← number 1 2
  divider
  blanks
  let hour ← number 1 2
  blanks
  Reader.char ':'
  blanks
  let minute ← number 1 2
  blanks
  Reader.char ':'
  blanks
  let second ← number 1 2
  let nano ← fraction
  blanks
  let shift ← looseOffset
  blanks
  assemble year month day hour minute second nano shift

/-- The instant of a stored text. -/
def read? (s : String) : Option Instant := strictly.whole s.toList

/-- The instant of a text in a body. -/
def readLoosely? (s : String) : Option Instant := loosely.whole s.toList

end PortPool.Time.Rfc3339
