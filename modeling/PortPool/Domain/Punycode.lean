/-
# PortPool.Domain.Punycode -- any characters by letters, digits and hyphens

A label with characters outside ASCII is also written with ASCII alone: first its
ASCII characters, then a hyphen if there are any, then an account of the others.
That account inserts them one by one in the order of their codes.  It is a
sequence of numbers, each saying how many insertions to pass over: places in the
text turn first, then the code goes up.  A number is written with digits of base
36, lowest first, where the value below which a digit is the last one depends on
its place and on a bias that follows the size of the numbers so far.
-/
namespace PortPool.Domain.Punycode

set_option autoImplicit false

/-- The first code that is inserted. -/
def firstCode : Nat := 128

def firstBias : Nat := 72

/-- The value below which a digit is the last one of its number. -/
def threshold (place bias : Nat) : Nat :=
  if place ≤ bias then 1 else if bias + 26 ≤ place then 26 else place - bias

theorem threshold_pos (place bias : Nat) : 1 ≤ threshold place bias := by
  simp only [threshold]
  split
  · omega
  · split <;> omega

/-- A number divided by 35 until it is at most 455, and 36 for each division. -/
def shrink (delta place : Nat) : Nat × Nat :=
  if 455 < delta then shrink (delta / 35) (place + 36) else (delta, place)
termination_by delta
decreasing_by omega

/-- The bias after a number, when the text has `length` characters. -/
def adapt (delta length : Nat) (isFirst : Bool) : Nat :=
  let halved := delta / (if isFirst then 700 else 2)
  let (delta, place) := shrink (halved + halved / length) 0
  place + 36 * delta / (delta + 38)

/-! ## Writing -/

def digitChar (d : Nat) : Char := Char.ofNat (if d < 26 then 0x61 + d else 0x30 + (d - 26))

/-- The digits of a number, from a place on. -/
def digits (bias place n : Nat) : List Char :=
  let t := threshold place bias
  if n < t then [digitChar n]
  else digitChar (t + (n - t) % (36 - t)) :: digits bias (place + 36) ((n - t) / (36 - t))
termination_by n
decreasing_by
  have := threshold_pos place bias
  have : (n - threshold place bias) / (36 - threshold place bias) ≤ n - threshold place bias :=
    Nat.div_le_self _ _
  omega

/-- An account that is being written: the digits so far; the insertions to pass
over until the next; the bias; and how many characters are accounted for. -/
structure Writing where
  out : List Char
  delta : Nat
  bias : Nat
  done : Nat
deriving Repr

/-- Pass over a character of the text, or write its insertion if it has the code. -/
def Writing.pass (basic code : Nat) (w : Writing) (c : Char) : Writing :=
  if c.toNat < code then { w with delta := w.delta + 1 }
  else if c.toNat = code then
    ⟨w.out ++ digits w.bias 36 w.delta, 0, adapt w.delta (w.done + 1) (w.done == basic),
      w.done + 1⟩
  else w

/-- Write the insertions of some codes, in ascending order from `code` on. -/
def Writing.codes (s : List Char) (basic : Nat) : Nat → List Nat → Writing → Writing
  | _, [], w => w
  | code, next :: rest, w =>
    let w := { w with delta := w.delta + (next - code) * (w.done + 1) }
    let w := s.foldl (Writing.pass basic next) w
    codes s basic (next + 1) rest { w with delta := w.delta + 1 }

/-- The numbers of a list, each once, the smallest first. -/
def distinct (ns : List Nat) : List Nat :=
  (ns.mergeSort fun a b => a ≤ b).eraseDups

/-- A text by letters, digits and hyphens. -/
def encode (s : List Char) : List Char :=
  let basic := s.filter fun c => c.toNat < firstCode
  let others := (s.filter fun c => firstCode ≤ c.toNat).map Char.toNat
  let account :=
    Writing.codes s basic.length firstCode (distinct others) ⟨[], 0, firstBias, basic.length⟩
  basic ++ (if basic.isEmpty then [] else ['-']) ++ account.out

/-! ## Reading -/

def digit? (c : Char) : Option Nat :=
  let n := c.toNat
  if 0x61 ≤ n ∧ n ≤ 0x7A then some (n - 0x61)
  else if 0x41 ≤ n ∧ n ≤ 0x5A then some (n - 0x41)
  else if 0x30 ≤ n ∧ n ≤ 0x39 then some (n - 0x30 + 26)
  else none

/-- An account that is being read: the text so far and its length; the code and
the position that the insertions have come to, and where they stood before the
number at hand; the weight and the place of its next digit; and the bias. -/
structure Reading where
  out : List Char
  length : Nat
  code : Nat
  position : Nat
  before : Nat
  weight : Nat
  place : Nat
  bias : Nat
deriving Repr

/-- Insert a character where a number ends. -/
def Reading.insert (r : Reading) : Option Reading :=
  let code := r.code + r.position / (r.length + 1)
  let position := r.position % (r.length + 1)
  if code.isValidChar then
    some ⟨r.out.take position ++ Char.ofNat code :: r.out.drop position, r.length + 1, code,
      position + 1, position + 1, 1, 36,
      adapt (r.position - r.before) (r.length + 1) (r.before == 0)⟩
  else none

/-- Read one more digit.  Numbers have 32 bits. -/
def Reading.step (r : Reading) (c : Char) : Option Reading := do
  let d ← digit? c
  let position := r.position + d * r.weight
  let t := threshold r.place r.bias
  if UInt32.size ≤ position then none
  else if d < t then Reading.insert { r with position }
  else if UInt32.size ≤ r.weight * (36 - t) then none
  else some { r with position, weight := r.weight * (36 - t), place := r.place + 36 }

/-- The ASCII characters of a text, and its account. -/
def halves (s : List Char) : List Char × List Char :=
  let account := (s.reverse.takeWhile (· ≠ '-')).reverse
  let basic := s.take (s.length - account.length - 1)
  if basic.isEmpty then ([], s) else (basic, account)

/-- The text that letters, digits and hyphens stand for. -/
def decode (s : List Char) : Option (List Char) := do
  let (basic, account) := halves s
  let r ← account.foldlM Reading.step
    ⟨basic, basic.length, firstCode, 0, 0, 1, 36, firstBias⟩
  if r.place = 36 then some r.out else none

end PortPool.Domain.Punycode
