/-
# PortPool.Domain.Label -- the parts of a domain name

The parts of a name between its points are labels.  A label is written with any
characters or with ASCII alone; the written form of the second kind begins with
`xn--`.  `reading` gives the first form of both, if the label is one at all.

A label does not begin with a mark, and a joiner stands in it only where it makes
a difference.  In a name in which anything runs to the left every label keeps to
one direction.
-/
import PortPool.Domain.Punycode
import PortPool.Domain.Spelling
import PortPool.Unicode.Direction
import PortPool.Unicode.Joining
import PortPool.Unicode.Mark
import PortPool.Unicode.Normal

namespace PortPool.Domain.Label

set_option autoImplicit false

open PortPool.Unicode

/-- What a label in ASCII that stands for another begins with. -/
def mark : List Char := ['x', 'n', '-', '-']

/-- All characters are in ASCII. -/
def isPlain (label : List Char) : Bool := label.all fun c => c.toNat < 0x80

/-- The most characters that a label is written for, and read from. -/
def longestWritten : Nat := 1000
def longestRead : Nat := 2000

/-! ## Joiners -/

/-- Makes letters join. -/
def joiner : Char := '\u200d'

/-- Keeps letters from joining. -/
def nonJoiner : Char := '\u200c'

/-- Every joiner of a label, `before` in front of it, latest first, makes a
difference: it follows a sign that takes a vowel away, or keeps two letters apart
that would join. -/
def joinersMatter (before : List Char) : List Char → Bool
  | [] => true
  | c :: rest =>
    let matters :=
      if c = joiner || c = nonJoiner then
        before.head?.any (combiningClass · == virama) ||
          (c = nonJoiner && joinsNearest [.after, .both] before &&
            joinsNearest [.before, .both] rest)
      else true
    matters && joinersMatter (c :: before) rest

/-! ## Directions -/

/-- The character runs to the left. -/
def runsLeft (c : Char) : Bool :=
  match directionOf c with
  | .leftward | .arabicLetter | .arabicDigit => true
  | _ => false

/-- Directions that take part in a text of either way. -/
def inBoth : List Direction :=
  [.digit, .digitSign, .digitSeparator, .digitEnding, .neutral, .invisible, .mark]

/-- The label keeps to the direction of its first character: only what takes part
in that direction stands in it, it ends in a letter or a digit, marks behind
that aside, and one to the left has digits of one kind only. -/
def keepsDirection (label : List Char) : Bool :=
  let ds := label.map directionOf
  let last := (ds.reverse.find? (· != .mark)).getD .mark
  match ds.head? with
  | none => true
  | some .rightward =>
    ds.all (fun d => d == .rightward || inBoth.contains d) && [.rightward, .digit].contains last
  | some .leftward | some .arabicLetter =>
    ds.all (fun d => [.leftward, .arabicLetter, .arabicDigit].contains d || inBoth.contains d) &&
      [.leftward, .arabicLetter, .arabicDigit, .digit].contains last &&
      !(ds.contains .digit && ds.contains .arabicDigit)
  | some _ => false

/-! ## The two forms -/

/-- Spelling and composing the label change nothing. -/
def isSpelledOut (label : List Char) : Bool :=
  label.all (fun c => spelled c == some [c]) && composed label == label

/-- The rules for a label by itself. -/
def isWellFormed (label : List Char) : Bool :=
  !label.head?.any isMark && joinersMatter [] label &&
    (isPlain label || label.length ≤ longestWritten)

/-- The label in any characters; none if it is no label. -/
def reading (label : List Char) : Option (List Char) :=
  if mark.isPrefixOf label then
    let account := label.drop mark.length
    if isPlain label && account.length ≤ longestRead then
      (Punycode.decode account).filter fun read =>
        !isPlain read && !mark.isPrefixOf read && isSpelledOut read && isWellFormed read
    else none
  else if isWellFormed label then some label
  else none

/-- The label in ASCII. -/
def written (label : List Char) : List Char :=
  if isPlain label then label else mark ++ Punycode.encode label

end PortPool.Domain.Label
