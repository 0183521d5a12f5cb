/-
# PortPool.Url.Path -- the way to a document

A path is a sequence of segments, each behind a slash.  The segment `.` names the
level itself and `..` the level above; a path in order has neither.  A segment
that names a drive, a letter and a colon or a bar, is a level that `..` does not
leave.

In the path of a file the first segment may be a drive, which is then written with
a colon.
-/
import PortPool.Text.Split
import PortPool.Url.Escape

namespace PortPool.Url

set_option autoImplicit false

open PortPool.Text

/-- A segment that names the level itself. -/
def isHere (segment : List Char) : Bool :=
  let s := String.ofList (segment.map Char.toLower)
  s = "." || s = "%2e"

/-- A segment that names the level above. -/
def isAbove (segment : List Char) : Bool :=
  let s := String.ofList (segment.map Char.toLower)
  s = ".." || s = ".%2e" || s = "%2e." || s = "%2e%2e"

/-- The letter of a drive.  Where a backslash does not part segments, a segment may
go on with one. -/
def driveOf? : List Char → Option Char
  | c :: mark :: rest =>
    if c.isAlpha && (mark = ':' || mark = '|') && rest.head?.all (· = '\\') then some c else none
  | _ => none

/-- Go up one level; segments stand latest first. -/
def goUp : List (List Char) → List (List Char)
  | [] => []
  | top :: below => if (driveOf? top).isSome then top :: below else below

/-- The segments of a path in order, behind those of `before`, latest first.  A
path that ends in `.` or `..` ends in a slash. -/
def resolve (before : List (List Char)) : List (List Char) → List (List Char)
  | [] => before.reverse
  | segment :: rest =>
    let close (b : List (List Char)) : List (List Char) := if rest.isEmpty then [] :: b else b
    if isAbove segment then resolve (close (goUp before)) rest
    else if isHere segment then resolve (close before) rest
    else resolve (escaped inPath segment :: before) rest

/-- The segments that are parted by slashes, in order. -/
def segmentsOf (s : List Char) : List (List Char) := resolve [] (pieces '/' s)

/-- A text without the slash it begins with. -/
def dropSlash : List Char → List Char
  | '/' :: s => s
  | s => s

/-- A path in order.  It begins with a slash, typed or not. -/
def pathOf (s : List Char) : List Char :=
  '/' :: List.intercalate ['/'] (segmentsOf (dropSlash s))

/-- The drive that segments begin with. -/
def firstDrive? (segments : List (List Char)) : Option Char := segments.head?.bind driveOf?

/-- The path of a file: a drive has a colon, and there is one slash in front. -/
def filePath (segments : List (List Char)) : List Char :=
  let named :=
    match firstDrive? segments with
    | some letter => [letter, ':'] :: segments.tail
    | none => segments
  '/' :: (List.intercalate ['/'] named).dropWhile (· == '/')

end PortPool.Url
