/-
# PortPool.Host.Kernel -- what the kernel's files say of a machine

The kernel tells in text files when the machine was started, which processors it
has and what its host name is.
-/
import PortPool.Text.Blank
import PortPool.Text.Utf8
import PortPool.Text.Numeral

namespace PortPool.Host.Kernel

set_option autoImplicit false

open PortPool.Text

/-- The lines of a file as words; a file that is missing or no text has none. -/
def wordLines (file : Option (List UInt8)) : List (List (List Char)) :=
  (lines ((file.bind Utf8.strict?).getD [])).map words

/-- When the machine was started, in seconds after the first of January 1970, from
the statistics of the kernel. -/
def startSecond? (statistics : Option (List UInt8)) : Option Nat :=
  (wordLines statistics).findSome? fun line =>
    match line with
    | [name, value] => if name = "btime".toList then Numeral.natOf? 10 value else none
    | _ => none

/-- How many processors the kernel lists. -/
def processors (list : Option (List UInt8)) : Nat :=
  ((wordLines list).filter fun line => line.head? == some "processor".toList).length

/-- The host name in its file, which ends with a line feed. -/
def hostname (file : Option (List UInt8)) : Option (List UInt8) :=
  file.map fun octets => octets.takeWhile (· ≠ 0x0A)

end PortPool.Host.Kernel
