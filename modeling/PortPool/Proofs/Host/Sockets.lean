/-
# PortPool.Proofs.Host.Sockets -- exactly the ports on which a machine listens

A table of the kernel is a header and lines, and each line is that of a socket or has fewer
than four columns (`Row`).  The line of a socket is read as its port if it listens, and any
other line as nothing (`portOfLine_text`).  So all that a machine finds in its tables is which
sockets listen: neither the order of the lines, nor the table in which they stand, nor any
other line changes it (`listening_law`).
-/
import Mathlib.Data.List.Basic
import PortPool.Host.Sockets
import PortPool.Proofs.Table
import PortPool.Proofs.Text.Numeral
import PortPool.Proofs.Text.Percent
import PortPool.Proofs.Text.Spacing
import PortPool.Proofs.Text.Split

namespace PortPool.Host.Sockets

set_option autoImplicit false

open Text (Numeral.digits Percent.digit Spaced Utf8.encode)

/-! ## Hexadecimal numbers -/

/-- A number in capital hexadecimal digits, of which there are as many as the width. -/
def hexadecimal : Nat → Nat → List Char
  | 0, _ => []
  | width + 1, n => hexadecimal width (n / 16) ++ [Percent.digit (n % 16)]

theorem digit?_digit {d : Nat} (small : d < 16) :
    Text.Numeral.digit? 16 (Percent.digit d) = some d := by
  decide +revert

theorem exists_of_mem_hexadecimal {width n : Nat} {c : Char} (member : c ∈ hexadecimal width n) :
    ∃ d < 16, Percent.digit d = c := by
  induction width generalizing n with
  | zero => cases member
  | succ width ih =>
    rcases List.mem_append.mp member with front | last
    · exact ih front
    · exact ⟨n % 16, Nat.mod_lt _ (by decide), (List.mem_singleton.mp last).symm⟩

theorem natOf?_hexadecimal (width n : Nat) :
    Text.Numeral.natOf? 16 (hexadecimal (width + 1) n) = some (n % 16 ^ (width + 1)) := by
  have last (n : Nat) := digit?_digit (Nat.mod_lt n (by decide : 16 > 0))
  induction width generalizing n with
  | zero => rw [hexadecimal, hexadecimal, List.nil_append, Text.Numeral.natOf?_singleton, last]; rfl
  | succ width ih =>
    have some_ : hexadecimal (width + 1) (n / 16) ≠ [] := by simp [hexadecimal]
    rw [hexadecimal, Text.Numeral.natOf?_concat 16 some_, ih, last, Option.bind_some,
      Option.map_some, Nat.pow_succ 16 (width + 1), Nat.mul_comm (16 ^ (width + 1)),
      Nat.mod_mul, Nat.mul_comm 16, Nat.add_comm]

/-- **Four digits are read as the port that they were written for.** -/
theorem unsigned?_hexadecimal (p : PortNumber) :
    Text.Numeral.unsigned? 16 (hexadecimal 4 p.val) = some p.val := by
  have read := natOf?_hexadecimal 3 p.val
  rw [Nat.mod_eq_of_lt (show p.val < 16 ^ (3 + 1) from p.isLt)] at read
  unfold Text.Numeral.unsigned?
  split
  · rename_i signed
    have other : ∀ d < 16, Percent.digit d ≠ '+' := by decide
    obtain ⟨d, small, isPlus⟩ :=
      exists_of_mem_hexadecimal (c := '+') (signed ▸ List.mem_cons_self)
    exact absurd isPlus (other d small)
  · exact read

/-! ## Tables -/

/-- What the kernel tells of a socket.  Its local address is text without blanks, whatever
the family. -/
structure Socket where
  slot : Nat
  address : List Char
  port : PortNumber
  remote : List Char
  state : Fin 256
  more : List (List Char)

/-- The columns of a socket: its slot and a colon, its address and port, the remote end, its
state, and others. -/
def Socket.columns (s : Socket) : List (List Char) :=
  (Numeral.digits s.slot ++ [':']) :: (s.address ++ ':' :: hexadecimal 4 s.port.val) ::
    s.remote :: hexadecimal 2 s.state.val :: s.more

/-- A line that tells of a socket, with any blanks around its columns, or one of fewer than
four columns, which tells of none. -/
inductive Row : List Char → Option Socket → Prop
  | socket {line : List Char} (s : Socket) (spaced : Spaced s.columns line) : Row line (some s)
  | short {line : List Char} {columns : List (List Char)} (few : columns.length < 4)
    (spaced : Spaced columns line) : Row line none

/-- A line of a table. -/
structure Line where
  text : List Char
  socket? : Option Socket
  row : Row text socket?
  single : '\n' ∉ text

/-- A table of sockets: a header and lines, of which the last may lack its line feed. -/
structure Table where
  header : List Char
  lines : List Line
  ended : Bool
  single : '\n' ∉ header

/-- The file of a table. -/
def Table.octets (t : Table) : List UInt8 :=
  Utf8.encode (Text.joined t.header (t.lines.map (·.text)) t.ended)

/-- The files of some tables, each of which may be missing. -/
def files (tables : List (Option Table)) : List (Option (List UInt8)) :=
  tables.map fun table => table.map Table.octets

/-- The lines of some tables. -/
def linesOf (tables : List (Option Table)) : List Line :=
  tables.flatMap fun table => (table.map Table.lines).getD []

/-- The sockets that some tables tell of. -/
def socketsOf (tables : List (Option Table)) : List Socket := (linesOf tables).filterMap (·.socket?)

/-! ## Reading -/

/-- The port on which the socket of a line listens. -/
def Line.listensOn? (l : Line) : Option Nat :=
  l.socket?.bind fun s => if s.state = 0x0A then some s.port.val else none

theorem portOfLine_socket {line : List Char} {s : Socket} (spaced : Spaced s.columns line) :
    portOfLine line = if s.state = 0x0A then some s.port.val else none := by
  have listens : hexadecimal 2 s.state.val = listening ↔ s.state = 0x0A := by
    have each : ∀ state : Fin 256, hexadecimal 2 state.val = listening ↔ state = 0x0A := by
      decide +kernel
    exact each s.state
  have parts : Text.cutLast ':' (s.address ++ ':' :: hexadecimal 4 s.port.val) =
      some (s.address, hexadecimal 4 s.port.val) := by
    refine Text.cutLast_append _ fun member => ?_
    have other : ∀ d < 16, Percent.digit d ≠ ':' := by decide
    obtain ⟨d, small, isColon⟩ := exists_of_mem_hexadecimal member
    exact other d small isColon
  rw [portOfLine, Text.words_eq_iff.mpr spaced]
  simp only [Socket.columns, listens, parts, Option.bind_eq_bind, Option.bind_some]
  rw [unsigned?_hexadecimal, Option.filter_some_pos (by simp)]

theorem portOfLine_short {line : List Char} {columns : List (List Char)}
    (few : columns.length < 4) (spaced : Spaced columns line) : portOfLine line = none := by
  rw [portOfLine, Text.words_eq_iff.mpr spaced]
  split
  · simp only [List.length_cons] at few
    omega
  · rfl

/-- **A line is read as what it tells.** -/
theorem portOfLine_text (l : Line) : portOfLine l.text = l.listensOn? := by
  obtain ⟨text, socket, row, -⟩ := l
  cases row with
  | socket s spaced => exact portOfLine_socket spaced
  | short few spaced => exact portOfLine_short few spaced

theorem portsOfTable_text (t : Table) :
    portsOfTable (Text.joined t.header (t.lines.map (·.text)) t.ended) =
      t.lines.filterMap Line.listensOn? := by
  have single : ∀ l ∈ t.header :: t.lines.map (·.text), '\n' ∉ l := by
    refine List.forall_mem_cons.mpr ⟨t.single, ?_⟩
    rw [List.forall_mem_map]
    exact fun l _ => l.single
  rw [portsOfTable, Text.filterMap_lines rfl single, List.filterMap_map]
  exact List.filterMap_congr fun l _ => portOfLine_text l

theorem listeningPorts_files (tables : List (Option Table)) :
    listeningPorts (files tables) = ascending ((linesOf tables).filterMap Line.listensOn?) := by
  rw [listeningPorts, files, linesOf, List.flatMap_map, List.filterMap_flatMap]
  congr 2
  funext table
  cases table with
  | none => rfl
  | some t =>
    simp only [Option.map_some, Option.bind_some, Table.octets, Text.Utf8.strict?_encode,
      Option.getD_some, portsOfTable_text]

/-! ## The law of listening -/

/-- What is found by whoever reads these tables: the ports of the sockets that listen, each
once, in ascending order.  Tables that tell of the same ones are alike, and so are those with
their lines in another order, or lines in another table, and the same tables in another
order. -/
structure ListeningLaw (tables : List (Option Table)) : Prop where
  ascending : (listeningPorts (files tables)).Pairwise (· < ·)
  mem_iff : ∀ n, n ∈ listeningPorts (files tables) ↔
    ∃ s ∈ socketsOf tables, s.state = 0x0A ∧ s.port.val = n
  alike : ∀ others, (∀ s : Socket, s.state = 0x0A →
      (s ∈ socketsOf others ↔ s ∈ socketsOf tables)) →
    listeningPorts (files others) = listeningPorts (files tables)
  permuted : ∀ others, (linesOf others).Perm (linesOf tables) →
    listeningPorts (files others) = listeningPorts (files tables)
  swapped : ∀ others : List (Option Table), others.Perm tables →
    listeningPorts (files others) = listeningPorts (files tables)

theorem mem_listeningPorts {tables : List (Option Table)} {n : Nat} :
    n ∈ listeningPorts (files tables) ↔ ∃ s ∈ socketsOf tables, s.state = 0x0A ∧ s.port.val = n := by
  rw [listeningPorts_files, mem_ascending]
  simp only [socketsOf, List.mem_filterMap, Line.listensOn?, Option.bind_eq_some_iff]
  constructor
  · rintro ⟨l, member, s, tells, found⟩
    split at found
    · rename_i listens
      exact ⟨s, ⟨l, member, tells⟩, listens, Option.some.inj found⟩
    · cases found
  · rintro ⟨s, ⟨l, member, tells⟩, listens, rfl⟩
    exact ⟨l, member, s, tells, if_pos listens⟩

theorem ascending_listeningPorts (files : List (Option (List UInt8))) :
    (listeningPorts files).Pairwise (· < ·) :=
  pairwise_ascending _

theorem listeningPorts_congr {tables others : List (Option Table)}
    (same : ∀ s : Socket, s.state = 0x0A → (s ∈ socketsOf others ↔ s ∈ socketsOf tables)) :
    listeningPorts (files others) = listeningPorts (files tables) := by
  have increasing (tables : List (Option Table)) :
      (listeningPorts (files tables)).Pairwise fun a b : Nat => (a : Int) < b :=
    (ascending_listeningPorts (files tables)).imp Int.ofNat_lt.mpr
  refine eq_of_ascending (fun n : Nat => (n : Int)) (increasing others) (increasing tables)
    fun n => ?_
  rw [mem_listeningPorts, mem_listeningPorts]
  constructor
  · rintro ⟨s, member, listens, port⟩
    exact ⟨s, (same s listens).mp member, listens, port⟩
  · rintro ⟨s, member, listens, port⟩
    exact ⟨s, (same s listens).mpr member, listens, port⟩

/-- **Exactly the listening ports are found**, whatever tables there are. -/
theorem listening_law (tables : List (Option Table)) : ListeningLaw tables where
  ascending := ascending_listeningPorts _
  mem_iff _ := mem_listeningPorts
  alike _ := listeningPorts_congr
  permuted _ perm := listeningPorts_congr fun _ _ => (perm.filterMap _).mem_iff
  swapped _ perm := listeningPorts_congr fun _ _ => ((perm.flatMap_right _).filterMap _).mem_iff

/-- A socket that listens on the port 8080 of its own machine. -/
def loopback : Socket :=
  ⟨0, "0100007F".toList, ⟨8080, by decide⟩, "00000000:0000".toList, 0x0A,
    ["00000000:00000000".toList]⟩

/-- A table with its line and one that is none. -/
def loopbackTable : Table where
  header := "  sl  local_address rem_address   st tx_queue rx_queue".toList
  lines := [
    ⟨"   0: 0100007F:1F90 00000000:0000 0A 00000000:00000000".toList, some loopback,
      .socket loopback (Text.words_eq_iff.mp (by decide +kernel)), by decide +kernel⟩,
    ⟨"not a row".toList, none,
      .short (by decide) (Text.words_eq_iff.mp (by decide +kernel :
        Text.words "not a row".toList = ["not".toList, "a".toList, "row".toList])),
      by decide +kernel⟩]
  ended := true
  single := by decide +kernel

/-- Its port is found, in whichever table its line stands. -/
theorem listening_law_loopback :
    8080 ∈ listeningPorts (files [some loopbackTable, none]) ∧
      listeningPorts (files [none, some loopbackTable]) =
        listeningPorts (files [some loopbackTable, none]) := by
  have law := listening_law [some loopbackTable, none]
  refine ⟨(law.mem_iff 8080).mpr ⟨loopback, ?_, rfl, rfl⟩, law.swapped _ (List.Perm.swap _ _ _)⟩
  exact List.mem_singleton_self loopback

end PortPool.Host.Sockets
