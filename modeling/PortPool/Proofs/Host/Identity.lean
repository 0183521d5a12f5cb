/-
# PortPool.Proofs.Host.Identity -- different machines have different fingerprints

The machine id is what the first file says that says anything (`machineId?_iff`).  A zero
octet ends the machine id in what is hashed, and another one ends the host name, so that
wherever neither has a zero octet in it, all three parts can be made out again
(`identityOctets_inj`).  The digits of a hash are all there is to a fingerprint, and they
tell the hash (`hex_injective`).  So the fingerprints of two machines are equal if and only
if their parts are, unless the hash has a collision there (`fingerprintOf_inj`).

Every fingerprint consists of 64 small hexadecimal digits (`hexadecimal_fingerprintOf`).
-/
import PortPool.Host.Identity
import PortPool.Proofs.Text.Blank
import PortPool.Proofs.Text.Split
import PortPool.Proofs.Text.Utf8

namespace PortPool.Host

set_option autoImplicit false

open PortPool.Text

/-! ## The machine id -/

/-- What the files say of the machine id: the first that is a text and not blank says it,
without the blanks around it. -/
inductive Identified : List (Option (List UInt8)) → Option String → Prop where
  | nowhere : Identified [] none
  | missing {files : List (Option (List UInt8))} {id : Option String} :
      Identified files id → Identified (none :: files) id
  | unreadable {files : List (Option (List UInt8))} {id : Option String} {octets : List UInt8} :
      Utf8.strict? octets = none → Identified files id → Identified (some octets :: files) id
  | blank {files : List (Option (List UInt8))} {id : Option String} {octets : List UInt8}
      {text : List Char} :
      Utf8.strict? octets = some text → (∀ c ∈ text, isBlank c = true) → Identified files id →
      Identified (some octets :: files) id
  | told {files : List (Option (List UInt8))} {octets : List UInt8} {text : List Char} :
      Utf8.strict? octets = some text → ¬(∀ c ∈ text, isBlank c = true) →
      Identified (some octets :: files) (some (trimmed (String.ofList text)))

/-- The files say one thing. -/
theorem Identified.unique {files : List (Option (List UInt8))} {id other : Option String}
    (first : Identified files id) (second : Identified files other) : id = other := by
  induction first with
  | nowhere =>
    cases second
    rfl
  | missing _ ih =>
    cases second with
    | missing rest => exact ih rest
  | unreadable bad _ ih =>
    cases second with
    | unreadable _ rest => exact ih rest
    | blank read _ _ => cases bad.symm.trans read
    | told read _ => cases bad.symm.trans read
  | blank read blank _ ih =>
    cases second with
    | unreadable bad _ => cases read.symm.trans bad
    | blank _ _ rest => exact ih rest
    | told again notBlank =>
      cases read.symm.trans again
      exact absurd blank notBlank
  | told read notBlank =>
    cases second with
    | unreadable bad _ => cases read.symm.trans bad
    | blank again blank _ =>
      cases read.symm.trans again
      exact absurd blank notBlank
    | told again _ =>
      cases read.symm.trans again
      rfl

namespace Machine

/-- The machine id is what the files say. -/
theorem identified (m : Machine) : Identified m.idFiles m.machineId? := by
  obtain ⟨files, hostname, processors⟩ := m
  rw [machineId?]
  induction files with
  | nil => exact .nowhere
  | cons file files ih =>
    cases file with
    | none => exact .missing ih
    | some octets =>
      cases read : Utf8.strict? octets with
      | none =>
        rw [List.findSome?_cons]
        simp only [Option.bind_eq_bind, Option.bind_some, read, Option.bind_none]
        exact .unreadable read ih
      | some text =>
        rw [List.findSome?_cons]
        simp only [Option.bind_eq_bind, Option.bind_some, read]
        by_cases blank : trim text = []
        · rw [blank]
          exact .blank read (trim_eq_nil_iff.mp blank) ih
        · rw [if_neg (by simpa using blank)]
          have told : Identified (some octets :: files) (some (trimmed (String.ofList text))) :=
            .told read (mt trim_eq_nil_iff.mpr blank)
          rwa [trimmed, String.toList_ofList] at told

/-- **The machine id is what the first file says that says anything.** -/
theorem machineId?_iff {m : Machine} {id : Option String} :
    m.machineId? = id ↔ Identified m.idFiles id := by
  constructor
  · rintro rfl
    exact m.identified
  · intro identified
    exact m.identified.unique identified

end Machine

theorem Identified.ne_empty {files : List (Option (List UInt8))} {id : String}
    (identified : Identified files (some id)) : id ≠ "" := by
  generalize given : some id = found at identified
  induction identified with
  | nowhere => cases given
  | missing _ ih => exact ih given
  | unreadable _ _ ih => exact ih given
  | blank _ _ _ ih => exact ih given
  | told _ notBlank =>
    cases given
    rw [trimmed, String.toList_ofList, Ne, String.ofList_eq_empty_iff, trim_eq_nil_iff]
    exact notBlank

/-- A machine with an id is not taken for one without. -/
theorem Machine.getD_machineId?_inj {m n : Machine} :
    m.machineId?.getD "" = n.machineId?.getD "" ↔ m.machineId? = n.machineId? := by
  have first := m.identified
  have second := n.identified
  constructor
  · intro same
    cases left : m.machineId? with
    | none =>
      cases right : n.machineId? with
      | none => rfl
      | some id =>
        rw [left, right] at same
        rw [right] at second
        exact absurd same.symm second.ne_empty
    | some id =>
      rw [left] at first same
      cases right : n.machineId? with
      | none =>
        rw [right] at same
        exact absurd same first.ne_empty
      | some other =>
        rw [right] at same
        exact congrArg some same
  · intro same
    rw [same]

/-! ## What is hashed -/

/-- No zero octet is in the text. -/
def ZeroFree (s : String) : Prop := 0 ∉ Utf8.ofString s

instance (s : String) : Decidable (ZeroFree s) := inferInstanceAs (Decidable (0 ∉ Utf8.ofString s))

/-- A part that ends with a zero octet can be told from what stands behind it. -/
theorem ofString_zero_inj {s t : String} {rest others : List UInt8} (first : ZeroFree s)
    (second : ZeroFree t)
    (same : Utf8.ofString s ++ 0 :: rest = Utf8.ofString t ++ 0 :: others) :
    s = t ∧ rest = others := by
  obtain ⟨octets, behind⟩ := append_mark_inj first second same
  exact ⟨Utf8.ofString_injective octets, behind⟩

/-- **The octets that are hashed tell all three parts.** -/
theorem identityOctets_inj {id host arch id' host' arch' : String}
    (plain : ZeroFree id ∧ ZeroFree host) (plain' : ZeroFree id' ∧ ZeroFree host') :
    identityOctets id host arch = identityOctets id' host' arch' ↔
      id = id' ∧ host = host' ∧ arch = arch' := by
  constructor
  · intro same
    simp only [identityOctets, List.append_assoc, List.cons_append] at same
    obtain ⟨sameId, same⟩ := ofString_zero_inj plain.1 plain'.1 same
    obtain ⟨sameHost, same⟩ := ofString_zero_inj plain.2 plain'.2 same
    exact ⟨sameId, sameHost, Utf8.ofString_injective same⟩
  · rintro ⟨rfl, rfl, rfl⟩
    rfl

/-! ## Digits of a hash -/

/-- The characters that a fingerprint is written with. -/
def hexadecimalDigits : List Char := "0123456789abcdef".toList

theorem hexDigit_mem {n : Nat} (small : n < 16) : Numeral.hexDigit n ∈ hexadecimalDigits := by
  decide +revert

theorem hexDigit_inj : ∀ n < 16, ∀ k < 16,
    Numeral.hexDigit n = Numeral.hexDigit k → n = k := by
  decide

theorem length_hex (octets : List UInt8) : (Sha256.hex octets).length = 2 * octets.length := by
  simp [Sha256.hex, List.length_flatMap, Nat.mul_comm]

theorem mem_hex {octets : List UInt8} {c : Char} (member : c ∈ Sha256.hex octets) :
    c ∈ hexadecimalDigits := by
  obtain ⟨octet, -, written⟩ := List.mem_flatMap.mp member
  have small := octet.toNat_lt
  simp only [List.mem_cons, List.not_mem_nil, or_false] at written
  rcases written with rfl | rfl
  · exact hexDigit_mem (by omega)
  · exact hexDigit_mem (by omega)

/-- The digits tell the octets. -/
theorem hex_injective {octets others : List UInt8} (same : Sha256.hex octets = Sha256.hex others) :
    octets = others := by
  induction octets generalizing others with
  | nil =>
    cases others with
    | nil => rfl
    | cons other others => cases same
  | cons octet octets ih =>
    cases others with
    | nil => cases same
    | cons other others =>
      simp only [Sha256.hex, List.flatMap_cons, List.cons_append, List.nil_append,
        List.cons.injEq] at same
      obtain ⟨sameHigh, sameLow, rest⟩ := same
      have small := octet.toNat_lt
      have small' := other.toNat_lt
      have high := hexDigit_inj _ (by omega) _ (by omega) sameHigh
      have low := hexDigit_inj _ (by omega) _ (by omega) sameLow
      have equal : octet = other := UInt8.toNat_inj.mp (by omega)
      rw [equal, ih rest]

/-! ## Fingerprints -/

/-- Two messages are a collision of the hash. -/
def Collide (message other : List UInt8) : Prop :=
  message ≠ other ∧ Sha256.digest message = Sha256.digest other

instance (message other : List UInt8) : Decidable (Collide message other) :=
  inferInstanceAs
    (Decidable (message ≠ other ∧ Sha256.digest message = Sha256.digest other))

/-- The text is a hash as a fingerprint has it. -/
structure Hexadecimal (fp : String) : Prop where
  length : fp.length = 64
  digits : ∀ c ∈ fp.toList, c ∈ hexadecimalDigits

/-- **Every fingerprint consists of 64 small hexadecimal digits.** -/
theorem hexadecimal_fingerprintOf (id : Option String) (host arch : String) :
    Hexadecimal (fingerprintOf id host arch) where
  length := by
    rw [fingerprintOf, String.length_ofList, length_hex, Sha256.digest_length]
  digits c member := by
    rw [fingerprintOf, String.toList_ofList] at member
    exact mem_hex member

/-- **Fingerprints tell all three parts**, unless what is hashed is a collision. -/
theorem fingerprintOf_inj {id id' : Option String} {host arch host' arch' : String}
    (plain : ZeroFree (id.getD "") ∧ ZeroFree host)
    (plain' : ZeroFree (id'.getD "") ∧ ZeroFree host')
    (apart : ¬Collide (identityOctets (id.getD "") host arch)
      (identityOctets (id'.getD "") host' arch')) :
    fingerprintOf id host arch = fingerprintOf id' host' arch' ↔
      id.getD "" = id'.getD "" ∧ host = host' ∧ arch = arch' := by
  rw [← identityOctets_inj plain plain']
  constructor
  · intro same
    have hashes := hex_injective (String.ofList_injective same)
    by_contra differ
    exact apart ⟨differ, hashes⟩
  · intro same
    rw [fingerprintOf, fingerprintOf, same]

end PortPool.Host
