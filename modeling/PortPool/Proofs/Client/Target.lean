/-
# PortPool.Proofs.Client.Target -- what is printed can be released

A binding is printed as its span, and what is printed is a target: parsing it gives the
port of a binding of one port and both ends of a longer one (`parse_text`).  So what a
reservation printed can be typed to release it.  The request that the target makes in
the name of the owner ends that binding and does nothing else, under either policy and
in every state that a run can lead to (`release_printed`).
-/
import PortPool.Client.Target
import PortPool.Proofs.Intact
import PortPool.Proofs.Release
import PortPool.Proofs.Text.Blank
import PortPool.Proofs.Text.Numeral
import PortPool.Proofs.Text.Split

namespace PortPool

set_option autoImplicit false

open Client (Target)
open Text (Numeral.digits Numeral.decimal)
open Time.Rfc3339 (stored)

namespace Client.Target

/-! ## Parsing -/

theorem isBlank_of_mem_digits {n : Nat} {c : Char} (member : c ∈ Numeral.digits n) :
    Text.isBlank c = false := by
  have plain : ∀ d < 10, Text.isBlank (Nat.digitChar d) = false := by decide
  obtain ⟨d, small, rfl⟩ := Text.Numeral.exists_of_mem_digits member
  exact plain d small

theorem ne_colon_of_mem_digits {n : Nat} {c : Char} (member : c ∈ Numeral.digits n) :
    c ≠ ':' := by
  have other : ∀ d < 10, Nat.digitChar d ≠ ':' := by decide
  obtain ⟨d, small, rfl⟩ := Text.Numeral.exists_of_mem_digits member
  exact other d small

theorem portOf_digits (p : PortNumber) : portOf (Numeral.digits p.val) = .ok p := by
  rw [portOf, Text.trim_of_forall fun c => isBlank_of_mem_digits, Text.Numeral.unsigned?_digits]
  simp

end Client.Target

/-- The target that a binding is. -/
def Binding.target (b : Binding) : Target :=
  if b.first = b.last then .port b.first else .span b.first b.last

/-- **What is printed for a binding is read as its port or its span.** -/
theorem Binding.parse_text {b : Binding} (ordered : b.first ≤ b.last) :
    Target.parse b.text = .ok b.target := by
  have digits (p : PortNumber) : (Numeral.decimal p.val).toList = Numeral.digits p.val :=
    String.toList_ofList
  rw [Binding.text, spanText, Binding.target, Target.parse]
  by_cases single : b.first = b.last
  · rw [if_pos (congrArg Fin.val single), if_pos single, digits,
      Text.cutFirst_of_forall fun c => Target.ne_colon_of_mem_digits]
    simp only [Target.portOf_digits, map_ok]
  · have different : ¬b.first.val = b.last.val := fun same => single (Fin.ext same)
    have forward : ¬b.last < b.first := Fin.not_lt.mpr ordered
    rw [if_neg different, if_neg single, String.toList_append, String.toList_append, digits, digits,
      List.append_assoc]
    have colon : ":".toList = [':'] := rfl
    rw [colon, List.singleton_append, Text.cutFirst_append fun c => Target.ne_colon_of_mem_digits]
    simp only [Target.portOf_digits, bind_ok, if_neg forward, pure_eq_ok]

theorem release_target {s : Store} (ownership : Ownership) {owner : String} (named : owner ≠ "")
    (target : Target) (now : Time.Instant) :
    s.release ownership (target.request (some owner)) now =
      match target with
      | .port number => s.releasePort ownership number (some owner) now
      | .span first last => s.releaseSpan ownership first last (some owner) now := by
  have kept : ((some owner).filter fun id => !id.isEmpty) = some owner := by
    simp [Option.filter, named]
  cases target with
  | port number => rw [Target.request, Store.release, kept]
  | span first last => rw [Target.request, Store.release, kept]

/-- **What is printed for an active binding releases it.**  Its text is read as the port or
the span that it is, and the request for that in the name of its owner is granted, tells
the binding, and changes nothing but that it is released; releasing by any of its ports
and by its span come to the same.  While the clock shows years of four digits, every
binding can be printed. -/
theorem release_printed (steps : List Step) (ownership : Ownership) (now : Time.Instant) :
    let s := Store.empty.after steps
    (∀ row ∈ s.bindings, row.isActive → row.owner ≠ "" → ∀ b, row.read = .ok b →
      let done := ({ b with releasedAt := some now }, s.released row.id (stored now))
      Target.parse b.text = .ok b.target ∧
        s.release ownership (b.target.request (some b.owner)) now = .ok done ∧
        (∀ n : PortNumber, b.first ≤ n → n ≤ b.last →
          s.releasePort ownership n (some b.owner) now = .ok done) ∧
        s.releaseSpan ownership b.first b.last (some b.owner) now = .ok done) ∧
    ((∀ step ∈ steps, step.now.Dated) → ∀ row ∈ s.bindings, ∃ b, row.read = .ok b) := by
  intro s
  have sound := sound_after steps
  refine ⟨?_, ?_⟩
  · intro row present active named b told done
    have recalled := recalls_owner_after steps row present
    obtain ⟨-, owner, starts, ends, -⟩ := BindingRow.of_read told
    have ordered : b.first ≤ b.last := by
      have := sound.ordered row present
      rw [Fin.le_def]
      omega
    have byPort (n : PortNumber) (low : b.first ≤ n) (high : n ≤ b.last) :
        s.releasePort ownership n (some b.owner) now = .ok done := by
      rw [Fin.le_def] at low high
      rw [owner]
      exact sound.releasePort_of_active present active told recalled (by omega) (by omega)
    have bySpan : s.releaseSpan ownership b.first b.last (some b.owner) now = .ok done := by
      rw [owner]
      exact sound.releaseSpan_of_active present active told recalled
    refine ⟨b.parse_text ordered, ?_, byPort, bySpan⟩
    rw [release_target ownership (owner ▸ named)]
    by_cases single : b.first = b.last
    · rw [Binding.target, if_pos single]
      exact byPort b.first (Fin.le_refl _) ordered
    · rw [Binding.target, if_neg single]
      exact bySpan
  · exact read_binding_after

/-- A span of two ports is printed as `8000:8001`; that text releases it in the name of its
owner, and so does its second port. -/
theorem release_printed_abc :
    let now := Time.Instant.ofUnix 1 0
    let s := Store.empty.after (Step.each ⟨threePorts, .required⟩ (Time.Instant.ofUnix 0 0)
      [.join ⟨"abc", "host", []⟩, .reserveSpan "abc" 2])
    ∃ row ∈ s.bindings, row.isActive ∧ row.owner ≠ "" ∧ ∃ b, row.read = .ok b ∧
      b.owner = "abc" ∧ b.text = "8000:8001" ∧
      Target.parse "8000:8001" = .ok (.span (.wrap 8000) (.wrap 8001)) ∧
      s.release .required ⟨some b.owner, none, some (.wrap 8000), some (.wrap 8001)⟩ now =
        .ok ({ b with releasedAt := some now }, s.released row.id (stored now)) ∧
      s.releasePort .required (.wrap 8001) (some b.owner) now =
        .ok ({ b with releasedAt := some now }, s.released row.id (stored now)) := by
  intro now s
  obtain ⟨row, present, active, named, b, told, printed, target, owner, last⟩ :
      ∃ row ∈ s.bindings, row.isActive ∧ row.owner ≠ "" ∧ ∃ b, row.read = .ok b ∧
        b.text = "8000:8001" ∧ b.target = .span (.wrap 8000) (.wrap 8001) ∧ b.owner = "abc" ∧
        b.first ≤ .wrap 8001 ∧ .wrap 8001 ≤ b.last :=
    ⟨_, List.mem_cons_self, rfl, by decide, _, rfl, by decide +kernel, rfl, rfl, by decide⟩
  obtain ⟨parsed, released, byPort, -⟩ :=
    (release_printed _ .required now).1 row present active named b told
  rw [printed, target] at parsed
  rw [target] at released
  exact ⟨row, present, active, named, b, told, owner, printed, parsed, released,
    byPort _ last.1 last.2⟩

end PortPool
