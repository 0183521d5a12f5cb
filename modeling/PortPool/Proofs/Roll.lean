/-
# PortPool.Proofs.Roll -- instances are listed in the order in which they joined

The rows of the instances are those of the instances that joined, in the order in which
they did (`instances_after_eq`).  A list has the ones with the name that is asked for,
sorted by the texts of their rows.  As these have the order of time, it is sorted by the
instants, and by the octets of the ids where these are the same (`listed_ordered`).  Nothing
is asked of the clock for this but years of at most four digits; if it never goes back,
the instants of a list are in the order of joining (`listed_instants`).
-/
import PortPool.Proofs.Registration
import PortPool.Proofs.Text.Split
import PortPool.Proofs.Time.Order

namespace PortPool

set_option autoImplicit false

open Time (Instant)
open Time.Rfc3339 (stored stored_lt)
open Text.Utf8 (ofString)

/-! ## Who joined -/

/-- The instance that joins in a step, if one does. -/
def Store.joiner? (s : Store) (step : Step) : Option Instance :=
  match step.request with
  | .join new => (s.join new step.now).toOption.map (·.1)
  | _ => none

/-- The instances that join in a run, in the order in which they do. -/
def Store.joiners (s : Store) : List Step → List Instance
  | [] => []
  | step :: steps =>
    (s.joiner? step).toList ++ (step.request.next step.settings step.now s).joiners steps

namespace Store

theorem join_answers {s t : Store} {new : NewInstance} {now : Instant} {i : Instance}
    (granted : s.join new now = .ok (i, t)) :
    i = ⟨new.id, new.name, new.description, now⟩ := by
  simp only [join, bind_eq_ok] at granted
  obtain ⟨found, -, granted⟩ := granted
  split at granted
  · cases granted
  · split at granted
    · cases granted
      rfl
    · cases granted

/-- Only joining adds rows of instances. -/
theorem instances_next_of_not_join {s : Store} {settings : Settings} {now : Instant}
    {op : Operation} (other : ∀ new, op ≠ .join new) :
    (op.next settings now s).instances = s.instances := by
  have moves := next_moves settings now s op
  generalize op.next settings now s = t at moves
  induction moves with
  | refl => rfl
  | tail _ move ih =>
    cases move with
    | join asked => exact absurd asked (other _)
    | record | bind | release => exact ih

theorem instances_next (s : Store) (step : Step) :
    (step.request.next step.settings step.now s).instances =
      s.instances ++ (s.joiner? step).toList.map Instance.row := by
  obtain ⟨settings, now, request⟩ := step
  cases request with
  | join new =>
    simp only [Operation.next, Operation.perform, Operation.changing, joiner?]
    cases outcome : s.join new now with
    | ok granted =>
      obtain ⟨i, t⟩ := granted
      obtain ⟨-, rfl⟩ := join_inversion outcome
      obtain rfl := join_answers outcome
      rfl
    | error fault => exact (List.append_nil _).symm
  | _ =>
    rw [instances_next_of_not_join (by simp)]
    exact (List.append_nil _).symm

/-- **The rows of the instances are those of the instances that joined.** -/
theorem instances_after_eq (s : Store) (steps : List Step) :
    (s.after steps).instances = s.instances ++ (s.joiners steps).map Instance.row := by
  induction steps generalizing s with
  | nil => simp [joiners]
  | cons step steps ih =>
    rw [after_cons, ih, instances_next, joiners, List.map_append, List.append_assoc]

theorem joinedAt_joiner? {s : Store} {step : Step} {i : Instance}
    (joins : s.joiner? step = some i) : i.joinedAt = step.now := by
  unfold joiner? at joins
  split at joins
  · obtain ⟨⟨_, t⟩, granted, rfl⟩ := Option.map_eq_some_iff.mp joins
    rw [join_answers (toOption_eq_some.mp granted)]
  · cases joins

/-- Instances join at the instants of their steps. -/
theorem joinedAt_joiners (s : Store) (steps : List Step) :
    ((s.joiners steps).map (·.joinedAt)).Sublist (steps.map (·.now)) := by
  induction steps generalizing s with
  | nil => exact List.Sublist.refl _
  | cons step steps ih =>
    rw [joiners]
    cases joins : s.joiner? step with
    | none => exact (ih _).cons _
    | some i =>
      have instant := joinedAt_joiner? joins
      simpa [instant] using ih _

/-! ## The order of rows -/

theorem idNotAfter_some {a b : String} : idNotAfter (some a) (some b) ↔ ¬b < a := by
  rw [idNotAfter, Bool.not_eq_true', decide_eq_false_iff_not]

theorem idNotAfter_total (a b : Option String) : idNotAfter a b || idNotAfter b a := by
  rw [Bool.or_eq_true]
  match a, b with
  | none, _ => exact .inl rfl
  | some _, none => exact .inr rfl
  | some a, some b =>
    rw [idNotAfter_some, idNotAfter_some]
    by_cases before : b < a
    · exact .inr (String.lt_asymm before)
    · exact .inl before

theorem idNotAfter_trans {a b c : Option String} (first : idNotAfter a b)
    (second : idNotAfter b c) : idNotAfter a c := by
  match a, b, c with
  | none, _, _ => rfl
  | some _, none, _ => cases first
  | some _, some _, none => cases second
  | some a, some b, some c =>
    rw [idNotAfter_some] at *
    exact String.le_trans first second

theorem listedBefore_iff {a b : InstanceRow} : listedBefore a b ↔
    a.joinedAt < b.joinedAt ∨ a.joinedAt = b.joinedAt ∧ idNotAfter a.id b.id := by
  rw [listedBefore]
  split
  · rename_i same
    simp only [same, String.lt_irrefl, false_or, true_and]
  · rename_i differ
    simp only [decide_eq_true_eq, differ, false_and, or_false]

theorem listedBefore_total (a b : InstanceRow) : listedBefore a b || listedBefore b a := by
  rw [Bool.or_eq_true, listedBefore_iff, listedBefore_iff]
  by_cases earlier : a.joinedAt < b.joinedAt
  · exact .inl (.inl earlier)
  by_cases later : b.joinedAt < a.joinedAt
  · exact .inr (.inl later)
  have same : a.joinedAt = b.joinedAt := String.le_antisymm later earlier
  rcases Bool.or_eq_true _ _ |>.mp (idNotAfter_total a.id b.id) with notAfter | notAfter
  · exact .inl (.inr ⟨same, notAfter⟩)
  · exact .inr (.inr ⟨same.symm, notAfter⟩)

theorem listedBefore_trans {a b c : InstanceRow} (first : listedBefore a b)
    (second : listedBefore b c) : listedBefore a c := by
  rw [listedBefore_iff] at *
  rcases first with first | ⟨same, first⟩
  · rcases second with second | ⟨same, -⟩
    · exact .inl (String.lt_trans first second)
    · exact .inl (same ▸ first)
  · rcases second with second | ⟨same', second⟩
    · exact .inl (same ▸ second)
    · exact .inr ⟨same.trans same', idNotAfter_trans first second⟩

end Store

/-! ## The order of instances -/

namespace Instance

/-- The instance joined earlier, or at the same instant with an id that comes first in
octets. -/
def Precedes (i j : Instance) : Prop :=
  i.joinedAt.Before j.joinedAt ∨ i.joinedAt = j.joinedAt ∧ ofString i.id < ofString j.id

theorem Precedes.asymm {i j : Instance} (precedes : i.Precedes j) : ¬j.Precedes i := by
  rintro (later | ⟨same, after⟩)
  · rcases precedes with earlier | ⟨same, -⟩
    · exact earlier.asymm later
    · exact later.asymm (same ▸ later)
  · rcases precedes with earlier | ⟨-, first⟩
    · exact earlier.asymm (same ▸ earlier)
    · exact List.lt_asymm first after

/-- The order of rows is that of the instances. -/
theorem precedes_of_listedBefore {i j : Instance} (dated : i.joinedAt.Dated)
    (dated' : j.joinedAt.Dated) (differ : i.id ≠ j.id)
    (listed : Store.listedBefore i.row j.row) : i.Precedes j := by
  rcases Store.listedBefore_iff.mp listed with earlier | ⟨same, notAfter⟩
  · exact .inl ((stored_lt dated dated').mp earlier)
  have same : stored i.joinedAt = stored j.joinedAt := same
  refine .inr ⟨Instant.eq_of_not_before ?_ ?_, Text.Utf8.ofString_lt_ofString.mpr ?_⟩
  · rw [← stored_lt dated dated', same]
    exact String.lt_irrefl _
  · rw [← stored_lt dated' dated, same]
    exact String.lt_irrefl _
  · have notAfter : ¬j.id < i.id := Store.idNotAfter_some.mp notAfter
    by_contra notBefore
    exact differ (String.le_antisymm notAfter notBefore)

/-! ## Lists -/

/-- The instance has a name with the text, if one is asked for. -/
def Named (name : Option String) (i : Instance) : Prop :=
  ∀ text ∈ name, text.toList <:+: i.name.toList

theorem named_iff {name : Option String} {i : Instance} :
    (name.all fun text => Text.occursIn text.toList i.name.toList) ↔ i.Named name := by
  cases name <;> simp [Named, Text.occursIn_iff]

instance (name : Option String) (i : Instance) : Decidable (i.Named name) :=
  decidable_of_iff _ named_iff

/-- Every instance has a name with the empty text. -/
theorem named_of_empty {name : Option String} (empty : name.getD "" = "") (i : Instance) :
    i.Named name := by
  rintro text ⟨⟩
  obtain rfl : text = "" := empty
  exact List.nil_infix

/-- The other instance is what is told of the one: its description is the one that is read
from the row. -/
structure Told (i told : Instance) : Prop where
  id : told.id = i.id
  name : told.name = i.name
  joinedAt : told.joinedAt = i.joinedAt
  description : readDescription i.row.description = .ok told.description

theorem read_row_eq_ok {i told : Instance} (dated : i.joinedAt.Dated) :
    i.row.read = .ok told ↔ i.Told told := by
  have instant : Time.Rfc3339.read? (stored i.joinedAt) = some i.joinedAt :=
    Time.Rfc3339.read?_stored dated.1 dated.2
  simp only [InstanceRow.read, row, instant, readable, bind_ok, pure_eq_ok, bind_eq_ok,
    Except.ok.injEq]
  constructor
  · rintro ⟨description, read, rfl⟩
    exact ⟨rfl, rfl, rfl, read⟩
  · rintro ⟨id, name, joinedAt, read⟩
    refine ⟨told.description, read, ?_⟩
    rw [← id, ← name, ← joinedAt]

end Instance

namespace Store

variable {steps : List Step} {name : Option String}

theorem instances_after_empty (steps : List Step) :
    (Store.empty.after steps).instances = (Store.empty.joiners steps).map Instance.row :=
  instances_after_eq Store.empty steps

theorem joiners_distinct (steps : List Step) :
    (Store.empty.joiners steps).Pairwise fun i j => i.id ≠ j.id := by
  have distinct := (sound_after steps).instanceIds
  rw [instances_after_empty, List.pairwise_map] at distinct
  exact distinct.imp fun differ same => differ (congrArg some same)

theorem dated_of_mem_joiners (dated : ∀ step ∈ steps, step.now.Dated) {i : Instance}
    (member : i ∈ Store.empty.joiners steps) : i.joinedAt.Dated := by
  have among := (joinedAt_joiners Store.empty steps).subset (List.mem_map_of_mem member)
  obtain ⟨step, isStep, same⟩ := List.mem_map.mp among
  exact same ▸ dated step isStep

/-- What holds of the clock from step to step holds of the instants of joining. -/
theorem joiners_pairwise (before : Instant → Instant → Prop)
    (clock : steps.Pairwise fun a b => before a.now b.now) :
    (Store.empty.joiners steps).Pairwise fun i j => before i.joinedAt j.joinedAt :=
  List.pairwise_map.mp ((List.pairwise_map.mpr clock).sublist (joinedAt_joiners _ steps))

/-- The instances that joined with such a name, in the order of joining. -/
def named (steps : List Step) (name : Option String) : List Instance :=
  (Store.empty.joiners steps).filter fun i => i.Named name

/-- They in the order of their rows. -/
def listed (steps : List Step) (name : Option String) : List Instance :=
  (named steps name).mergeSort fun i j => listedBefore i.row j.row

theorem mem_joiners_of_named {i : Instance} (member : i ∈ named steps name) :
    i ∈ Store.empty.joiners steps := List.mem_of_mem_filter member

theorem listed_perm : (listed steps name).Perm (named steps name) := List.mergeSort_perm _ _

theorem map_row_listed : (listed steps name).map Instance.row =
    ((named steps name).map Instance.row).mergeSort listedBefore :=
  List.map_mergeSort fun _ _ _ _ => rfl

theorem listInstances_after : (Store.empty.after steps).listInstances name =
    (listed steps name).mapM (·.row.read) := by
  have filtered : (Store.empty.after steps).instances.filter (fun r => name.all fun text =>
      Text.occursIn text.toList r.name.toList) = (named steps name).map Instance.row := by
    rw [instances_after_empty, List.filter_map, named]
    congr 1
    refine List.filter_congr fun i _ => ?_
    rw [Bool.eq_iff_iff, decide_eq_true_iff]
    exact Instance.named_iff
  rw [listInstances, filtered, ← map_row_listed, List.mapM_map]
  rfl

theorem listed_ordered (dated : ∀ step ∈ steps, step.now.Dated) :
    (listed steps name).Pairwise Instance.Precedes := by
  have sorted : ((listed steps name).map Instance.row).Pairwise fun a b => listedBefore a b := by
    rw [map_row_listed]
    refine List.pairwise_mergeSort ?_ ?_ _
    · exact fun _ _ _ => listedBefore_trans
    · exact listedBefore_total
  rw [List.pairwise_map] at sorted
  have distinct : (listed steps name).Pairwise fun i j => i.id ≠ j.id :=
    (listed_perm.pairwise_iff fun differ => differ.symm).mpr
      ((joiners_distinct steps).sublist List.filter_sublist)
  refine (sorted.and distinct).imp_of_mem fun mi mj => ?_
  rintro ⟨before, differ⟩
  exact Instance.precedes_of_listedBefore
    (dated_of_mem_joiners dated (mem_joiners_of_named (listed_perm.subset mi)))
    (dated_of_mem_joiners dated (mem_joiners_of_named (listed_perm.subset mj))) differ before

/-- **A clock that never goes back makes the order of the list that of joining**, up to
instances that joined at one instant. -/
theorem listed_instants (dated : ∀ step ∈ steps, step.now.Dated)
    (clock : steps.Pairwise fun a b => ¬b.now.Before a.now) :
    (listed steps name).map (·.joinedAt) = (named steps name).map (·.joinedAt) := by
  have ordered : ((listed steps name).map (·.joinedAt)).Pairwise fun t u => ¬u.Before t := by
    refine List.pairwise_map.mpr ((listed_ordered dated).imp ?_)
    rintro i j (earlier | ⟨same, -⟩)
    · exact earlier.asymm
    · rw [same]
      exact fun before => before.asymm before
  have joined : ((named steps name).map (·.joinedAt)).Pairwise fun t u => ¬u.Before t :=
    List.pairwise_map.mpr ((joiners_pairwise (fun t u => ¬u.Before t) clock).sublist
      List.filter_sublist)
  exact (listed_perm.map _).eq_of_pairwise
    (fun _ _ _ _ notAfter notBefore => Instant.eq_of_not_before notBefore notAfter) ordered joined

theorem listed_eq (dated : ∀ step ∈ steps, step.now.Dated)
    (clock : steps.Pairwise fun a b => a.now.Before b.now) :
    listed steps name = named steps name := by
  have joined : (named steps name).Pairwise Instance.Precedes :=
    ((joiners_pairwise Instant.Before clock).sublist List.filter_sublist).imp .inl
  exact listed_perm.eq_of_pairwise (fun _ _ _ _ precedes follows => absurd follows precedes.asymm)
    (listed_ordered dated) joined

end Store

/-- What is listed for a name after a run: these instances. -/
structure RollLaw (steps : List Step) (name : Option String) (listed : List Instance) : Prop where
  /-- They are those that joined with such a name, each once. -/
  whole : listed.Perm ((Store.empty.joiners steps).filter fun i => i.Named name)
  /-- Without a name, or for the empty one, they are all. -/
  everyone : name.getD "" = "" → listed.Perm (Store.empty.joiners steps)
  /-- They stand in the order of the instants at which they joined, then of their ids. -/
  ordered : listed.Pairwise Instance.Precedes
  /-- If the clock never goes back, their instants are in the order of joining. -/
  instants : (steps.Pairwise fun a b => ¬b.now.Before a.now) → listed.map (·.joinedAt) =
    ((Store.empty.joiners steps).filter fun i => i.Named name).map (·.joinedAt)
  /-- If it always goes on, so are they. -/
  joined : (steps.Pairwise fun a b => a.now.Before b.now) →
    listed = (Store.empty.joiners steps).filter fun i => i.Named name
  /-- The answer is what is read from their rows, in this order. -/
  read : (Store.empty.after steps).listInstances name = listed.mapM (·.row.read)
  /-- The service can read what it wrote, and tells of each of them. -/
  told : (∀ step ∈ steps, step.Served) → ∃ told,
    (Store.empty.after steps).listInstances name = .ok told ∧ listed.Forall₂ Instance.Told told
  /-- It tells them as they joined, if their descriptions are read back. -/
  faithful : (∀ i ∈ listed, i.Faithful) →
    (Store.empty.after steps).listInstances name = .ok listed

theorem rollLaw {steps : List Step} (dated : ∀ step ∈ steps, step.now.Dated)
    (name : Option String) : RollLaw steps name (Store.listed steps name) where
  whole := Store.listed_perm
  everyone empty := by
    have all : Store.named steps name = Store.empty.joiners steps :=
      List.filter_eq_self.mpr fun i _ => decide_eq_true (Instance.named_of_empty empty i)
    exact all ▸ Store.listed_perm
  ordered := Store.listed_ordered dated
  instants := Store.listed_instants dated
  joined := Store.listed_eq dated
  read := Store.listInstances_after
  told served := by
    rw [Store.listInstances_after]
    refine exists_forall₂_of_mapM fun i member => ?_
    have joined := Store.mem_joiners_of_named (Store.listed_perm.subset member)
    have isRow : i.row ∈ (Store.empty.after steps).instances :=
      Store.instances_after_empty steps ▸ List.mem_map_of_mem joined
    obtain ⟨told, read⟩ := read_after served i.row isRow
    have dated := Store.dated_of_mem_joiners dated joined
    exact ⟨told, read, (Instance.read_row_eq_ok dated).mp read⟩
  faithful faithful := by
    rw [Store.listInstances_after, mapM_of_forall (g := id), List.map_id]
    intro i member
    have dated := Store.dated_of_mem_joiners dated
      (Store.mem_joiners_of_named (Store.listed_perm.subset member))
    exact (Instance.read_row_eq_ok dated).mpr ⟨rfl, rfl, rfl, faithful i member⟩

/-- **Instances are listed in the order in which they joined**: stored instants of years
with at most four digits have the order of time, octet by octet, and so have lists. -/
theorem roll_law :
    (∀ {t u : Instant}, t.Dated → u.Dated →
      (ofString (stored t) < ofString (stored u) ↔ t.Before u)) ∧
    ∀ steps : List Step, (∀ step ∈ steps, step.now.Dated) → ∀ name,
      ∃ listed, RollLaw steps name listed :=
  ⟨fun dated dated' => Text.Utf8.ofString_lt_ofString.trans (stored_lt dated dated'),
    fun steps dated name => ⟨Store.listed steps name, rollLaw dated name⟩⟩

end PortPool
