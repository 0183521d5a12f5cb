/-
# PortPool.Proofs.Client.Exchange -- what is answered is understood

What a client is granted it reads as what the service sent, whatever it asked for
(`answers_understood`), with two exceptions.  A list puts one level more around each of its
records than an answer with one record does.  What a machine tells of itself may need the
last level that a request to join has; then the instance can be shown, but whoever lists
the instances is told nothing, of any of them (`deep_instance_unlistable`).  And an id that
is spliced into a path may lead to another path of the service; what is found there is no
instance.
-/
import PortPool.Proofs.Client.Listing
import PortPool.Proofs.Observation

namespace PortPool

set_option autoImplicit false

open Client (Exchange Origin decodeAnswer getRequest plainRequest postRequest)
open Command.Client (Action Invocation)
open Http (Request Response Route answer listing)
open Json (Number Value)
open Wire (Record Row)

/-! ## What a store grants -/

namespace Store

variable {s t : Store} {now : Time.Instant} (told : Time.Instant.inReach now.year = true)
  (numbered : t.Numbered)

include told numbered

theorem tellable_of_reserve {range : PortRange} {owner : String} {size : Option Int} {b : Binding}
    (granted : s.reserve range owner size now = .ok (b, t)) : b.Tellable := by
  obtain ⟨n, granted⟩ := reserve_inversion granted
  have reserved := reserveSpan_reserved granted
  have identified := reserved.identified
  have small : b.id.toNat ≤ 0x7FFFFFFFFFFFFFFF :=
    numbered.bindings b.row (reserved.bindings ▸ List.mem_cons_self)
  refine ⟨by omega, by omega, fun instant member => ?_⟩
  rw [Binding.instants, reserved.active, reserved.reserved] at member
  obtain rfl := List.mem_singleton.mp member
  exact told

theorem tellable_of_release {ownership : Ownership} {request : ReleaseRequest} {b : Binding}
    (granted : s.release ownership request now = .ok (b, t)) : b.Tellable := by
  obtain ⟨row, ended⟩ := release_ended granted
  obtain ⟨shown, read, rfl⟩ := ended.told
  have marked : row.marked row.id (Time.Rfc3339.stored now) ∈ t.bindings := by
    rw [ended.store]
    exact List.mem_map_of_mem ended.present
  have small := numbered.bindings _ marked
  rw [BindingRow.marked_id] at small
  have tellable := BindingRow.tellable_of_read read small
  refine ⟨tellable.low, tellable.high, fun instant member => ?_⟩
  simp only [Binding.instants, Option.toList_some, List.mem_cons, List.not_mem_nil,
    or_false] at member
  rcases member with rfl | rfl
  · exact tellable.instants _ List.mem_cons_self
  · exact told

omit told numbered

/-- Every port that is reported back is that of a row. -/
theorem exists_row_of_recordEach {numbers : List PortNumber} {ps : List Port}
    (recorded : recordEach numbers s = .ok (ps, t)) :
    ∀ p ∈ ps, ∃ r ∈ t.ports.rows, ∃ u : Store, u.readPort r = .ok p := by
  induction numbers generalizing s ps with
  | nil =>
    cases recorded
    exact nofun
  | cons n numbers ih =>
    simp only [recordEach, bind_eq_ok] at recorded
    obtain ⟨found, isFound, recorded⟩ := recorded
    cases found with
    | none => cases recorded
    | some port =>
      obtain ⟨⟨others, u⟩, rest, same⟩ := bind_eq_ok.mp recorded
      cases same
      intro p member
      rcases List.mem_cons.mp member with rfl | later
      · obtain ⟨_, _, again, kept⟩ := recordEach_records numbers
          (if (s.ports.find? n.val).isSome then s else s.fillPorts n.val 1)
        obtain ⟨-, rfl⟩ := Prod.mk.inj (Except.ok.inj (again.symm.trans rest))
        simp only [findPort] at isFound
        split at isFound
        · cases isFound
        · rename_i r present
          obtain ⟨_, read, same⟩ := map_eq_ok.mp isFound
          cases same
          exact ⟨r, kept.kept r (List.mem_of_find?_eq_some present), _, read⟩
      · exact ih rest p later

theorem returns_of_observe (numbered : t.Numbered) {range : PortRange}
    {reported : List PortNumber} {ps : List Port}
    (recorded : s.observe range reported = .ok (ps, t)) (p : Port) (member : p ∈ ps) (room : Nat) :
    Row.Returns room (Record.fields Port) (Record.toRow p) := by
  obtain ⟨r, present, u, read⟩ := exists_row_of_recordEach recorded p member
  exact Port.returns_of_read numbered present read room

/-- What is listed is what rows say. -/
theorem exists_row_of_listInstances {name : Option String} {is : List Instance}
    (listed : s.listInstances name = .ok is) {i : Instance} (member : i ∈ is) :
    ∃ row ∈ s.instances, row.read = .ok i := by
  obtain ⟨row, among, read⟩ := exists_of_mem_mapM listed member
  exact ⟨row, List.mem_of_mem_filter ((List.mergeSort_perm _ _).subset among), read⟩

/-- A list of all instances has what every row says. -/
theorem mem_of_listInstances {is : List Instance} (listed : s.listInstances none = .ok is)
    {row : InstanceRow} (present : row ∈ s.instances) {i : Instance} (read : row.read = .ok i) :
    i ∈ is := by
  have among : row ∈ (s.instances.filter fun _ => true).mergeSort listedBefore :=
    (List.mergeSort_perm _ _).mem_iff.mpr (List.mem_filter.mpr ⟨present, rfl⟩)
  obtain ⟨j, member, again⟩ := exists_of_mapM_eq_ok listed among
  obtain rfl := Except.ok.inj (read.symm.trans again)
  exact member

theorem exists_row_of_getInstance {id : String} {i : Instance} (found : s.getInstance id = .ok i) :
    ∃ row ∈ s.instances, row.read = .ok i ∧ i.id = id := by
  have found := getInstance_eq_ok.mp found
  simp only [findInstance] at found
  split at found
  · cases found
  · rename_i row present
    obtain ⟨_, read, same⟩ := map_eq_ok.mp found
    cases same
    have named : row.id = some id := by simpa using List.find?_some present
    exact ⟨row, List.mem_of_find?_eq_some present, read,
      Option.some.inj ((row.id_of_read read).symm.trans named)⟩

end Store

/-! ## Understanding -/

namespace Http.Response

variable (α : Type) [Record α]

/-- The service sent a record, and the client reads this record. -/
def Tells (r : Response) : Prop :=
  ∃ status v, r = .record status v ∧ decodeAnswer (Wire.ofText α) r = .ok v

/-- The service sent a list, and the client reads this list. -/
def Lists (r : Response) : Prop :=
  ∃ vs, r = .list vs ∧ decodeAnswer (Wire.listOfText α) r = .ok vs

variable {α}

/-- A list that is granted is one of a store. -/
theorem exists_of_listing {result : Except Fault (List α)}
    (granted : (listing result).succeeds = true) :
    ∃ vs, result = .ok vs ∧ listing result = .list vs := by
  cases result with
  | error fault =>
    rw [listing, fault_succeeds] at granted
    cases granted
  | ok vs => exact ⟨vs, rfl, rfl⟩

variable [Record.Lawful α]

theorem tells_answer {status : Nat} {s : Store} {result : Except Fault (α × Store)}
    (granted : (answer status s result).1.succeeds = true)
    (returns : ∀ v t, result = .ok (v, t) → (answer status s result).2 = t →
      Row.Returns 126 (Record.fields α) (Record.toRow v)) :
    (answer status s result).1.Tells α := by
  cases result with
  | error fault =>
    rw [answer, fault_succeeds] at granted
    cases granted
  | ok done =>
    obtain ⟨v, t⟩ := done
    have within : 200 ≤ status ∧ status < 300 := by
      rw [succeeds, Bool.and_eq_true, decide_eq_true_eq, decide_eq_true_eq] at granted
      exact granted
    exact ⟨status, v, rfl, Client.decodeAnswer_record within (returns v t rfl rfl)⟩

theorem lists_listing {result : Except Fault (List α)}
    (granted : (listing result).succeeds = true)
    (returns : ∀ vs, result = .ok vs →
      ∀ v ∈ vs, Row.Returns 125 (Record.fields α) (Record.toRow v)) :
    (listing result).Lists α := by
  obtain ⟨vs, done, sent⟩ := exists_of_listing granted
  rw [sent]
  exact ⟨vs, rfl, Client.decodeAnswer_list (returns vs done)⟩

end Http.Response

/-- The client reads what it is answered as what the service sent. -/
def Command.Client.Action.Understands : Action → Response → Prop
  | .join _ | .showInstance _ => Response.Tells Instance
  | .listInstances => Response.Lists Instance
  | .reserve _ | .release .. => Response.Tells Binding
  | .listPorts .. | .report _ | .watch _ => Response.Lists Port
  | .history _ => Response.Lists Binding

/-! ## Machines -/

namespace Host.Machine

variable {machine : Machine} (counted : machine.processors < UInt64.size)

include counted

/-- What a machine tells of itself is written as it is read. -/
theorem kept_description : Value.EachMember Number.Exact machine.description ∧
    (Value.object machine.description).Ordered := by
  have whole : Value.WholeMembers machine.description := by
    refine ⟨trivial, ⟨?_, ?_⟩, trivial, trivial, trivial⟩
    · omega
    · exact_mod_cast counted
  have names : (["arch", "cpu_count", "hostname", "os"] : List String).Pairwise (· < ·) := by decide
  exact ⟨Value.exact_of_wholeMembers _ whole, names, trivial, trivial, trivial, trivial, trivial⟩

theorem ofText_joinRequest (id name : Option String) :
    Wire.ofText JoinRequest (Wire.toText (JoinRequest.mk id name machine.description)) =
      .ok ⟨id, name, machine.description⟩ := by
  obtain ⟨kept, ordered⟩ := kept_description counted
  have text (t : Option String) : Wire.Shape.Returns 126 (.optional .text) t :=
    Wire.Shape.returns_optional fun w _ => ⟨Wire.Shape.returns_text 126 w, nofun⟩
  have shallow : (Value.object machine.description).depth ≤ 126 := Nat.le_of_ble_eq_true rfl
  exact Wire.ofText_of_returns
    ⟨text id, text name, Wire.Shape.returns_members shallow kept ordered, trivial⟩

end Host.Machine

/-! ## Actions -/

namespace Client

section Actions

variable {settings : Settings} {now : Time.Instant} {s : Store} {r : Request} {server : String}
  {a : Url.Authority} (origin : Origin server a)
  (granted : (Http.serve settings now s r).1.succeeds = true)

include origin granted

/-- A record that was sent is answered with what is done for it, and the client reads that. -/
theorem tells_of_post {α β : Type} [Record α] [Record β] [Record.Lawful β] {path : String}
    (route : Route) (fixed : (path, route) ∈ Route.fixed)
    (known : route.methods.contains "POST" = true) {v : α}
    (sent : postRequest server path v = .ok r) {status : Nat}
    {act : α → Except Fault (β × Store)}
    (posted : Http.post settings now s r route = answer status s (Http.readBody α r >>= act))
    (returns : ∀ request w, Wire.ofText α (Wire.toText v) = .ok request →
      act request = .ok (w, (Http.serve settings now s r).2) →
      Row.Returns 126 (Record.fields β) (Record.toRow w)) :
    (Http.serve settings now s r).1.Tells β := by
  obtain ⟨served, body⟩ := serve_of_postRequest origin route fixed settings now s known sent
  rw [served, posted] at granted returns ⊢
  refine Response.tells_answer granted fun w t done same => ?_
  obtain ⟨request, read, done⟩ := bind_eq_ok.mp done
  exact returns request w (body ▸ Http.ofText_of_readBody read) (same ▸ done)

theorem tells_of_join {machine : Host.Machine} (counted : machine.processors < UInt64.size)
    (told : Time.Instant.inReach now.year = true) {id name : Option String}
    (sent : postRequest server "/api/instances" (JoinRequest.mk id name machine.description) =
      .ok r) : (Http.serve settings now s r).1.Tells Instance := by
  refine tells_of_post origin granted .instances (by decide) (by decide) sent rfl
    fun request i read done => ?_
  obtain ⟨new, asks, done⟩ := bind_eq_ok.mp done
  have described : new.description = machine.description := by
    rw [Host.Machine.ofText_joinRequest counted] at read
    rw [NewInstance.description_of_ofRequest asks, ← Except.ok.inj read]
  rcases s.join_cases new now with ⟨-, joined⟩ | ⟨-, failed | failed⟩
  · obtain ⟨rfl, -⟩ := Prod.mk.inj (Except.ok.inj (joined.symm.trans done))
    obtain ⟨kept, ordered⟩ := Host.Machine.kept_description counted
    refine Instance.Tellable.returns ⟨described ▸ kept, described ▸ ordered, told⟩ ?_
    show (Value.object new.description).depth ≤ 126
    rw [described]
    exact Nat.le_of_ble_eq_true rfl
  · cases failed.symm.trans done
  · cases failed.symm.trans done

theorem tells_of_reserve (told : Time.Instant.inReach now.year = true)
    (numbered : (Http.serve settings now s r).2.Numbered) {v : ReserveRequest}
    (sent : postRequest server "/api/ports/reserve" v = .ok r) :
    (Http.serve settings now s r).1.Tells Binding := by
  refine tells_of_post origin granted .reserve (by decide) (by decide) sent rfl
    fun request b _ done => ?_
  obtain ⟨id, -, done⟩ := bind_eq_ok.mp done
  exact (Store.tellable_of_reserve told numbered done).returns 126

theorem tells_of_release (told : Time.Instant.inReach now.year = true)
    (numbered : (Http.serve settings now s r).2.Numbered) {v : ReleaseRequest}
    (sent : postRequest server "/api/ports/release" v = .ok r) :
    (Http.serve settings now s r).1.Tells Binding :=
  tells_of_post origin granted .release (by decide) (by decide) sent rfl
    fun _ _ _ done => (Store.tellable_of_release told numbered done).returns 126

theorem lists_of_report (numbered : (Http.serve settings now s r).2.Numbered)
    {v : ObserveRequest} (sent : postRequest server "/api/ports/observed" v = .ok r) :
    (Http.serve settings now s r).1.Lists Port := by
  obtain ⟨served, -⟩ := serve_of_postRequest origin .observed (by decide)
    settings now s (by decide) sent
  rw [served] at granted numbered ⊢
  simp only [Http.post, Http.postObserved] at granted numbered ⊢
  split at granted
  · rename_i ps t done
    simp only [done] at numbered ⊢
    obtain ⟨request, -, done⟩ := bind_eq_ok.mp done
    refine ⟨ps, rfl, decodeAnswer_list fun p member => ?_⟩
    exact Store.returns_of_observe numbered done p member 125
  · rw [Http.fault_succeeds] at granted
    cases granted

/-- A filter that was asked for is answered with a list of the store, and the client reads that. -/
theorem lists_of_get {α : Type} [Record α] [Record.Lawful α] {path : String} (route : Route)
    (fixed : (path, route) ∈ Route.fixed) (known : route.methods.contains "GET" = true)
    {pairs : List (String × String)} (asked : getRequest server path pairs = .ok r)
    (numbered : (Http.serve settings now s r).2.Numbered) {result : Except Fault (List α)}
    (got : Http.get s route (Http.Query.octetsOf pairs) = listing result)
    (returns : s.Numbered → ∀ vs, result = .ok vs →
      ∀ v ∈ vs, Row.Returns 125 (Record.fields α) (Record.toRow v)) :
    (Http.serve settings now s r).1.Lists α := by
  have served := serve_of_getRequest origin route fixed settings now s known asked
  rw [served, got] at granted
  rw [served] at numbered
  rw [served, got]
  exact Response.lists_listing granted (returns numbered)

theorem lists_of_listPorts (numbered : (Http.serve settings now s r).2.Numbered)
    {filter : PortFilter}
    (asked : getRequest server "/api/ports" (Http.Query.pairsOfPortFilter filter) = .ok r) :
    (Http.serve settings now s r).1.Lists Port := by
  have got : Http.get s .ports (Http.Query.octetsOf (Http.Query.pairsOfPortFilter filter)) =
      listing (s.listPorts filter) := by
    simp only [Http.get, Http.Query.portFilter?_octetsOf]
  exact lists_of_get origin granted .ports (by decide) (by decide) asked numbered got
    fun numbered _ listed p member => Store.returns_of_listPorts numbered listed p member 125

theorem lists_of_history (numbered : (Http.serve settings now s r).2.Numbered)
    {filter : BindingFilter}
    (asked : getRequest server "/api/bindings" (Http.Query.pairsOfBindingFilter filter) = .ok r) :
    (Http.serve settings now s r).1.Lists Binding := by
  have got : Http.get s .bindings (Http.Query.octetsOf (Http.Query.pairsOfBindingFilter filter)) =
      listing (s.listBindings filter) := by
    simp only [Http.get, Http.Query.bindingFilter?_octetsOf]
  exact lists_of_get origin granted .bindings (by decide) (by decide) asked numbered got
    fun numbered _ listed b member => Store.returns_of_listBindings numbered listed b member 125

/-- A list of instances that is granted is one of all instances. -/
theorem exists_of_listInstances (asked : plainRequest server "/api/instances" = .ok r) :
    ∃ is, s.listInstances none = .ok is ∧ (Http.serve settings now s r).1 = .list is := by
  rw [plainRequest_origin origin (by decide)] at asked
  have served := serve_of_getRequest origin .instances (by decide) settings now s
    (by decide) asked
  rw [served] at granted ⊢
  exact Response.exists_of_listing granted

end Actions

end Client

/-! ## Instances -/

namespace Store

variable (s : Store)

/-- Every instance whose row can be read comes back from an answer with one record. -/
def Tells : Prop :=
  ∀ row ∈ s.instances, ∀ i, row.read = .ok i →
    i.Tellable ∧ (Value.object i.description).depth ≤ 126

/-- What the machines tell of themselves needs no more levels than a list leaves. -/
def Shallow : Prop :=
  ∀ row ∈ s.instances, ∀ i, row.read = .ok i → (Value.object i.description).depth ≤ 125

end Store

namespace Client

section Instances

variable {settings : Settings} {now : Time.Instant} {s : Store} {r : Request} (tells : s.Tells)
  (granted : (Http.serve settings now s r).1.succeeds = true)

include tells granted

section Listed

variable {server : String} {a : Url.Authority} (origin : Origin server a)
  (asked : plainRequest server "/api/instances" = .ok r)

include origin asked

theorem lists_of_listInstances (shallow : s.Shallow) :
    (Http.serve settings now s r).1.Lists Instance := by
  obtain ⟨is, listed, sent⟩ := exists_of_listInstances origin granted asked
  rw [sent]
  refine ⟨is, rfl, decodeAnswer_list fun i member => ?_⟩
  obtain ⟨row, present, read⟩ := Store.exists_row_of_listInstances listed member
  exact (tells row present i read).1.returns (shallow row present i read)

theorem undecodable_of_deep (deep : ¬s.Shallow) :
    decodeAnswer (Wire.listOfText Instance) (Http.serve settings now s r).1 =
      .error .undecodable := by
  obtain ⟨is, listed, sent⟩ := exists_of_listInstances origin granted asked
  simp only [Store.Shallow, not_forall, Nat.not_le] at deep
  obtain ⟨row, present, i, read, deep⟩ := deep
  rw [sent]
  refine decodeAnswer_list_deep (fun j member => ?_)
    (Store.mem_of_listInstances listed present read) deep
  obtain ⟨other, among, reads⟩ := Store.exists_row_of_listInstances listed member
  exact (tells other among j reads).1

end Listed

omit tells granted in
/-- A list that is granted is not read as an instance. -/
theorem undecodable_of_listing {α : Type} [Record α] {result : Except Fault (List α)}
    (granted : (listing result).succeeds = true)
    (returns : ∀ vs, result = .ok vs →
      ∀ v ∈ vs, Row.Returns 126 (Record.fields α) (Record.toRow v)) :
    decodeAnswer (Wire.ofText Instance) (listing result) = .error .undecodable := by
  obtain ⟨vs, listed, sent⟩ := Response.exists_of_listing granted
  rw [sent]
  exact decodeAnswer_list_no_instance fun v member =>
    Row.plain_of_returns (returns vs listed v member)

section Shown

variable (got : r.method = "GET")

include got

theorem tells_of_show {segment : List UInt8}
    (directed : Route.ofPath r.path = some (.oneInstance segment)) :
    (Http.serve settings now s r).1.Tells Instance := by
  rw [Http.serve_got got directed (by rfl)] at granted ⊢
  simp only [Http.get, Http.getInstance] at granted ⊢
  split at granted
  · cases granted
  · split at granted
    · rename_i i found
      obtain ⟨row, present, read, -⟩ := Store.exists_row_of_getInstance found
      obtain ⟨tellable, shallow⟩ := tells row present i read
      exact ⟨200, i, rfl, decodeAnswer_record (by decide) (tellable.returns shallow)⟩
    · rw [Http.fault_succeeds] at granted
      cases granted

/-- Whatever else an instance is looked for at, what is found there is none. -/
theorem undecodable_of_misdirected (numbered : s.Numbered)
    (other : ¬∃ segment, Route.ofPath r.path = some (.oneInstance segment)) :
    decodeAnswer (Wire.ofText Instance) (Http.serve settings now s r).1 =
      .error .undecodable := by
  have notPost : r.method ≠ "POST" := by simp [got]
  cases path : Route.ofPath r.path with
  | none =>
    simp only [Http.serve, path, got] at granted
    cases granted
  | some route =>
    cases route with
    | oneInstance segment => exact absurd ⟨segment, path⟩ other
    | reserve | release | observed =>
      simp only [Http.serve, path, got] at granted
      cases granted
    | health =>
      rw [Http.serve_got got path (by rfl)]
      rfl
    | instances =>
      rw [Http.serve_got got path (by rfl)] at granted ⊢
      simp only [Http.get] at granted ⊢
      split at granted
      · cases granted
      · refine undecodable_of_listing granted fun is listed i member => ?_
        obtain ⟨row, present, read⟩ := Store.exists_row_of_listInstances listed member
        obtain ⟨tellable, shallow⟩ := tells row present i read
        exact tellable.returns shallow
    | ports =>
      rw [Http.serve_got got path (by rfl)] at granted ⊢
      simp only [Http.get] at granted ⊢
      split at granted
      · cases granted
      · exact undecodable_of_listing granted fun ps listed p member =>
          Store.returns_of_listPorts numbered listed p member 126
    | bindings =>
      rw [Http.serve_got got path (by rfl)] at granted ⊢
      simp only [Http.get] at granted ⊢
      split at granted
      · cases granted
      · exact undecodable_of_listing granted fun bs listed b member =>
          Store.returns_of_listBindings numbered listed b member 126

end Shown

end Instances

theorem method_of_plainRequest {server path : String} {r : Request}
    (asked : plainRequest server path = .ok r) : r.method = "GET" := by
  obtain ⟨u, -, asked⟩ := bind_eq_ok.mp asked
  obtain ⟨target, -, same⟩ := bind_eq_ok.mp asked
  cases same
  rfl

end Client

/-! ## Exchanges -/

/-- Nothing stands in the way of understanding the answer to a request: an instance is
looked for under a path of an instance, and instances are listed if none is too deep. -/
structure Store.Understandable (s : Store) (action : Action) (r : Request) : Prop where
  directed : ∀ given, action = .showInstance given →
    ∃ segment, Route.ofPath r.path = some (.oneInstance segment)
  shallow : action = .listInstances → s.Shallow

namespace Client

section Planned

variable {machine : Host.Machine} {inv : Invocation} {e : Exchange}
  (planned : plan machine inv = .ok (.exchange e))

include planned

/-- What is understood is told. -/
theorem exists_conclusion {r : Response} (understands : inv.action.Understands r) :
    ∃ text, e.conclude r = .ok text := by
  obtain ⟨server, self, action⟩ := inv
  cases action with
  | watch seconds =>
    simp only [plan] at planned
    split at planned <;> cases planned
  | join | showInstance | reserve | release =>
    obtain ⟨request, -, ⟨⟩⟩ := bind_eq_ok.mp planned
    obtain ⟨_, _, -, read⟩ := understands
    exact ⟨_, map_eq_ok.mpr ⟨_, read, rfl⟩⟩
  | listInstances | listPorts | history | report =>
    obtain ⟨request, -, ⟨⟩⟩ := bind_eq_ok.mp planned
    obtain ⟨_, -, read⟩ := understands
    exact ⟨_, map_eq_ok.mpr ⟨_, read, rfl⟩⟩

variable {c : Console} {now : Time.Instant}
  (granted : (Http.serve c.settings now c.store e.request).1.succeeds = true)
  (tells : c.store.Tells)
  (numbered : (Http.serve c.settings now c.store e.request).2.Numbered) {a : Url.Authority}
  (origin : Origin inv.server a)

include granted tells numbered origin

/-- **Every answer is understood**, if nothing stands in the way. -/
theorem understands_of_understandable (counted : machine.processors < UInt64.size)
    (told : Time.Instant.inReach now.year = true)
    (clear : c.store.Understandable inv.action e.request) :
    inv.action.Understands (Http.serve c.settings now c.store e.request).1 := by
  obtain ⟨server, self, action⟩ := inv
  cases action with
  | watch seconds =>
    simp only [plan] at planned
    split at planned <;> cases planned
  | join =>
    obtain ⟨request, sent, ⟨⟩⟩ := bind_eq_ok.mp planned
    exact tells_of_join origin granted counted told sent
  | showInstance =>
    obtain ⟨segment, directed⟩ := clear.directed _ rfl
    obtain ⟨request, asked, ⟨⟩⟩ := bind_eq_ok.mp planned
    exact tells_of_show tells granted (method_of_plainRequest asked) directed
  | listInstances =>
    obtain ⟨request, asked, ⟨⟩⟩ := bind_eq_ok.mp planned
    exact lists_of_listInstances tells granted origin asked (clear.shallow rfl)
  | reserve =>
    obtain ⟨request, sent, ⟨⟩⟩ := bind_eq_ok.mp planned
    exact tells_of_reserve origin granted told numbered sent
  | release =>
    obtain ⟨request, sent, ⟨⟩⟩ := bind_eq_ok.mp planned
    exact tells_of_release origin granted told numbered sent
  | listPorts =>
    obtain ⟨request, asked, ⟨⟩⟩ := bind_eq_ok.mp planned
    exact lists_of_listPorts origin granted numbered asked
  | history =>
    obtain ⟨request, asked, ⟨⟩⟩ := bind_eq_ok.mp planned
    exact lists_of_history origin granted numbered asked
  | report =>
    obtain ⟨request, sent, ⟨⟩⟩ := bind_eq_ok.mp planned
    exact lists_of_report origin granted numbered sent

/-- Otherwise it cannot be read at all. -/
theorem undecodable_of_not_understandable
    (blocked : ¬c.store.Understandable inv.action e.request) :
    e.conclude (Http.serve c.settings now c.store e.request).1 = .error .undecodable := by
  obtain ⟨server, self, action⟩ := inv
  cases action with
  | showInstance given =>
    obtain ⟨request, asked, ⟨⟩⟩ := bind_eq_ok.mp planned
    have got := method_of_plainRequest asked
    have unchanged : (Http.serve c.settings now c.store request).2 = c.store :=
      Http.serve_reading (by simp [got])
    have other : ¬∃ segment, Route.ofPath request.path = some (.oneInstance segment) :=
      fun directed => blocked ⟨fun _ _ => directed, nofun⟩
    dsimp only
    rw [undecodable_of_misdirected tells granted got (unchanged ▸ numbered) other, map_error]
  | listInstances =>
    obtain ⟨request, asked, ⟨⟩⟩ := bind_eq_ok.mp planned
    have deep : ¬c.store.Shallow := fun shallow => blocked ⟨nofun, fun _ => shallow⟩
    dsimp only
    rw [undecodable_of_deep tells granted origin asked deep, map_error]
  | join | reserve | release | listPorts | history | report | watch =>
    exact absurd ⟨nofun, nofun⟩ blocked

end Planned

end Client

/-! ## A deep instance -/

/-- Arrays within arrays, `n` of them around an empty one. -/
def nested : Nat → Value
  | 0 => .array []
  | n + 1 => .array [nested n]

theorem nested_each (p : Number → Prop) (n : Nat) : (nested n).Each p := by
  induction n with
  | zero => trivial
  | succ n ih => exact ⟨ih, trivial⟩

theorem nested_ordered (n : Nat) : (nested n).Ordered := by
  induction n with
  | zero => trivial
  | succ n ih => exact ⟨ih, trivial⟩

theorem depth_nested (n : Nat) : (nested n).depth = n + 1 := by
  induction n with
  | zero => rfl
  | succ n ih =>
    rw [nested, Value.depth, Value.depthItems, Value.depthItems, ih]
    omega

/-- A machine that tells such arrays of itself. -/
def nestedInstance (n : Nat) : Instance := ⟨"abc", "host", [("a", nested n)], Time.Instant.ofUnix 0 0⟩

/-- It joins. -/
def nestedJoin (n : Nat) : Event :=
  .post "/api/instances" (JoinRequest.mk (some "abc") (some "host") (nestedInstance n).description)

theorem depth_nestedInstance (n : Nat) :
    (Value.object (nestedInstance n).description).depth = n + 2 := by
  rw [nestedInstance, Value.depth, Value.depthMembers, Value.depthMembers, depth_nested]
  omega

/-- What joins at the start of the clock is read from its row. -/
theorem read_row_at_start {i : Instance} (faithful : i.Faithful)
    (start : i.joinedAt = Time.Instant.ofUnix 0 0) : i.row.read = .ok i := by
  rcases Instance.read_row faithful with read | ⟨-, undated⟩
  · exact read
  · rw [start] at undated
    exact absurd ⟨by decide, by decide⟩ undated

theorem read_nestedInstance {n : Nat} (few : n ≤ 125) :
    (nestedInstance n).row.read = .ok (nestedInstance n) := by
  have integral (p : Number → Prop) : (Value.object (nestedInstance n).description).Each p :=
    ⟨nested_each p n, trivial⟩
  have decoded : (Value.object (nestedInstance n).description).Decoded Json.deepest := by
    refine ⟨integral _, ?_⟩
    rw [depth_nestedInstance]
    exact Nat.add_le_add_right few 2
  have ordered : (Value.object (nestedInstance n).description).Ordered :=
    ⟨List.pairwise_singleton _ _, nested_ordered n, trivial⟩
  exact read_row_at_start (Instance.faithful_of_decoded decoded ordered (integral _)) rfl

/-- A client that lists the instances of a service on this machine. -/
def listHere : Invocation := ⟨"http://[::1]:3030", none, .listInstances⟩

theorem exists_plan_listHere : ∃ e, Client.plan plainMachine listHere = .ok (.exchange e) := by
  have short : (Client.askedUrl hereAuthority "/api/instances" []).text.length ≤
      Url.longestAsked := by decide +kernel
  have settled : Url.Settled "/api/instances".toList := by decide
  have asked := Client.getRequest_origin origin_here settled []
  rw [if_pos short, ← Client.plainRequest_origin origin_here settled] at asked
  exact ⟨_, by rw [Client.plan, listHere]; dsimp only; rw [asked]; rfl⟩

/-- The only instance is listed. -/
theorem serve_listHere {c : Console} {i : Instance} {e : Exchange} (now : Time.Instant)
    (planned : Client.plan plainMachine listHere = .ok (.exchange e))
    (only : c.store.instances = [i.row]) (read : i.row.read = .ok i) :
    Http.serve c.settings now c.store e.request = (.list [i], c.store) := by
  obtain ⟨request, asked, ⟨⟩⟩ := bind_eq_ok.mp planned
  rw [listHere, Client.plainRequest_origin origin_here (by decide)] at asked
  have served := Client.serve_of_getRequest origin_here .instances (by decide)
    c.settings now c.store (by decide) asked
  have listed : c.store.listInstances none = .ok [i] := by
    rw [Store.listInstances, only]
    simp [read]
  have got : Http.get c.store .instances (Http.Query.octetsOf []) = .list [i] :=
    congrArg listing listed
  rw [served, got]

/-- There is no number in what it tells. -/
theorem integral_of_only {c : Console} {n : Nat} (few : n ≤ 125)
    (only : c.store.instances = [(nestedInstance n).row]) :
    ∀ row ∈ c.store.instances, ∀ i, row.read = .ok i →
      (Value.object i.description).Each Number.Integral := by
  intro row member i read
  rw [only] at member
  obtain rfl := List.mem_singleton.mp member
  obtain rfl := Except.ok.inj (read.symm.trans (read_nestedInstance few))
  exact ⟨nested_each _ n, trivial⟩

/-! ## What is understood -/

/-- **What a client is granted it understands.**  Whichever action a client takes on a
service that was reached over HTTP, if the service grants it, the client reads exactly the
record or the list that was sent, and tells it -- unless it looks for an instance at a path
that is not one of an instance, or lists the instances and one of them needs more levels
than a list leaves.  Then it cannot decode the answer. -/
theorem answers_understood (settings : Settings) (seeded : Bool) (events : List Event)
    {machine : Host.Machine} {inv : Invocation} {e : Exchange} {now : Time.Instant}
    {a : Url.Authority} (origin : Origin inv.server a)
    (planned : Client.plan machine inv = .ok (.exchange e))
    (counted : machine.processors < UInt64.size) (told : Time.Instant.inReach now.year = true) :
    let c := Console.reached settings seeded events
    let answered := Http.serve c.settings now c.store e.request
    answered.2.Numbered → answered.1.succeeds = true →
    (∀ row ∈ c.store.instances, ∀ i, row.read = .ok i →
      (Value.object i.description).Each Number.Integral) →
    (c.store.Understandable inv.action e.request →
      inv.action.Understands answered.1 ∧ ∃ text, e.conclude answered.1 = .ok text) ∧
    (¬c.store.Understandable inv.action e.request →
      e.conclude answered.1 = .error .undecodable) := by
  intro c answered numbered granted integral
  have tells : c.store.Tells := fun row present i read =>
    Console.told_of_read present read (integral row present i read)
  constructor
  · intro clear
    have understands :=
      Client.understands_of_understandable planned granted tells numbered origin counted told clear
    exact ⟨understands, Client.exists_conclusion planned understands⟩
  · intro blocked
    exact Client.undecodable_of_not_understandable planned granted tells numbered origin blocked

/-- A machine that tells little of itself is listed. -/
theorem answers_understood_listed :
    let c := Console.reached ⟨threePorts, .optional⟩ false [nestedJoin 0]
    ∃ e, Client.plan plainMachine listHere = .ok (.exchange e) ∧
      Origin listHere.server hereAuthority ∧ c.store.Numbered ∧ c.store.Shallow ∧
      ∃ text, e.conclude (Http.serve c.settings (Time.Instant.ofUnix 0 0) c.store e.request).1 =
        .ok text := by
  intro c
  obtain ⟨e, planned⟩ := exists_plan_listHere
  have only : c.store.instances = [(nestedInstance 0).row] := by decide +kernel
  have numbered : c.store.Numbered := by decide +kernel
  have read := read_nestedInstance (n := 0) (by decide)
  have served := serve_listHere (Time.Instant.ofUnix 0 0) planned only read
  have shallow : c.store.Shallow := by
    intro row member i again
    rw [only] at member
    obtain rfl := List.mem_singleton.mp member
    obtain rfl := Except.ok.inj (again.symm.trans read)
    exact Nat.le_of_ble_eq_true rfl
  have told : Time.Instant.inReach (Time.Instant.ofUnix 0 0).year = true := by decide
  have understood := answers_understood ⟨threePorts, .optional⟩ false [nestedJoin 0] origin_here
    planned (by decide) told
  refine ⟨e, planned, origin_here, numbered, shallow, ?_⟩
  refine ((understood ?_ ?_ (integral_of_only (by decide) only)).1 ⟨nofun, fun _ => shallow⟩).2
  · rw [served]
    exact numbered
  · rw [served]
    rfl

/-- Refuting pole: a machine joins that tells 126 levels of itself.  The list of the
instances is granted and cannot be read. -/
theorem deep_instance_unlistable :
    ¬∀ (settings : Settings) (seeded : Bool) (events : List Event) (machine : Host.Machine)
        (inv : Invocation) (e : Exchange) (now : Time.Instant) (a : Url.Authority),
      Origin inv.server a → Client.plan machine inv = .ok (.exchange e) →
      machine.processors < UInt64.size → Time.Instant.inReach now.year = true →
      let c := Console.reached settings seeded events
      let answered := Http.serve c.settings now c.store e.request
      answered.2.Numbered → answered.1.succeeds = true →
      (∀ row ∈ c.store.instances, ∀ i, row.read = .ok i →
        (Value.object i.description).Each Number.Integral) →
      inv.action.Understands answered.1 := by
  intro always
  obtain ⟨e, planned⟩ := exists_plan_listHere
  generalize isReached : Console.reached ⟨threePorts, .optional⟩ false [nestedJoin 124] = c
  have only : c.store.instances = [(nestedInstance 124).row] := by
    rw [← isReached]
    decide +kernel
  have numbered : c.store.Numbered := by
    rw [← isReached]
    decide +kernel
  have read := read_nestedInstance (n := 124) (by decide)
  have served := serve_listHere (Time.Instant.ofUnix 0 0) planned only read
  have integral := integral_of_only (by decide) only
  have understands := always ⟨threePorts, .optional⟩ false [nestedJoin 124] _ _ e
    (Time.Instant.ofUnix 0 0) _ origin_here planned (by decide) (by decide)
  rw [isReached] at understands
  dsimp only at understands
  rw [served] at understands
  obtain ⟨is, -, listed⟩ := understands numbered rfl integral
  have present : (nestedInstance 124).row ∈ c.store.instances := only ▸ List.mem_cons_self
  have tellable := (Console.told_of_read (isReached ▸ present) read
    (integral _ present _ read)).1
  have unread : Client.decodeAnswer (Wire.listOfText Instance) (.list [nestedInstance 124]) =
      .error .undecodable := Client.decodeAnswer_list_deep
    (fun i member => List.mem_singleton.mp member ▸ tellable) List.mem_cons_self
    (by rw [depth_nestedInstance]; decide)
  cases unread.symm.trans listed

end PortPool
