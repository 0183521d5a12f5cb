/-
# PortPool.Proofs.Client.Listing -- what is listed is what was asked for

A client lists ports or bindings by a filter, which travels as the query of a URL.  An
instance id in it may be any text: what would part the query is escaped, and the service
reads the filter as it was meant.  So the client prints what the filter matches in the
store of the service, one line for each, or why the service refused (`filters_survive`).

There is one exception, at the length of a URL: whoever acts under an id of more
characters than a URL may have cannot ask for its ports (`long_id_not_asked`).
-/
import PortPool.Proofs.Client.Answer
import PortPool.Proofs.Client.Scope

namespace PortPool

set_option autoImplicit false

open Client (Origin askedUrl portLine bindingLine)
open Command.Client (Invocation)
open Http (listing Request)
open Http.Query (octetsOf pairsOfPortFilter pairsOfBindingFilter)
open Wire (Record Row)
open Url (longestAsked)

/-! ## Replies -/

/-- The reply of a client that was answered so: it prints what it was told, or why it
was refused. -/
def Reply.ofAnswer {α : Type} (tell : α → String) : Except Fault α → Reply
  | .ok v => .output (tell v)
  | .error f => .failed (.ofFault f)

/-- The reply to a list that is asked for. -/
theorem Console.exchange_listing {α : Type} [Record α] [Record.Lawful α] {c : Console}
    {now : Time.Instant} {r : Request} {result : Except Fault (List α)}
    (served : Http.serve c.settings now c.store r = (listing result, c.store))
    (returns : ∀ vs, result = .ok vs →
      ∀ v ∈ vs, Row.Returns 125 (Record.fields α) (Record.toRow v))
    (tell : List α → String) :
    c.exchange now ⟨r, fun r => (Client.decodeAnswer (Wire.listOfText α) r).map tell⟩ =
      (.ofAnswer tell result, c) := by
  rw [Console.exchange, served]
  simp only [Client.decodeAnswer_listing returns]
  cases result <;> rfl

/-! ## Lists -/

namespace Store

variable {s : Store} (numbered : s.Numbered)

include numbered

theorem returns_of_listPorts {filter : PortFilter} {ps : List Port}
    (listed : s.listPorts filter = .ok ps) (p : Port) (member : p ∈ ps) (room : Nat) :
    Row.Returns room (Record.fields Port) (Record.toRow p) := by
  have among : ∃ r ∈ s.ports.rows, s.readPort r = .ok p := by
    rw [listPorts] at listed
    cases asked : filter.instanceId with
    | none =>
      simp only [asked] at listed
      obtain ⟨r, among, read⟩ := exists_of_mem_mapM listed member
      exact ⟨r, List.mem_of_mem_filter among, read⟩
    | some id =>
      simp only [asked, bind_eq_ok] at listed
      obtain ⟨-, -, listed⟩ := listed
      obtain ⟨r, among, read⟩ := exists_of_mem_mapM listed member
      exact ⟨r, List.mem_of_mem_filter among, read⟩
  obtain ⟨r, present, read⟩ := among
  exact Port.returns_of_read numbered present read room

theorem returns_of_listBindings {filter : BindingFilter} {bs : List Binding}
    (listed : s.listBindings filter = .ok bs) (b : Binding) (member : b ∈ bs) (room : Nat) :
    Row.Returns room (Record.fields Binding) (Record.toRow b) := by
  obtain ⟨row, among, read⟩ := exists_of_mem_mapM listed member
  have small := numbered.bindings row (List.mem_of_mem_filter among)
  exact (BindingRow.tellable_of_read read small).returns room

end Store

/-! ## Filters of the client -/

namespace Command.Client.Invocation

variable (inv : Invocation) (machine : Host.Machine)

/-- Which ports the client asks for. -/
def portFilter (reserved free mine : Bool) : PortFilter :=
  ⟨if reserved then some true else if free then some false else none,
    if mine then some (inv.self machine) else none⟩

/-- Which bindings the client asks for. -/
def bindingFilter (all : Bool) : BindingFilter := ⟨if all then none else some (inv.self machine), none⟩

end Command.Client.Invocation

/-- A reply, unless the URL is too long to be asked. -/
def Reply.unlessTooLong (url : Url) (reply : Reply) : Reply :=
  if url.text.length ≤ longestAsked then reply else .failed (.notAskable url.text)

namespace Console

variable {c : Console} {machine : Host.Machine} {now : Time.Instant} {inv : Invocation}

theorem reply_of_parse {env : Command.Environment} {words : List String}
    (parsed : Command.Client.parse env words = .ok inv) :
    c.reply machine env now words = c.carryOut machine now inv := by
  rw [reply, parsed]

variable {a : Url.Authority} (origin : Origin inv.server a)

include origin

/-- **A filter that is asked for is answered as what it is.** -/
theorem carryOut_filtered {α : Type} [Record α] [Record.Lawful α] {path : String}
    (route : Http.Route) (fixed : (path, route) ∈ Http.Route.fixed)
    (known : route.methods.contains "GET" = true) {pairs : List (String × String)}
    {tell : List α → String}
    (plan : Client.plan machine inv = (do
      let request ← Client.getRequest inv.server path pairs
      pure <| Client.forList α request tell))
    {result : Except Fault (List α)}
    (got : Http.get c.store route (octetsOf pairs) = listing result)
    (returns : ∀ vs, result = .ok vs →
      ∀ v ∈ vs, Row.Returns 125 (Record.fields α) (Record.toRow v)) :
    c.carryOut machine now inv =
      (.unlessTooLong (askedUrl a path pairs) (.ofAnswer tell result), c) := by
  have asked := Client.getRequest_origin origin (Client.settled_of_fixed _ fixed) pairs
  rw [carryOut, plan, Reply.unlessTooLong]
  by_cases fits : (askedUrl a path pairs).text.length ≤ longestAsked
  · rw [if_pos fits] at asked ⊢
    rw [asked]
    refine exchange_listing ?_ returns tell
    rw [Client.serve_of_getRequest origin route fixed c.settings now c.store known asked, got]
  · rw [if_neg fits] at asked ⊢
    rw [asked]
    rfl

variable (numbered : c.store.Numbered)

include numbered

theorem carryOut_listPorts {reserved free mine : Bool}
    (told : inv.action = .listPorts reserved free mine) :
    let filter := inv.portFilter machine reserved free mine
    c.carryOut machine now inv =
      (.unlessTooLong (askedUrl a "/api/ports" (pairsOfPortFilter filter))
        (.ofAnswer (fun ps => String.join (ps.map portLine)) (c.store.listPorts filter)),
        c) := by
  intro filter
  have plan : Client.plan machine inv = (do
      let request ← Client.getRequest inv.server "/api/ports"
        (pairsOfPortFilter filter)
      pure <| Client.forList Port request fun ps => String.join (ps.map portLine)) := by
    rw [Client.plan, told]
    rfl
  refine carryOut_filtered origin .ports (by decide) (by decide) plan ?_ ?_
  · simp only [Http.get, Http.Query.portFilter?_octetsOf]
  · exact fun ps listed p member => Store.returns_of_listPorts numbered listed p member 125

theorem carryOut_history {all : Bool} (told : inv.action = .history all) :
    let filter := inv.bindingFilter machine all
    c.carryOut machine now inv =
      (.unlessTooLong (askedUrl a "/api/bindings" (pairsOfBindingFilter filter))
        (.ofAnswer (fun bs => String.join (bs.map bindingLine))
          (c.store.listBindings filter)), c) := by
  intro filter
  have plan : Client.plan machine inv = (do
      let request ← Client.getRequest inv.server "/api/bindings"
        (pairsOfBindingFilter filter)
      pure <| Client.forList Binding request fun bs => String.join (bs.map bindingLine)) := by
    rw [Client.plan, told]
    rfl
  refine carryOut_filtered origin .bindings (by decide) (by decide) plan ?_ ?_
  · simp only [Http.get, Http.Query.bindingFilter?_octetsOf]
  · exact fun bs listed b member => Store.returns_of_listBindings numbered listed b member 125

end Console

/-- **Filters survive the way from the client to the service.**  Whatever a filter asks
for, the pairs that are written for it are read as that filter.  So a client that lists
ports or bindings prints what the filter matches in the store, or why that is refused,
unless the URL is too long to be asked. -/
theorem filters_survive :
    (∀ filter, Http.Query.portFilter? (octetsOf (pairsOfPortFilter filter)) = some filter) ∧
    (∀ filter, Http.Query.bindingFilter? (octetsOf (pairsOfBindingFilter filter)) =
      some filter) ∧
    ∀ (c : Console) (machine : Host.Machine) (env : Command.Environment) (now : Time.Instant)
      (words : List String) (inv : Invocation) (a : Url.Authority),
      Command.Client.parse env words = .ok inv → Origin inv.server a → c.store.Numbered →
      (∀ reserved free mine, inv.action = .listPorts reserved free mine →
        let filter := inv.portFilter machine reserved free mine
        c.reply machine env now words =
          (.unlessTooLong (askedUrl a "/api/ports" (pairsOfPortFilter filter))
            (.ofAnswer (fun ps => String.join (ps.map portLine)) (c.store.listPorts filter)), c)) ∧
      ∀ all, inv.action = .history all →
        let filter := inv.bindingFilter machine all
        c.reply machine env now words =
          (.unlessTooLong (askedUrl a "/api/bindings" (pairsOfBindingFilter filter))
            (.ofAnswer (fun bs => String.join (bs.map bindingLine))
              (c.store.listBindings filter)), c) := by
  refine ⟨Http.Query.portFilter?_octetsOf, Http.Query.bindingFilter?_octetsOf, ?_⟩
  intro c machine env now words inv a parsed origin numbered
  rw [Console.reply_of_parse parsed]
  exact ⟨fun _ _ _ told => Console.carryOut_listPorts origin numbered told,
    fun _ told => Console.carryOut_history origin numbered told⟩

/-! ## Two clients -/

/-- A service on this machine. -/
def hereAuthority : Url.Authority := ⟨[], none, some (.v6 [0, 0, 0, 0, 0, 0, 0, 1]), some 3030⟩

theorem origin_here : Origin "http://[::1]:3030" hereAuthority where
  read := ⟨⟨"[::1]:3030".toList, [], by decide, by decide, by decide +kernel⟩, rfl⟩
  asked := rfl

/-- A variable tells the instance to act as. -/
def actingAs (id : String) : Command.Environment where
  lookup name := if name = "GATEKEEPER_INSTANCE_ID" then some id else none

/-- Words that list the ports of an instance. -/
def mineWords : List String := ["--server", "http://[::1]:3030", "port", "list", "--mine"]

theorem parse_mineWords (id : String) : Command.Client.parse (actingAs id) mineWords =
    .ok ⟨"http://[::1]:3030", some id, .listPorts false false true⟩ := by
  rfl

instance (s : Store) : Decidable s.Numbered :=
  decidable_of_iff ((∀ r ∈ s.ports.rows, r.id ≤ 0x7FFFFFFFFFFFFFFF) ∧
      ∀ b ∈ s.bindings, b.id ≤ 0x7FFFFFFFFFFFFFFF)
    ⟨fun h => ⟨h.1, h.2⟩, fun h => ⟨h.ports, h.bindings⟩⟩

/-- The ports of the instance `abc` are listed. -/
theorem filters_survive_abc :
    (Console.reached ⟨threePorts, .optional⟩ false reservedByAbc).store.Numbered ∧
    Origin "http://[::1]:3030" hereAuthority ∧
    (Console.reached ⟨threePorts, .optional⟩ false reservedByAbc).reply plainMachine
      (actingAs "abc") (Time.Instant.ofUnix 0 0) mineWords =
        (.output "8000  reserved\n", Console.reached ⟨threePorts, .optional⟩ false reservedByAbc) := by
  have numbered : (Console.reached ⟨threePorts, .optional⟩ false reservedByAbc).store.Numbered := by
    decide +kernel
  refine ⟨numbered, origin_here, ?_⟩
  have lists := (filters_survive.2.2 _ plainMachine _ (Time.Instant.ofUnix 0 0) _ _ _
    (parse_mineWords "abc") origin_here numbered).1 false false true rfl
  have listed : (Console.reached ⟨threePorts, .optional⟩ false reservedByAbc).store.listPorts
      ⟨none, some "abc"⟩ = .ok [⟨1, 8000, true⟩] := by decide +kernel
  have short : (askedUrl hereAuthority "/api/ports"
      (pairsOfPortFilter ⟨none, some "abc"⟩)).text.length ≤ longestAsked := by decide +kernel
  refine lists.trans (congrArg (·, _) ((if_pos short).trans ?_))
  exact congrArg (Reply.ofAnswer _) listed

/-- A URL is longer than an id that is asked for in it. -/
theorem length_lt_askedUrl (a : Url.Authority) (id : String) :
    id.length < (askedUrl a "/api/ports" (pairsOfPortFilter ⟨none, some id⟩)).text.length := by
  have written := Text.Form.length_le_encode id
  have pairs : Text.Form.render (pairsOfPortFilter ⟨none, some id⟩) =
      Text.Form.encode "instance_id" ++ '=' :: Text.Form.encode id := by
    simp [pairsOfPortFilter, Http.Query.pair, Text.Form.render, List.intercalate]
  have query : (askedUrl a "/api/ports" (pairsOfPortFilter ⟨none, some id⟩)).query =
      some (Text.Form.encode "instance_id" ++ '=' :: Text.Form.encode id) := by
    rw [Client.query_askedUrl, pairs, if_neg (by simp)]
  rw [Url.text, String.length_ofList, query]
  simp only [List.length_append, List.length_cons, Url.Authority.marked]
  omega

theorem reply_long_id {c : Console} (numbered : c.store.Numbered) (machine : Host.Machine)
    (now : Time.Instant) {id : String} (long : longestAsked ≤ id.length) :
    (c.reply machine (actingAs id) now mineWords).1 =
      .failed (.notAskable (askedUrl hereAuthority "/api/ports"
        (pairsOfPortFilter ⟨none, some id⟩)).text) := by
  have carried : c.carryOut machine now
      ⟨"http://[::1]:3030", some id, .listPorts false false true⟩ = _ :=
    Console.carryOut_listPorts origin_here numbered rfl
  have filter : Invocation.portFilter ⟨"http://[::1]:3030", some id, .listPorts false false true⟩
      machine false false true = ⟨none, some id⟩ := rfl
  have longer := length_lt_askedUrl hereAuthority id
  rw [Console.reply_of_parse (parse_mineWords id), carried, filter, Reply.unlessTooLong,
    if_neg (by omega)]

/-- Refuting pole: whoever acts under an id of 65534 letters is told nothing about its
ports, whether it has any or not. -/
theorem long_id_not_asked :
    ¬∀ (c : Console) (machine : Host.Machine) (env : Command.Environment) (now : Time.Instant)
        (words : List String) (inv : Invocation) (a : Url.Authority) (reserved free mine : Bool),
      Command.Client.parse env words = .ok inv → Origin inv.server a → c.store.Numbered →
      inv.action = .listPorts reserved free mine →
      (c.reply machine env now words).1 =
        .ofAnswer (fun ps => String.join (ps.map portLine))
          (c.store.listPorts (inv.portFilter machine reserved free mine)) := by
  intro always
  obtain ⟨id, long⟩ : ∃ id : String, longestAsked ≤ id.length :=
    ⟨String.ofList (List.replicate longestAsked 'a'), by
      rw [String.length_ofList, List.length_replicate]⟩
  have numbered : (Console.start ⟨threePorts, .optional⟩ false).store.Numbered := ⟨nofun, nofun⟩
  have told := always _ plainMachine _ (Time.Instant.ofUnix 0 0) _ _ _ false false true
    (parse_mineWords id) origin_here numbered rfl
  rw [reply_long_id numbered plainMachine _ long] at told
  generalize Store.listPorts _ _ = result at told
  cases result <;> cases told

end PortPool
