/-
# PortPool.Proofs.Client.Request -- what the client sends

A client that is given an origin as its server asks that server for exactly the path of
the service that it means, with exactly the pairs that it means (`getRequest_origin`,
`path_askedUrl_target`, `query_askedUrl_target`), or for nothing at all: a URL of more than
`Url.longestAsked` characters is not asked.  What is asked comes to the route of its path
(`serve_of_getRequest`, `serve_of_postRequest`).
-/
import PortPool.Client.Plan
import PortPool.Proofs.Except
import PortPool.Proofs.Http.Query
import PortPool.Proofs.Http.Service
import PortPool.Proofs.Url.Origin

namespace PortPool

set_option autoImplicit false

open Text (Utf8.encode)
open Url (Authority Settled longestAsked)

/-! ## Targets -/

namespace Http

variable {path : List Char} (plain : Text.Lacks path ['?', '#']) (method : String)
  (contentType : Option String) (body : List UInt8)

include plain

theorem encode_apart : ∀ b ∈ Utf8.encode path, (decide (b ≠ 0x3F) && decide (b ≠ 0x23)) = true := by
  intro b member
  simp only [Bool.and_eq_true, decide_eq_true_eq]
  constructor
  · rintro rfl
    exact plain _ (Text.Utf8.ofNat_mem_encode (c := '?') (by decide) member) (by decide)
  · rintro rfl
    exact plain _ (Text.Utf8.ofNat_mem_encode (c := '#') (by decide) member) (by decide)

/-- The path of a target is what stands before its query. -/
theorem path_target (query : Option (List Char)) :
    Request.path ⟨method, Utf8.encode (path ++ Authority.marked '?' query), contentType, body⟩ =
      Utf8.encode path := by
  have behind : (Utf8.encode (Authority.marked '?' query)).takeWhile
      (fun b => b ≠ 0x3F && b ≠ 0x23) = [] := by
    cases query <;> rfl
  rw [Request.path, Text.Utf8.encode_append, List.takeWhile_append_of_pos (encode_apart plain),
    behind, List.append_nil]

/-- The query string of a target is what stands behind its path. -/
theorem query_target {query : List Char} (apart : 0x23 ∉ Utf8.encode query) :
    Request.query ⟨method, Utf8.encode (path ++ Authority.marked '?' (some query)), contentType,
      body⟩ = Utf8.encode query := by
  have behind : (Utf8.encode (Authority.marked '?' (some query))).dropWhile
      (fun b => b ≠ 0x3F && b ≠ 0x23) = 0x3F :: Utf8.encode query := rfl
  have whole : (Utf8.encode query).takeWhile (· ≠ 0x23) = Utf8.encode query :=
    List.takeWhile_eq_self_iff.mpr fun b member => by
      simpa using fun same : b = 0x23 => apart (same ▸ member)
  simp only [Request.query, Text.Utf8.encode_append,
    List.dropWhile_append_of_pos (encode_apart plain), behind, whole]

theorem query_target_none :
    Request.query ⟨method, Utf8.encode (path ++ Authority.marked '?' none), contentType, body⟩ =
      [] := by
  have rest : (Utf8.encode path).dropWhile (fun b => b ≠ 0x3F && b ≠ 0x23) = [] :=
    List.dropWhile_eq_nil_iff.mpr (encode_apart plain)
  simp only [Request.query, Authority.marked, List.append_nil, rest]

end Http

/-! ## Requests -/

namespace Client

/-- The server is given as an origin whose name can be asked. -/
structure Origin (server : String) (a : Authority) : Prop where
  read : Url.Origin (baseOf server) a
  asked : a.host.any Url.Host.canBeAsked = true

/-- The URL of a path of the service, with the pairs of a filter. -/
def askedUrl (a : Authority) (path : String) (pairs : List (String × String)) : Url :=
  Url.withPairs ⟨"http".toList, some a.withoutCredentials, path.toList, none, none⟩ pairs

theorem host_withoutCredentials (a : Authority) : a.withoutCredentials.host = a.host := by
  rw [Authority.withoutCredentials]
  split <;> rfl

theorem path_askedUrl (a : Authority) (path : String) (pairs : List (String × String)) :
    (askedUrl a path pairs).path = path.toList := rfl

theorem query_askedUrl (a : Authority) (path : String) (pairs : List (String × String)) :
    (askedUrl a path pairs).query =
      if (Text.Form.render pairs).isEmpty then none else some (Text.Form.render pairs) := rfl

/-- A URL of a server that can be asked is asked unless it is too long. -/
theorem targetOf_eq {u : Url} (scheme : u.scheme = "http".toList)
    (asked : u.host?.any Url.Host.canBeAsked = true) :
    targetOf u = if u.text.length ≤ longestAsked then .ok u.target
      else .error (.notAskable u.text) := by
  have askable : u.canBeAsked = decide (u.text.length ≤ longestAsked) := by
    rw [Url.canBeAsked, asked, scheme]
    rfl
  rw [targetOf, askable]
  simp only [decide_eq_true_eq]

section Origin

variable {server : String} {a : Authority} (origin : Origin server a)

include origin

theorem urlOf_origin {path : String} {u : Url} (named : u.authority = some a)
    (parsed : Url.parse? (String.ofList (baseOf server ++ path.toList)) = some u) :
    urlOf server path = .ok u.withoutCredentials := by
  have host : u.host?.isSome = true := by
    rw [Url.host?, named]
    exact origin.read.named
  rw [urlOf, parsed]
  exact if_pos host

theorem targetOf_askedUrl (path : String) (pairs : List (String × String)) :
    targetOf (askedUrl a path pairs) =
      if (askedUrl a path pairs).text.length ≤ longestAsked then .ok (askedUrl a path pairs).target
      else .error (.notAskable (askedUrl a path pairs).text) := by
  refine targetOf_eq rfl ?_
  show (a.withoutCredentials.host).any Url.Host.canBeAsked = true
  rw [host_withoutCredentials]
  exact origin.asked

variable {path : String} (settled : Settled path.toList)

include settled

theorem urlOf_settled : urlOf server path = .ok (askedUrl a path []) :=
  urlOf_origin origin rfl (Url.parse?_settled origin.read settled)

/-- **A filter is asked for as it is**, unless the URL is too long. -/
theorem getRequest_origin (pairs : List (String × String)) :
    getRequest server path pairs =
      if (askedUrl a path pairs).text.length ≤ longestAsked then
        .ok ⟨"GET", (askedUrl a path pairs).target, none, []⟩
      else .error (.notAskable (askedUrl a path pairs).text) := by
  have target := targetOf_askedUrl origin path pairs
  rw [getRequest, urlOf_settled origin settled, bind_ok,
    show (askedUrl a path []).withPairs pairs = askedUrl a path pairs from rfl, target]
  split <;> rfl

theorem plainRequest_origin : plainRequest server path = getRequest server path [] := by
  rw [plainRequest, getRequest, urlOf_settled origin settled]
  rfl

/-- **A record is sent as it is**, unless the URL is too long. -/
theorem postRequest_origin {α : Type} [Wire.Record α] (v : α) :
    postRequest server path v =
      if (askedUrl a path []).text.length ≤ longestAsked then
        .ok ⟨"POST", (askedUrl a path []).target, some "application/json", Wire.toText v⟩
      else .error (.notAskable (askedUrl a path []).text) := by
  rw [postRequest, urlOf_settled origin settled, bind_ok, targetOf_askedUrl origin path []]
  split <;> rfl

end Origin

section Asked

variable {a : Authority} {path : String} (settled : Settled path.toList)
  (pairs : List (String × String)) (method : String) (contentType : Option String)
  (body : List UInt8)

include settled

/-- The service finds the path that was meant. -/
theorem path_askedUrl_target :
    Http.Request.path ⟨method, (askedUrl a path pairs).target, contentType, body⟩ =
      Text.Utf8.ofString path :=
  Http.path_target settled.ends method contentType body _

/-- The service finds the pairs that were meant. -/
theorem query_askedUrl_target :
    Http.Request.query ⟨method, (askedUrl a path pairs).target, contentType, body⟩ =
      Http.Query.octetsOf pairs := by
  have plain := settled.ends
  rw [Url.target, path_askedUrl, query_askedUrl]
  split
  · rename_i empty
    rw [Http.query_target_none plain, Http.Query.octetsOf, List.isEmpty_iff.mp empty]
    rfl
  · exact Http.query_target plain method contentType body (Text.Form.hash_notMem_render pairs)

end Asked

/-! ## Routes -/

/-- Every path of the service stays as it is. -/
theorem settled_of_fixed : ∀ r ∈ Http.Route.fixed, Settled r.1.toList := by decide

theorem ofPath_of_fixed :
    ∀ r ∈ Http.Route.fixed, Http.Route.ofPath (Text.Utf8.ofString r.1) = some r.2 := by decide

section Served

variable {server : String} {a : Authority} (origin : Origin server a) {path : String}
  (route : Http.Route) (fixed : (path, route) ∈ Http.Route.fixed) (settings : Settings)
  (now : Time.Instant) (s : Store) {r : Http.Request}

include origin fixed

/-- A filter that is asked for comes to the route of its path. -/
theorem serve_of_getRequest (known : route.methods.contains "GET" = true)
    {pairs : List (String × String)} (asked : getRequest server path pairs = .ok r) :
    Http.serve settings now s r = (Http.get s route (Http.Query.octetsOf pairs), s) := by
  have settled := settled_of_fixed _ fixed
  rw [getRequest_origin origin settled] at asked
  split at asked <;> cases asked
  have arrives := path_askedUrl_target (a := a) settled pairs "GET" none []
  rw [Http.serve_got rfl (arrives ▸ ofPath_of_fixed _ fixed) known, query_askedUrl_target settled]

/-- A record that is sent comes to the route of its path. -/
theorem serve_of_postRequest (known : route.methods.contains "POST" = true) {α : Type}
    [Wire.Record α] {v : α} (sent : postRequest server path v = .ok r) :
    Http.serve settings now s r = Http.post settings now s r route ∧ r.body = Wire.toText v := by
  have settled := settled_of_fixed _ fixed
  rw [postRequest_origin origin settled] at sent
  split at sent <;> cases sent
  have arrives := path_askedUrl_target (a := a) settled [] "POST" (some "application/json")
    (Wire.toText v)
  exact ⟨Http.serve_posted rfl (arrives ▸ ofPath_of_fixed _ fixed) known, rfl⟩

end Served

end Client

end PortPool
