/-
# PortPool.Proofs.Client.Show -- ids that can be shown

A client that is to show an instance splices its id into the path of a URL as it stands.
What parts a URL, levels, blanks at the end and escapes within it then mean something else,
and the request asks for another instance, or for something that is none.
`Spliceable` says of which ids this is not so, and the client asks for exactly those, as far
as a URL may be long (`Client.names_plan_iff`).  An instance whose id is one of them is
shown as it is; for any other id, no instance that has it is sent (`shown_iff_spliceable`).
Whoever is to show an id with a question mark may so be shown the instance of another id
(`question_mark_shows_another`).
-/
import PortPool.Proofs.Client.Exchange
import PortPool.Proofs.Url.Path

namespace PortPool

set_option autoImplicit false

open Client (Origin plainRequest)
open Command.Client (Invocation)
open Http (Request Response Route)
open Wire (Record)
open Text (Lacks Utf8.encode)
open Url (Authority escaped inPath isAbove isHere keeps_inPath longestAsked pathOf splitTail tidied
  withSlashes)

/-! ## Ids in paths -/

/-- The id is a segment of its own wherever it ends a path, and stands for itself there. -/
structure Spliceable (id : String) : Prop where
  named : id ≠ ""
  /-- It has no tab and no line end, and does not end in a blank or a control. -/
  tidy : tidied id.toList = id.toList
  plain : Lacks id.toList ['/', '\\', '?', '#']
  level : isAbove id.toList = false ∧ isHere id.toList = false
  /-- No escape in it is read as another character. -/
  meant : Authority.meaning? id.toList = some id.toList

instance (id : String) : Decidable (Spliceable id) :=
  decidable_of_iff (id ≠ "" ∧ tidied id.toList = id.toList ∧
      Lacks id.toList ['/', '\\', '?', '#'] ∧
      (isAbove id.toList = false ∧ isHere id.toList = false) ∧
      Authority.meaning? id.toList = some id.toList)
    ⟨fun h => ⟨h.1, h.2.1, h.2.2.1, h.2.2.2.1, h.2.2.2.2⟩,
      fun h => ⟨h.named, h.tidy, h.plain, h.level, h.meant⟩⟩

namespace Client

/-- What stands before the id of an instance in the path of a URL. -/
def stem : List Char := "/api/instances/".toList

/-- What is left of an id as the end of a path. -/
def pathEnd (id : String) : List Char := withSlashes (splitTail (tidied id.toList)).1

/-- The URL that an id is spliced into. -/
def spliced (a : Authority) (id : String) : Url :=
  let parts := (splitTail (tidied id.toList)).2
  ⟨"http".toList, some a.withoutCredentials, pathOf (stem ++ pathEnd id),
    parts.1.map (escaped (Url.inQuery true)), parts.2.map (escaped Url.inFragment)⟩

theorem urlOf_spliced {server : String} {a : Authority} (origin : Origin server a)
    (id : String) : urlOf server ("/api/instances/" ++ id) = .ok (spliced a id) := by
  have written : ("/api/instances/" ++ id).toList = '/' :: ("api/instances/".toList ++ id.toList) :=
    String.toList_append ..
  have plain : Lacks stem ['?', '#'] := by decide
  have tidy : tidied ("/api/instances/" ++ id).toList = stem ++ tidied id.toList := by
    rw [String.toList_append]
    exact Url.tidied_append stem (by decide) ⟨'/', rfl, by decide⟩ id.toList
  have slashes (s : List Char) : withSlashes (stem ++ s) = stem ++ withSlashes s :=
    List.map_append
  have parsed := Url.parse?_origin origin.read ("api/instances/".toList ++ id.toList)
  rw [← written, tidy, Url.splitTail_append stem plain] at parsed
  simp only [slashes] at parsed
  exact urlOf_origin origin rfl parsed

theorem plainRequest_spliced {server : String} {a : Authority} (origin : Origin server a)
    (id : String) : plainRequest server ("/api/instances/" ++ id) =
      if (spliced a id).text.length ≤ longestAsked then
        .ok ⟨"GET", (spliced a id).target, none, []⟩
      else .error (.notAskable (spliced a id).text) := by
  have asked : (spliced a id).host?.any Url.Host.canBeAsked = true := by
    show a.withoutCredentials.host.any Url.Host.canBeAsked = true
    rw [host_withoutCredentials]
    exact origin.asked
  rw [plainRequest, urlOf_spliced origin id, bind_ok, targetOf_eq rfl asked]
  split <;> rfl

theorem path_spliced (a : Authority) (id : String) :
    Request.path ⟨"GET", (spliced a id).target, none, []⟩ =
      Utf8.encode (pathOf (stem ++ pathEnd id)) :=
  Http.path_target (Url.lacks_pathOf _) "GET" none [] _

end Client

/-! ## What is asked for -/

namespace Http

/-- Only a path that goes on from the stem by one segment is that of an instance. -/
theorem exists_of_ofPath {path segment : List UInt8}
    (route : Route.ofPath path = some (.oneInstance segment)) :
    path = Route.instanceStem ++ segment ∧ segment ≠ [] ∧ 0x2F ∉ segment := by
  have fixed : ∀ r ∈ Route.fixed, r.2 ≠ .oneInstance segment := by
    simp [Route.fixed]
  rw [Route.ofPath] at route
  split at route
  · rename_i found
    obtain rfl := Option.some.inj route
    exact absurd rfl (fixed _ (List.mem_of_find?_eq_some found))
  · dsimp only at route
    split at route
    · rename_i whole
      obtain rfl : path.drop Route.instanceStem.length = segment := by
        simpa using route
      simp only [Bool.and_eq_true, List.isPrefixOf_iff_prefix, Bool.not_eq_true',
        List.isEmpty_eq_false_iff, List.contains_eq_mem, decide_eq_false_iff_not] at whole
      obtain ⟨⟨⟨rest, split⟩, some_⟩, single⟩ := whole
      refine ⟨?_, some_, single⟩
      rw [← split, List.drop_left]
    · cases route

end Http

/-- The request asks for the instance of an id. -/
def Http.Request.Names (r : Request) (id : String) : Prop :=
  r.method = "GET" ∧ ∃ segment, Route.ofPath r.path = some (.oneInstance segment) ∧
    Text.Utf8.strict? (Text.Percent.decode segment) = some id.toList

namespace Client

/-- A segment that is read by escapes is read as it was before it was escaped. -/
theorem meaning?_escaped (segment : List Char) :
    Text.Utf8.strict? (Text.Percent.decode (Utf8.encode (escaped inPath segment))) =
      Authority.meaning? segment := by
  rw [escaped, Text.Percent.decode_encode_of_keeps keeps_inPath, Authority.meaning?]

/-- No text stands for one with more characters. -/
theorem length_le_of_meaning? {segment s : List Char} (meant : Authority.meaning? segment = some s) :
    s.length ≤ segment.length := by
  calc s.length
      ≤ (Text.Percent.decode (Utf8.encode segment)).countP Text.Utf8.isLeading :=
        Text.Utf8.length_le_of_strict? meant
    _ ≤ (Utf8.encode segment).countP Text.Utf8.isLeading :=
        Text.Percent.countP_isLeading_decode _
    _ ≤ segment.length := Text.Utf8.countP_isLeading_encode segment

theorem pieces_stem (s : List Char) : Text.pieces '/' (Url.dropSlash (stem ++ s)) =
    "api".toList :: "instances".toList :: Text.pieces '/' s := by
  show Text.pieces '/' ("api".toList ++ '/' :: ("instances".toList ++ '/' :: s)) = _
  rw [Text.pieces_append (by simp), Text.pieces_append (by simp)]

/-- The path ends in a piece of what is left of the id. -/
theorem exists_path_spliced (id : String) : ∃ front last, last <:+ pathEnd id ∧ '/' ∉ last ∧
    pathOf (stem ++ pathEnd id) = front ++ '/' :: Url.lastSegment last := by
  obtain ⟨others, last, split, ends, absent, -⟩ := Text.exists_last_piece '/' (pathEnd id)
  have pieces : Text.pieces '/' (Url.dropSlash (stem ++ pathEnd id)) =
      ("api".toList :: "instances".toList :: others) ++ [last] := by
    rw [pieces_stem, split]
    rfl
  obtain ⟨front, written⟩ := Url.exists_pathOf pieces
  exact ⟨front, last, ends, absent, written⟩

section Spliceable

variable {id : String} (spliceable : Spliceable id)

include spliceable

/-- An id that is a segment by itself is written as one. -/
theorem pathOf_spliceable : pathOf (stem ++ pathEnd id) = stem ++ escaped inPath id.toList := by
  have ends : Lacks id.toList ['?', '#'] := spliceable.plain.mono fun c among =>
    List.mem_cons_of_mem _ (List.mem_cons_of_mem _ among)
  have left : pathEnd id = id.toList := by
    rw [pathEnd, spliceable.tidy, Url.splitTail_of_lacks ends,
      Url.withSlashes_of_forall fun c member => spliceable.plain.ne member (by decide)]
  have ordinary : ∀ segment ∈ ["api".toList, "instances".toList, id.toList],
      isAbove segment = false ∧ isHere segment = false := by
    refine List.forall_mem_cons.mpr ⟨by decide, List.forall_mem_cons.mpr ⟨by decide, ?_⟩⟩
    exact List.forall_mem_cons.mpr ⟨spliceable.level, nofun⟩
  have front : ["api".toList, "instances".toList].map (escaped inPath) =
      ["api".toList, "instances".toList] := by decide +kernel
  rw [left, pathOf, Url.segmentsOf, pieces_stem,
    Text.pieces_of_forall fun c member => spliceable.plain.ne member (by decide), Url.resolve_of_forall [] ordinary,
    show ["api".toList, "instances".toList, id.toList] =
      ["api".toList, "instances".toList] ++ [id.toList] from rfl, List.map_append, front]
  simp only [List.reverse_nil, List.nil_append, List.map_cons, List.map_nil, List.cons_append,
    List.intercalate_cons_cons, List.intercalate_singleton]
  have written : stem = '/' :: ("api".toList ++ ['/'] ++ ("instances".toList ++ ['/'])) := by decide
  rw [written]
  simp only [List.cons_append, List.append_assoc]

/-- The service finds the id. -/
theorem names_of_spliceable (a : Authority) :
    Request.Names ⟨"GET", (spliced a id).target, none, []⟩ id := by
  have segment : Utf8.encode (escaped inPath id.toList) ≠ [] := by
    intro none
    have meant := (meaning?_escaped id.toList).trans spliceable.meant
    rw [none] at meant
    exact spliceable.named (String.toList_eq_nil_iff.mp (Option.some.inj meant).symm)
  have single : 0x2F ∉ Utf8.encode (escaped inPath id.toList) := by
    intro member
    have slash := Text.Utf8.ofNat_mem_encode (c := '/') (by decide) member
    exact spliceable.plain _ ((Url.apart_of_mem_escaped slash).2.2 rfl) (by decide)
  refine ⟨rfl, Utf8.encode (escaped inPath id.toList), ?_, ?_⟩
  · rw [path_spliced, pathOf_spliceable spliceable, Text.Utf8.encode_append]
    exact Http.ofPath_stem segment single
  · rw [meaning?_escaped, spliceable.meant]

end Spliceable

/-- An id of which nothing is lost is left as it is in every respect. -/
theorem plain_of_length_le {id : String} {last : List Char} (ends : last <:+ pathEnd id)
    (absent : '/' ∉ last) (long : id.toList.length ≤ last.length) :
    tidied id.toList = id.toList ∧ Lacks id.toList ['/', '\\', '?', '#'] ∧
      last = id.toList := by
  -- every step from the id to the segment makes it shorter or leaves it as it is
  have tidy := Url.tidied_sublist id.toList
  have front := Url.splitTail_isPrefix (tidied id.toList)
  have slashes : (pathEnd id).length = (splitTail (tidied id.toList)).1.length :=
    List.length_map _
  have atEnd := ends.length_le
  have first := front.length_le
  have second := tidy.length_le
  have whole : last = pathEnd id := ends.eq_of_length_le (by omega)
  have unparted := front.eq_of_length_le (by omega)
  have same := tidy.eq_of_length_le (by omega)
  rw [same] at unparted
  have left : pathEnd id = withSlashes id.toList := by rw [pathEnd, same, unparted]
  rw [whole, left] at absent
  have noSlash : ∀ c ∈ id.toList, c ≠ '/' ∧ c ≠ '\\' := by
    intro c member
    have written : (if c = '\\' then '/' else c) ∈ withSlashes id.toList :=
      List.mem_map_of_mem member
    constructor
    · rintro rfl
      exact absent written
    · rintro rfl
      exact absent written
  refine ⟨same, fun c member => ?_, ?_⟩
  · obtain ⟨notSlash, notBack⟩ := noSlash c member
    have ends := Url.lacks_of_splitTail_eq unparted c member
    simp only [List.mem_cons, not_or] at ends ⊢
    exact ⟨notSlash, notBack, ends⟩
  · rw [whole, left, Url.withSlashes_of_forall fun c member => (noSlash c member).2]

/-- **Whatever the request names was spliced in as it is.** -/
theorem spliceable_of_names {a : Authority} {id : String}
    (names : Request.Names ⟨"GET", (spliced a id).target, none, []⟩ id) : Spliceable id := by
  obtain ⟨-, segment, route, meant⟩ := names
  obtain ⟨front, last, ends, absent, written⟩ := exists_path_spliced id
  rw [path_spliced, written] at route
  obtain ⟨same, some_, single⟩ := Http.exists_of_ofPath route
  have slash : 0x2F ∉ Utf8.encode (Url.lastSegment last) := by
    intro member
    have inLast := Text.Utf8.ofNat_mem_encode (c := '/') (by decide) member
    rw [Url.lastSegment] at inLast
    split at inLast
    · cases inLast
    · exact absent ((Url.apart_of_mem_escaped inLast).2.2 rfl)
  rw [Text.Utf8.encode_append, Text.Utf8.encode_cons] at same
  have joined : Utf8.encode front ++ 0x2F :: Utf8.encode (Url.lastSegment last) =
      Text.Utf8.ofString "/api/instances" ++ 0x2F :: segment := same
  obtain rfl := Text.eq_of_append_mark slash single joined
  -- what names a level is written as nothing, and that is no id
  have ordinary : isAbove last = false ∧ isHere last = false := by
    by_contra level
    refine some_ ?_
    rw [Url.lastSegment, if_pos]
    · rfl
    · simpa [or_iff_not_imp_left] using level
  rw [Url.lastSegment, ordinary.1, ordinary.2, if_neg (by decide), meaning?_escaped] at meant
  obtain ⟨tidy, plain, rfl⟩ :=
    plain_of_length_le ends absent (length_le_of_meaning? meant)
  refine ⟨?_, tidy, plain, ordinary, meant⟩
  rintro rfl
  exact some_ (by decide)

end Client

/-! ## What is answered -/

namespace Http

variable {settings : Settings} {now : Time.Instant} {s : Store} {r : Request}

/-- An id that is asked for is looked up. -/
theorem serve_of_names {id : String} (names : r.Names id) {i : Instance}
    (found : s.getInstance id = .ok i) : serve settings now s r = (.record 200 i, s) := by
  obtain ⟨got, segment, route, meant⟩ := names
  rw [serve_got got route (by rfl)]
  simp only [get, getInstance, meant, String.ofList_toList, found]

/-- The id that an answer shows first, if it shows one. -/
def Response.shownId? : Response → Option String
  | ⟨_, .json (.object (("id", .text id) :: _)), _⟩ => some id
  | _ => none

theorem shownId?_record (status : Nat) (i : Instance) :
    (Response.record status i).shownId? = some i.id := rfl

theorem shownId?_listing {α : Type} [Record α] (result : Except Fault (List α)) :
    (listing result).shownId? = none := by
  cases result <;> rfl

/-- **Only an instance that is asked for is shown.** -/
theorem names_of_shownId? (got : r.method = "GET") {id : String}
    (shown : (serve settings now s r).1.shownId? = some id) : r.Names id := by
  cases path : Route.ofPath r.path with
  | none =>
    simp only [serve, path, got] at shown
    cases shown
  | some route =>
    cases route with
    | oneInstance segment =>
      rw [serve_got got path (by rfl)] at shown
      simp only [get, getInstance] at shown
      split at shown
      · cases shown
      · rename_i t meant
        split at shown
        · rename_i i found
          obtain ⟨-, -, -, named⟩ := Store.exists_row_of_getInstance found
          obtain rfl : i.id = id := Option.some.inj ((shownId?_record 200 i).symm.trans shown)
          refine ⟨got, segment, path, ?_⟩
          rw [meant, named, String.toList_ofList]
        · cases shown
    | reserve | release | observed =>
      simp only [serve, path, got] at shown
      cases shown
    | health =>
      rw [serve_got got path (by rfl)] at shown
      cases shown
    | instances | ports | bindings =>
      rw [serve_got got path (by rfl)] at shown
      simp only [get] at shown
      split at shown
      · cases shown
      · rw [shownId?_listing] at shown
        cases shown

end Http

/-! ## What is shown -/

namespace Client

/-- The output for an instance. -/
def shownText (i : Instance) : String := line (String.ofList (Wire.encode i).pretty)

/-- The exchange of a client that is to show an instance. -/
def showing (target : List UInt8) : Exchange :=
  ⟨⟨"GET", target, none, []⟩, fun r => (decodeAnswer (Wire.ofText Instance) r).map shownText⟩

section Shown

variable {machine : Host.Machine} {inv : Invocation} {a : Authority}
  (origin : Origin inv.server a) {given : Option String} (told : inv.action = .showInstance given)
  {id : String} (meant : given.getD (inv.self machine) = id)

include origin told meant

/-- The plan of a client that is to show an instance. -/
theorem plan_showInstance : plan machine inv =
    if (spliced a id).text.length ≤ longestAsked then
      .ok (.exchange (showing (spliced a id).target))
    else .error (.notAskable (spliced a id).text) := by
  have planned : plan machine inv = (do
      let request ← plainRequest inv.server ("/api/instances/" ++ id)
      pure <| forRecord Instance request shownText) := by
    rw [plan, told, ← meant]
    rfl
  rw [planned, plainRequest_spliced origin]
  split <;> rfl

/-- It asks for the instance that it is to show exactly if the id stands for itself. -/
theorem names_plan_iff : (∃ e, plan machine inv = .ok (.exchange e) ∧ e.request.Names id) ↔
    Spliceable id ∧ (spliced a id).text.length ≤ longestAsked := by
  have planned := plan_showInstance origin told meant
  constructor
  · rintro ⟨e, asks, names⟩
    split at planned
    · rename_i short
      obtain ⟨⟩ := asks.symm.trans planned
      exact ⟨spliceable_of_names names, short⟩
    · cases asks.symm.trans planned
  · rintro ⟨spliceable, short⟩
    rw [if_pos short] at planned
    exact ⟨_, planned, names_of_spliceable spliceable a⟩

end Shown

end Client

/-- An instance that is asked for is shown. -/
theorem Console.exchange_showing (settings : Settings) (seeded : Bool) (events : List Event)
    (now : Time.Instant) {row : InstanceRow} {i : Instance} {target : List UInt8} :
    let c := Console.reached settings seeded events
    row ∈ c.store.instances → row.read = .ok i →
    (Client.showing target).request.Names i.id →
    ∃ description, c.exchange now (Client.showing target) =
        (.output (Client.shownText { i with description }), c) ∧
      ((Json.Value.object i.description).Each Json.Number.Integral →
        description = i.description) := by
  intro c member read names
  have found := Store.getInstance_of_read (Console.sound settings seeded events) member read
  have served : Http.serve c.settings now c.store (Client.showing target).request =
      (.record 200 i, c.store) := Http.serve_of_names names found
  obtain ⟨decoded, -, instant⟩ := Console.decoded_of_read member read
  obtain ⟨description, answered⟩ := Client.decodeAnswer_instance decoded instant
  have replied : c.exchange now (Client.showing target) =
      (.output (Client.shownText { i with description }), c) := by
    rw [Console.exchange, served]
    simp only [Client.showing, answered, map_ok]
  refine ⟨description, replied, fun integral => ?_⟩
  obtain ⟨tellable, shallow⟩ := Console.told_of_read member read integral
  have exactly : Client.decodeAnswer (Wire.ofText Instance) (.record 200 i) = .ok i :=
    Client.decodeAnswer_record (by decide) (tellable.returns shallow)
  have same := Except.ok.inj (answered.symm.trans exactly)
  exact congrArg Instance.description same

/-- **Which instances can be shown.**  A client that is to show the instance of an id asks
for it exactly if the id stands for itself at the end of a path, and the URL is not too
long.  Then an instance of this id that is registered is shown: with its id, its name, its
instant and what it told of itself, save that fractions are shown as they are read again.
For any other id, what is sent is never an instance that has it. -/
theorem shown_iff_spliceable (settings : Settings) (seeded : Bool) (events : List Event)
    (machine : Host.Machine) (now : Time.Instant) {env : Command.Environment}
    {words : List String} {inv : Invocation} {a : Authority} {given : Option String} {id : String}
    (parsed : Command.Client.parse env words = .ok inv) (origin : Origin inv.server a)
    (told : inv.action = .showInstance given) (meant : given.getD (inv.self machine) = id) :
    let c := Console.reached settings seeded events
    ((∃ e, Client.plan machine inv = .ok (.exchange e) ∧ e.request.Names id) ↔
      Spliceable id ∧ (Client.spliced a id).text.length ≤ longestAsked) ∧
    (Spliceable id → (Client.spliced a id).text.length ≤ longestAsked →
      ∀ row ∈ c.store.instances, ∀ i, row.read = .ok i → i.id = id →
        ∃ description, c.reply machine env now words =
            (.output (Client.shownText { i with description }), c) ∧
          ((Json.Value.object i.description).Each Json.Number.Integral →
            description = i.description)) ∧
    (¬Spliceable id → ∀ e, Client.plan machine inv = .ok (.exchange e) →
      ∀ (status : Nat) (i : Instance),
        (Http.serve c.settings now c.store e.request).1 = .record status i →
        i.id ≠ id) := by
  intro c
  have planned := Client.plan_showInstance origin told meant
  have asks := Client.names_plan_iff origin told meant
  refine ⟨asks, ?_, ?_⟩
  · rintro spliceable short row member i read rfl
    rw [if_pos short] at planned
    rw [Console.reply_of_parse parsed, Console.carryOut, planned]
    exact Console.exchange_showing settings seeded events now member read
      (Client.names_of_spliceable spliceable a)
  · rintro notSpliceable e planned' status i sent rfl
    split at planned
    · obtain ⟨⟩ := planned'.symm.trans planned
      have shown := (congrArg Http.Response.shownId? sent).trans (Http.shownId?_record status i)
      exact notSpliceable (Client.spliceable_of_names (Http.names_of_shownId? rfl shown))
    · cases planned'.symm.trans planned

/-! ## Two ids -/

/-- An instance that tells nothing of itself. -/
def quietInstance (id : String) : Instance := ⟨id, "host", [], Time.Instant.ofUnix 0 0⟩

/-- It joins. -/
def quietJoin (id : String) : Event :=
  .post "/api/instances" (JoinRequest.mk (some id) (some "host") [])

theorem read_quietInstance (id : String) : (quietInstance id).row.read = .ok (quietInstance id) :=
  read_row_at_start (Instance.faithful_of_decoded ⟨trivial, Nat.le_of_ble_eq_true rfl⟩
    ⟨.nil, trivial⟩ trivial) rfl

/-- Words that show the instance to act as. -/
def showWords : List String := ["--server", "http://[::1]:3030", "instance", "show"]

/-- What they ask for. -/
def showHere (id : String) : Invocation := ⟨"http://[::1]:3030", some id, .showInstance none⟩

theorem parse_showWords (id : String) :
    Command.Client.parse (actingAs id) showWords = .ok (showHere id) := by
  rfl

/-- A blank in an id is escaped, and the instance is shown. -/
theorem shown_with_blank :
    let c := Console.reached ⟨threePorts, .optional⟩ false [quietJoin "a b"]
    Spliceable "a b" ∧ Origin "http://[::1]:3030" hereAuthority ∧
      (quietInstance "a b").row ∈ c.store.instances ∧
      (c.reply plainMachine (actingAs "a b") (Time.Instant.ofUnix 0 0) showWords).1 =
        .output (Client.shownText (quietInstance "a b")) := by
  intro c
  have spliceable : Spliceable "a b" := by decide +kernel
  have shown := shown_iff_spliceable ⟨threePorts, .optional⟩ false [quietJoin "a b"] plainMachine
    (Time.Instant.ofUnix 0 0) (parse_showWords "a b") origin_here rfl rfl
  have member : (quietInstance "a b").row ∈ c.store.instances := by decide +kernel
  obtain ⟨description, replied, same⟩ := shown.2.1 spliceable (by decide +kernel)
    _ member _ (read_quietInstance "a b") rfl
  refine ⟨spliceable, origin_here, member, ?_⟩
  rw [replied, same trivial]

/-- Refuting pole: of an id with a question mark, what stands before it is asked for, and
the instance of that id is shown. -/
theorem question_mark_shows_another :
    ¬∀ (settings : Settings) (seeded : Bool) (events : List Event) (machine : Host.Machine)
        (env : Command.Environment) (now : Time.Instant) (words : List String)
        (inv : Invocation) (a : Authority) (given : Option String),
      Command.Client.parse env words = .ok inv → Origin inv.server a →
      inv.action = .showInstance given →
      let c := Console.reached settings seeded events
      ∀ row ∈ c.store.instances, ∀ i, row.read = .ok i → i.id = given.getD (inv.self machine) →
        (Json.Value.object i.description).Each Json.Number.Integral →
        (c.reply machine env now words).1 = .output (Client.shownText i) := by
  intro always
  have claimed := always ⟨threePorts, .optional⟩ false [quietJoin "a", quietJoin "a?b"]
    plainMachine (actingAs "a?b") (Time.Instant.ofUnix 0 0) showWords _ _ none
    (parse_showWords "a?b") origin_here rfl (quietInstance "a?b").row (by decide +kernel)
    _ (read_quietInstance "a?b") rfl trivial
  have self : (none : Option String).getD ((showHere "a?b").self plainMachine) = "a?b" := rfl
  have planned := Client.plan_showInstance origin_here rfl self
  rw [if_pos (by decide +kernel)] at planned
  have another : (Client.showing (Client.spliced hereAuthority "a?b").target).request.Names "a" :=
    ⟨rfl, Text.Utf8.ofString "a", by decide +kernel, by decide +kernel⟩
  obtain ⟨description, shown, same⟩ := Console.exchange_showing ⟨threePorts, .optional⟩ false
    [quietJoin "a", quietJoin "a?b"] (Time.Instant.ofUnix 0 0) (by decide +kernel)
    (read_quietInstance "a") another
  rw [Console.reply_of_parse (parse_showWords "a?b"), Console.carryOut, planned] at claimed
  dsimp only at claimed
  rw [shown, same trivial] at claimed
  have differ : Client.shownText (quietInstance "a") ≠ Client.shownText (quietInstance "a?b") := by
    decide +kernel
  exact differ (Reply.output.inj claimed)

end PortPool
