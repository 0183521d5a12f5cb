/-
# PortPool.Proofs.Client.Fingerprint -- a fingerprint is an id like any other, and more

The client acts as its machine under the machine's fingerprint.  A fingerprint consists of
digits and a few small letters, so nothing that happens to an id on its way happens to it:
whoever joins with it is registered under it as it is, and whoever is to show it asks for
it as it is (`carried_of_hexadecimal`).

So two machines are two instances if and only if their machine ids, their host names or
their architectures differ, unless the hash has a collision there (`fingerprint_law`).
-/
import PortPool.Proofs.Client.Show
import PortPool.Proofs.Host.Identity
import PortPool.Proofs.Url.Ending

namespace PortPool

set_option autoImplicit false

open Client (Origin)
open Command.Client (Invocation)
open Host (Collide Hexadecimal Identified Machine ZeroFree fingerprintOf identityOctets)
open Text (Utf8.encode isBlank trimmed)
open Url (Authority Word longestAsked)

/-! ## Letters -/

namespace Host.Hexadecimal

variable {fp : String} (hexadecimal : Hexadecimal fp)

include hexadecimal

theorem word : Word fp.toList where
  some_ := by
    intro none
    have long := hexadecimal.length
    rw [← String.length_toList, none] at long
    cases long
  ordinary c member := by
    have each : hexadecimalDigits.all Url.isOrdinary = true := by decide
    exact List.all_eq_true.mp each c (hexadecimal.digits c member)

/-- Nothing is trimmed off. -/
theorem trimmed_eq : trimmed fp = fp := by
  have each : hexadecimalDigits.any isBlank = false := by decide
  have whole : Text.trim fp.toList = fp.toList := Text.trim_of_forall fun c member => by
    simpa using List.any_eq_false.mp each c (hexadecimal.digits c member)
  rw [trimmed, whole, String.ofList_toList]

/-- It is the last segment wherever it ends a path. -/
theorem tail : Url.Tail fp.toList ("api/instances/".toList ++ fp.toList) where
  word := hexadecimal.word
  first c isFirst := by
    obtain rfl : 'a' = c := Option.some.inj isFirst
    decide
  plain c member := by
    rcases List.mem_append.mp member with front | digit
    · have each : ("api/instances/".toList).all
          (fun c => Url.isOrdinary c || decide (c = '/')) = true := by decide
      simpa using List.all_eq_true.mp each c front
    · exact .inl (hexadecimal.word.ordinary c digit)
  last := List.suffix_append "api/instances".toList ('/' :: fp.toList)

/-- It stands for itself in a path. -/
theorem spliceable : Spliceable fp where
  named := by
    rintro rfl
    exact hexadecimal.word.some_ rfl
  tidy := by
    have word := hexadecimal.word
    have kept : fp.toList.any Url.isDropped = false := List.any_eq_false.mpr fun c member => by
      simp [(Url.visible_of_isOrdinary (word.ordinary c member)).2]
    have ends : ∃ c ∈ fp.toList.reverse.head?, Url.isOuter c = false := by
      rw [List.head?_reverse, List.getLast?_eq_some_getLast word.some_]
      have last := word.ordinary _ (List.getLast_mem word.some_)
      exact ⟨_, rfl, (Url.visible_of_isOrdinary last).1⟩
    simpa [Url.tidied] using Url.tidied_append fp.toList kept ends []
  plain := hexadecimal.word.lacks (by simp [Url.signs])
  level := hexadecimal.word.notLevel
  meant := by
    have noEscape : 0x25 ∉ Utf8.encode fp.toList := by
      intro member
      have percent := Text.Utf8.ofNat_mem_encode (c := '%') (by decide) member
      exact hexadecimal.word.apart percent (by decide) rfl
    rw [Authority.meaning?, Text.Percent.decode_of_notMem noEscape, Text.Utf8.strict?_encode]

end Host.Hexadecimal

/-! ## On its way -/

namespace Client

/-- The URL of the instance of an id, where the id is written as it is. -/
def instanceUrl (a : Authority) (id : String) : Url :=
  ⟨"http".toList, some a.withoutCredentials, ("/api/instances/" ++ id).toList, none, none⟩

theorem spliced_of_hexadecimal {fp : String} (hexadecimal : Hexadecimal fp) (a : Authority) :
    spliced a fp = instanceUrl a fp := by
  have spliceable := hexadecimal.spliceable
  have ends : Text.Lacks fp.toList ['?', '#'] := hexadecimal.word.lacks (by simp [Url.signs])
  have written : Url.escaped Url.inPath fp.toList = fp.toList :=
    Url.escaped_of_forall Url.lasting_inPath fun c member =>
      .inl (hexadecimal.word.ordinary c member)
  have path : Url.pathOf (stem ++ pathEnd fp) = ("/api/instances/" ++ fp).toList := by
    rw [pathOf_spliceable spliceable, written, String.toList_append]
    rfl
  simp only [spliced, instanceUrl, path, spliceable.tidy, Url.splitTail_of_lacks ends,
    Option.map_none]

/-- Wherever the server makes a URL of it, the URL ends in the fingerprint. -/
theorem suffix_urlOf {fp server : String} {u : Url} (hexadecimal : Hexadecimal fp)
    (made : urlOf server ("/api/instances/" ++ fp) = .ok u) :
    '/' :: fp.toList <:+ u.text.toList := by
  have begins : "/api/instances/".toList = '/' :: "api/instances/".toList := by decide
  have path : "api/instances/".toList ++ fp.toList <:+ ("/api/instances/" ++ fp).toList := by
    rw [String.toList_append, begins]
    exact List.suffix_cons '/' _
  have typed : ("/api/instances/" ++ fp).toList <:+
      (String.ofList (baseOf server ++ ("/api/instances/" ++ fp).toList)).toList :=
    ⟨baseOf server, String.toList_ofList.symm⟩
  simp only [urlOf] at made
  split at made
  · cases made
  · rename_i parsed
    split at made
    · cases made
      have ends := hexadecimal.tail.suffix_lastPart (path.trans typed) parsed
      rw [← Url.lastPart_withoutCredentials] at ends
      exact ends.trans (Url.suffix_text _)
    · cases made

end Client

/-- Nothing happens to the id on its way, neither when its instance joins nor when it is
shown. -/
structure Carried (id : String) : Prop where
  trimmed : Text.trimmed id = id
  /-- It can be given wherever a text must not be blank. -/
  required : ∀ flaw : RequestFlaw, required flaw (some id) = .ok id
  /-- Whoever joins with it joins under it, and is refused for a name only. -/
  joins : ∀ (name : Option String) (description : Json.Members),
    NewInstance.ofRequest ⟨some id, name, description⟩ =
      (PortPool.required .nameMissing name).map fun name => ⟨id, name, description⟩
  /-- Whatever server is given, the URL for showing the instance ends in the id, if there
  is such a URL. -/
  ends : ∀ {server : String} {u : Url}, Client.urlOf server ("/api/instances/" ++ id) = .ok u →
    '/' :: id.toList <:+ u.text.toList
  /-- On a server that is given as an origin, this URL is the path with the id in it. -/
  asked : ∀ {server : String} {a : Authority}, Origin server a →
    Client.urlOf server ("/api/instances/" ++ id) = .ok (Client.instanceUrl a id)
  /-- It is asked there, unless it is too long. -/
  shown : ∀ {machine : Machine} {inv : Invocation} {a : Authority} {given : Option String},
    Origin inv.server a → inv.action = .showInstance given → given.getD (inv.self machine) = id →
    Client.plan machine inv =
      if (Client.instanceUrl a id).text.length ≤ longestAsked then
        .ok (.exchange (Client.showing (Text.Utf8.ofString ("/api/instances/" ++ id))))
      else .error (.notAskable (Client.instanceUrl a id).text)
  /-- The service finds the id in what is asked. -/
  named : (Client.showing (Text.Utf8.ofString ("/api/instances/" ++ id))).request.Names id

/-- **Nothing happens to a fingerprint on its way.** -/
theorem carried_of_hexadecimal {fp : String} (hexadecimal : Hexadecimal fp) : Carried fp := by
  have given (flaw : RequestFlaw) : required flaw (some fp) = .ok fp := by
    refine required_eq_ok.mpr ⟨fp, rfl, hexadecimal.trimmed_eq.symm, ?_⟩
    exact hexadecimal.spliceable.named
  have target (a : Authority) :
      (Client.instanceUrl a fp).target = Text.Utf8.ofString ("/api/instances/" ++ fp) := by
    rw [Url.target, Client.instanceUrl, Authority.marked, List.append_nil, Text.Utf8.ofString]
  refine ⟨hexadecimal.trimmed_eq, given, ?_, ?_, ?_, ?_, ?_⟩
  · intro name description
    rw [NewInstance.ofRequest, given, bind_ok]
    cases required .nameMissing name <;> rfl
  · intro server u made
    exact Client.suffix_urlOf hexadecimal made
  · intro server a origin
    rw [Client.urlOf_spliced origin, Client.spliced_of_hexadecimal hexadecimal]
  · intro machine inv a id origin told meant
    rw [Client.plan_showInstance origin told meant, Client.spliced_of_hexadecimal hexadecimal,
      target]
  · have names := Client.names_of_spliceable hexadecimal.spliceable .nowhere
    rwa [Client.spliced_of_hexadecimal hexadecimal, target] at names

/-! ## Two machines -/

namespace Host.Machine

/-- What is hashed for the machine. -/
def hashed (m : Machine) (arch : String) : List UInt8 :=
  identityOctets (m.machineId?.getD "") m.name arch

/-- There is no zero octet in the machine id and none in the host name. -/
def Plain (m : Machine) : Prop := ZeroFree (m.machineId?.getD "") ∧ ZeroFree m.name

instance (m : Machine) : Decidable m.Plain :=
  inferInstanceAs (Decidable (ZeroFree (m.machineId?.getD "") ∧ ZeroFree m.name))

/-- All three parts are the same; a machine without an id counts as one with an empty id. -/
def SameParts (m n : Machine) (arch arch' : String) : Prop :=
  m.machineId?.getD "" = n.machineId?.getD "" ∧ m.name = n.name ∧ arch = arch'

end Host.Machine

/-- How the fingerprints of two machines compare, and what is true of every one. -/
structure Host.FingerprintLaw (m n : Machine) (arch arch' : String) : Prop where
  /-- The machine id is what the first file says that says anything. -/
  identified : ∀ {k : Machine} {id : Option String}, k.machineId? = id ↔ Identified k.idFiles id
  /-- No id is empty, so one is never taken for none. -/
  told : m.machineId?.getD "" = n.machineId?.getD "" ↔ m.machineId? = n.machineId?
  octets : m.hashed arch = n.hashed arch' ↔ m.SameParts n arch arch'
  fingerprints : ¬Collide (m.hashed arch) (n.hashed arch') →
    (fingerprintOf m.machineId? m.name arch = fingerprintOf n.machineId? n.name arch' ↔
      m.SameParts n arch arch')
  /-- Every fingerprint consists of 64 small hexadecimal digits. -/
  hexadecimal : ∀ (id : Option String) (host arch : String),
    Hexadecimal (fingerprintOf id host arch)
  carried : ∀ (id : Option String) (host arch : String), Carried (fingerprintOf id host arch)

/-- **Different machines have different fingerprints, which are good ids.**  Where neither
machine has a zero octet in its id or in its host name, what is hashed for them is the same
exactly if their ids, their host names and their architectures are; and so are their
fingerprints, unless they are a collision of the hash. -/
theorem Host.fingerprint_law {m n : Machine} (plain : m.Plain) (plain' : n.Plain)
    (arch arch' : String) : Host.FingerprintLaw m n arch arch' where
  identified := Machine.machineId?_iff
  told := Machine.getD_machineId?_inj
  octets := identityOctets_inj plain plain'
  fingerprints := fingerprintOf_inj plain plain'
  hexadecimal := hexadecimal_fingerprintOf
  carried id host arch := carried_of_hexadecimal (hexadecimal_fingerprintOf id host arch)

/-- A machine whose id stands in its first file. -/
def idMachine : Machine := ⟨[some (Text.Utf8.ofString "0123\n"), none], some [0x68], 1⟩

/-- A machine with the same host name whose files are blank and missing. -/
def blankMachine : Machine := ⟨[some (Text.Utf8.ofString " \n"), none], some [0x68], 1⟩

/-- The fingerprints of the two differ, since what is hashed is no collision, and the URL for
showing the first has its fingerprint in its path. -/
theorem Host.fingerprint_law_blank : idMachine.Plain ∧ blankMachine.Plain ∧
    idMachine.fingerprint ≠ blankMachine.fingerprint ∧
      Client.urlOf "http://[::1]:3030" ("/api/instances/" ++ idMachine.fingerprint) =
        .ok (Client.instanceUrl hereAuthority idMachine.fingerprint) := by
  have plain : idMachine.Plain := by decide
  have plain' : blankMachine.Plain := by decide
  have law := fingerprint_law plain plain' architecture architecture
  have apart : ¬Collide (idMachine.hashed architecture) (blankMachine.hashed architecture) := by
    decide +kernel
  refine ⟨plain, plain', ?_, ?_⟩
  · intro same
    have parts := (law.fingerprints apart).mp same
    exact absurd parts.1 (by decide)
  · exact (law.carried idMachine.machineId? idMachine.name architecture).asked origin_here

end PortPool
