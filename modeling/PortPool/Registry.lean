/-
# PortPool.Registry -- instances join and are listed

A machine joins once, under an id that it chooses.  Its id and its name are
trimmed and must not be empty then.  Instances are listed in the order of the
stored texts of the instants at which they joined, equal ones by id; the texts of
the service itself have the order of time.
-/
import PortPool.Store.Write
import PortPool.Text.Split

namespace PortPool

set_option autoImplicit false

/-- What an instance joins with. -/
structure NewInstance where
  id : String
  name : String
  description : Json.Members
deriving Repr, BEq

/-- A text that must not be blank, trimmed. -/
def required (flaw : RequestFlaw) (text : Option String) : Except Fault String :=
  let trimmed := (text.map Text.trimmed).getD ""
  if trimmed.isEmpty then .error (.invalidRequest flaw) else .ok trimmed

/-- What a request to join asks for. -/
def NewInstance.ofRequest (r : JoinRequest) : Except Fault NewInstance := do
  let id ← required .instanceIdMissing r.instanceId
  let name ← required .nameMissing r.name
  pure ⟨id, name, r.description⟩

namespace Store

/-- Register an instance. -/
def join (s : Store) (new : NewInstance) (now : Time.Instant) :
    Except Fault (Instance × Store) := do
  if (← s.findInstance new.id).isSome then .error (.alreadyRegistered new.id)
  else
    let description := (Json.Value.object new.description).toText
    match s.addInstance (some new.id) (some new.name) (some description)
        (some (Time.Rfc3339.stored now)) with
    | .ok s => pure (⟨new.id, new.name, new.description, now⟩, s)
    | .error _ => .error (.alreadyRegistered new.id)

/-- A missing id comes before every id. -/
def idNotAfter : Option String → Option String → Bool
  | none, _ => true
  | some _, none => false
  | some a, some b => !decide (b < a)

/-- The order in which instances are listed. -/
def listedBefore (a b : InstanceRow) : Bool :=
  if a.joinedAt = b.joinedAt then idNotAfter a.id b.id else decide (a.joinedAt < b.joinedAt)

/-- The instances whose name contains a text, in order. -/
def listInstances (s : Store) (name : Option String) : Except Fault (List Instance) :=
  let named (r : InstanceRow) : Bool :=
    name.all fun text => Text.occursIn text.toList r.name.toList
  ((s.instances.filter named).mergeSort listedBefore).mapM (·.read)

end Store

end PortPool
