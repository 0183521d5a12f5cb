/-
# PortPool.Operation -- everything that can be asked of the store

An operation is one request to the service, whoever brings it.  `perform` carries
it out: it gives an answer and the next store, or a fault, and then there is no
next store: what is refused changes nothing.  A run is a sequence of operations,
each under the settings in force and at an instant, with direct writes in between.
-/
import PortPool.Reservation
import PortPool.Release
import PortPool.Observation
import PortPool.Listing

namespace PortPool

set_option autoImplicit false

/-- A request to the service. -/
inductive Operation where
  | join (new : NewInstance)
  | getInstance (id : String)
  | findInstance (id : String)
  | listInstances (name : Option String)
  | reserve (owner : String) (size : Option Int)
  | reserveSpan (owner : String) (size : Nat)
  | reserveOne (owner : String)
  | release (request : ReleaseRequest)
  | releasePort (number : PortNumber) (owner : Option String)
  | releaseSpan (first last : PortNumber) (owner : Option String)
  | listPorts (filter : PortFilter)
  | listBindings (filter : BindingFilter)
  | observe (reported : List PortNumber)
  | seed
  | findPort (number : PortNumber)
  | findBinding (id : Int)
deriving Repr, BEq

/-- What the service answers. -/
inductive Answer where
  | joined (i : Instance)
  | perhapsInstance (i : Option Instance)
  | instances (is : List Instance)
  | binding (b : Binding)
  | perhapsBinding (b : Option Binding)
  | bindings (bs : List Binding)
  | perhapsPort (p : Option Port)
  | ports (ps : List Port)
  | count (n : Nat)
deriving Repr, BEq

namespace Operation

/-- The answer of a request that only reads. -/
def reading (s : Store) (answer : Except Fault Answer) : Except Fault (Answer × Store) :=
  answer.map (·, s)

/-- The answer of a request that changes the store. -/
def changing {α : Type} (wrap : α → Answer) (result : Except Fault (α × Store)) :
    Except Fault (Answer × Store) :=
  result.map fun (v, s) => (wrap v, s)

/-- Carry out a request. -/
def perform (settings : Settings) (now : Time.Instant) (s : Store) :
    Operation → Except Fault (Answer × Store)
  | .join new => changing .joined (s.join new now)
  | .getInstance id => reading s ((s.getInstance id).map .joined)
  | .findInstance id => reading s ((s.findInstance id).map .perhapsInstance)
  | .listInstances name => reading s ((s.listInstances name).map .instances)
  | .reserve owner size => changing .binding (s.reserve settings.range owner size now)
  | .reserveSpan owner size => changing .binding (s.reserveSpan settings.range owner size now)
  | .reserveOne owner => changing .binding (s.reserveOne settings.range owner now)
  | .release request => changing .binding (s.release settings.ownership request now)
  | .releasePort number owner =>
    changing .binding (s.releasePort settings.ownership number owner now)
  | .releaseSpan first last owner =>
    changing .binding (s.releaseSpan settings.ownership first last owner now)
  | .listPorts filter => reading s ((s.listPorts filter).map .ports)
  | .listBindings filter => reading s ((s.listBindings filter).map .bindings)
  | .observe reported => changing .ports (s.observe settings.range reported)
  | .seed => changing .count (.ok (s.seed settings.range))
  | .findPort number => reading s ((s.findPort number).map .perhapsPort)
  | .findBinding id => reading s ((s.findBinding id).map .perhapsBinding)

/-- The store after a request, granted or not. -/
def next (settings : Settings) (now : Time.Instant) (s : Store) (op : Operation) : Store :=
  match op.perform settings now s with
  | .ok (_, t) => t
  | .error _ => s

end Operation

end PortPool
