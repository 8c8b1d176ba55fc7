import TaskDesk.Project.Basic
import TaskDesk.Task.Properties

/-!
# Targets of tasks

A `Resolver` keeps the id of an object of one kind under one name among the properties of a
task.  `Resolver.load` looks the stored id up, or takes the first object of the kind if no
id is stored; a lookup can be cancelled.  `Resolver.save` stores the id of an object.  A
`Binding` is a resolver with the object that is bound at the moment.
-/

namespace TaskDesk

/-- The name under which the id is stored, and the kind of the objects to bind. -/
structure Resolver where
  key : String
  kind : String
deriving DecidableEq, Repr, Inhabited

/-- Why no object was found. -/
inductive ResolveError where
  | targetNotFound (id : String)
  | noTargetFound
  | lookup (e : LookupError)
deriving DecidableEq, Repr

namespace ResolveError

/-- The text of an error. -/
def message : ResolveError → String
  | .targetNotFound id => "Target " ++ id ++ " not found"
  | .noTargetFound => "no target found for this configuration"
  | .lookup e => "Error loading objects configuration: " ++ e.message

/-- Whether the configuration of the task cannot be loaded at all. -/
def isFatal : ResolveError → Bool
  | .targetNotFound _ | .noTargetFound => true
  | .lookup _ => false

end ResolveError

/-- What a load that did not fail comes to. -/
inductive LoadOutcome where
  | resolved (o : BoundObject)
  | cancelled
deriving DecidableEq, Repr

namespace Resolver

/-- The database that a script for PostgreSQL runs against. -/
def scriptDatabase : Resolver := ⟨"pg.script.database", "database"⟩

/-- The id that is stored, if it is not empty. -/
def storedId? (r : Resolver) (settings : Properties) : Option String :=
  (settings.text? r.key).filter fun id => id ≠ ""

/-- The first object of the kind. -/
def scan (r : Resolver) (index : ObjectIndex) : Option BoundObject :=
  index.objects.find? fun o => o.kind = r.kind

/-- Loads the object; `cancelTime` is the time of a cancellation after the start, 0 for one
before it.  The answer comes with the time it took. -/
def load (r : Resolver) (index : ObjectIndex) (settings : Properties) (cancelTime : Option Nat) :
    Nat × Except ResolveError LoadOutcome :=
  match r.storedId? settings with
  | none =>
    match r.scan index with
    | some o => (0, .ok (.resolved o))
    | none => (0, .error .noTargetFound)
  | some id =>
    let found := match index.find? id with
      | .ok (some o) => .ok (.resolved o)
      | .ok none => .error (.targetNotFound id)
      | .error e => .error (.lookup e)
    let needed := index.lookupTime id
    match cancelTime with
    | none => (needed, found)
    | some t => if t ≤ needed then (t, .ok .cancelled) else (needed, found)

/-- Stores the id of an object, of the first one of the kind if none is given, and the empty
id if there is none. -/
def save (r : Resolver) (index : ObjectIndex) (target : Option BoundObject)
    (settings : Properties) : Option BoundObject × Properties :=
  let target := target.orElse fun _ => r.scan index
  let id := (target.map BoundObject.id).getD ""
  (target, settings.insert r.key (.str id))

end Resolver

/-- A resolver and the object that is bound. -/
structure Binding where
  resolver : Resolver
  target : Option BoundObject
deriving DecidableEq, Repr, Inhabited

namespace Binding

/-- Nothing is bound yet. -/
def new (r : Resolver) : Binding := ⟨r, none⟩

/-- Another object is bound, or none. -/
def setTarget (b : Binding) (target : Option BoundObject) : Binding :=
  { b with target }

/-- Binds the object that the resolver loads; a cancelled load leaves the binding as it is. -/
def load (b : Binding) (index : ObjectIndex) (settings : Properties) (cancelTime : Option Nat) :
    Binding × Nat × Except ResolveError (Option BoundObject) :=
  match b.resolver.load index settings cancelTime with
  | (t, .ok (.resolved o)) => (b.setTarget (some o), t, .ok (some o))
  | (t, .ok .cancelled) => (b, t, .ok b.target)
  | (t, .error e) => (b, t, .error e)

/-- Stores the id of the bound object; if none is bound, binds one first. -/
def save (b : Binding) (index : ObjectIndex) (settings : Properties) : Binding × Properties :=
  let (target, settings) := b.resolver.save index b.target settings
  (b.setTarget target, settings)

end Binding

end TaskDesk
