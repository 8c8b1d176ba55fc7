import TaskDesk.Catalog.Filter
import TaskDesk.Json.Value
import TaskDesk.Text.Blank
import TaskDesk.Time.Wait

/-!
# Projects

A `Project` has a name, the data sources that are known so far, and an `ObjectIndex` of the
objects that tasks can be bound to.  Looking an object up takes the delay of the index; an
index that is not available refuses every id at once, and any index a blank one.
-/

namespace TaskDesk

/-- A data source with its driver. -/
structure DataSource where
  id : String
  name : String
  driver : String
deriving DecidableEq, Repr, Inhabited

/-- The data sources known so far, and whether these are all. -/
structure DataSources where
  sources : List DataSource
  isLoaded : Bool
deriving DecidableEq, Repr, Inhabited

namespace DataSources

/-- No data source is known yet. -/
def pending : DataSources := ⟨[], false⟩

/-- One more data source is known. -/
def add (d : DataSources) (s : DataSource) : DataSources :=
  { d with sources := d.sources ++ [s] }

/-- All data sources are known. -/
def populate (_ : DataSources) (sources : List DataSource) : DataSources :=
  ⟨sources, true⟩

/-- The drivers of the data sources, in order. -/
def drivers (d : DataSources) : List String :=
  d.sources.map DataSource.driver

/-- The context in which task types are offered. -/
def filterContext (d : DataSources) (filtering : Bool) : FilterContext :=
  ⟨filtering, d.isLoaded, d.drivers⟩

end DataSources

/-- An object that a task can be bound to. -/
structure BoundObject where
  id : String
  name : String
  kind : String
deriving DecidableEq, Repr, Inhabited

/-- Why an object could not be looked up. -/
inductive LookupError where
  | unavailable (reason : String)
  | malformedId (id : String)
deriving DecidableEq, Repr

/-- The text of an error. -/
def LookupError.message : LookupError → String
  | .unavailable reason => "Object index unavailable: " ++ reason
  | .malformedId id => "Malformed object id: " ++ id

/-- The objects of a project in order, how many milliseconds it takes to look one up, and why
the index is not available, if it is not. -/
structure ObjectIndex where
  objects : List BoundObject
  delay : Nat
  failure : Option String
deriving DecidableEq, Repr, Inhabited

namespace ObjectIndex

/-- How long it takes to look an id up. -/
def lookupTime (index : ObjectIndex) (id : String) : Nat :=
  if index.failure.isSome || Text.blank id then 0 else waitTime index.delay

/-- The first object with an id. -/
def find? (index : ObjectIndex) (id : String) : Except LookupError (Option BoundObject) :=
  match index.failure with
  | some reason => .error (.unavailable reason)
  | none =>
    if Text.blank id then .error (.malformedId id)
    else .ok (index.objects.find? fun o => o.id = id)

end ObjectIndex

/-- A project without its tasks. -/
structure Project where
  name : String
  sources : DataSources
  index : ObjectIndex
deriving DecidableEq, Repr, Inhabited

/-- A description for diagnosis. -/
def Project.text (p : Project) : String :=
  "Project \x7b name: " ++ Text.quoted p.name ++ ", registry_loaded: "
    ++ (if p.sources.isLoaded then "true" else "false") ++ ", .. \x7d"

end TaskDesk
