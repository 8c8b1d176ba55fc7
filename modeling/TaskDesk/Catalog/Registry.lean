import TaskDesk.Catalog.Format

/-!
# The current catalog

A `Channel` keeps a value and counts how often it was replaced.  A `Subscriber` knows the count up
to which it has looked; it has something new to see if the channel has counted further.  A
`Registry` has two channels, one for the catalog in use and one for whether a catalog was loaded.  A
definition that cannot be built leaves both as they are.
-/

namespace TaskDesk

/-! ### Channels -/

/-- A value that others watch, and how often it was replaced. -/
structure Channel (α : Type) where
  value : α
  replaced : Nat

/-- How many replacements a subscriber has seen. -/
structure Subscriber where
  seen : Nat
deriving DecidableEq, Repr

namespace Channel

variable {α : Type}

/-- A channel whose value was not replaced yet. -/
def new (v : α) : Channel α := ⟨v, 0⟩

/-- The channel with another value, be it the same as before. -/
def replace (c : Channel α) (v : α) : Channel α := ⟨v, c.replaced + 1⟩

/-- A subscriber that has seen everything up to now. -/
def subscribe (c : Channel α) : Subscriber := ⟨c.replaced⟩

/-- Whether a subscriber has something new to see. -/
def changed (c : Channel α) (s : Subscriber) : Bool := s.seen ≠ c.replaced

/-- What a subscriber sees when it looks, and the subscriber afterwards. -/
def look (c : Channel α) (_ : Subscriber) : α × Subscriber := (c.value, ⟨c.replaced⟩)

end Channel

/-! ### The registry -/

/-- The catalog in use, and whether a catalog was loaded. -/
structure Registry where
  catalogs : Channel Catalog
  loads : Channel Bool

/-- The definition in a file. -/
def CatalogDefinition.ofFile (content : Except FileError String) :
    Except CatalogError CatalogDefinition :=
  match content with
  | .ok text => CatalogDefinition.ofYaml text
  | .error e => .error (.file e)

namespace Registry

/-- The registry before any catalog is loaded. -/
def empty : Registry := ⟨.new Catalog.empty, .new false⟩

/-- The catalog in use. -/
def catalog (r : Registry) : Catalog := r.catalogs.value

/-- Whether a catalog was loaded. -/
def isLoaded (r : Registry) : Bool := r.loads.value

/-- The registry with another catalog. -/
def install (r : Registry) (c : Catalog) : Registry :=
  ⟨r.catalogs.replace c, r.loads.replace true⟩

/-- A way to replace the catalog. -/
inductive Action where
  | load (d : CatalogDefinition)
  | loadFile (content : Except FileError String)
  | reload (d : CatalogDefinition)
  | install (c : Catalog)

/-- The catalog that an action puts in place. -/
def Action.catalog : Action → Except CatalogError Catalog
  | .load d | .reload d => d.build
  | .loadFile content =>
    match CatalogDefinition.ofFile content with
    | .ok d => d.build
    | .error e => .error e
  | .install c => .ok c

/-- The registry after an action, and the catalog that was put in place. -/
def apply (r : Registry) (a : Action) : Registry × Except CatalogError Catalog :=
  match a.catalog with
  | .ok c => (r.install c, .ok c)
  | .error e => (r, .error e)

/-- The registry after actions, the first one first. -/
def run (r : Registry) (actions : List Action) : Registry :=
  actions.foldl (fun r a => (r.apply a).1) r

/-- A subscriber to the catalog in use. -/
def subscribe (r : Registry) : Subscriber := r.catalogs.subscribe

/-- Whether the catalog was replaced since a subscriber looked. -/
def changed (r : Registry) (s : Subscriber) : Bool := r.catalogs.changed s

/-- The catalog that a subscriber sees when it looks, and the subscriber afterwards. -/
def look (r : Registry) (s : Subscriber) : Catalog × Subscriber := r.catalogs.look s

end Registry

end TaskDesk
