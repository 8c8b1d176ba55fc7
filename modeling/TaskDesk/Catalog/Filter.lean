import TaskDesk.Catalog.Basic

/-!
# The part of a catalog that a project can use

A `FilterContext` says whether filtering is on, whether the data sources of a project are
known, and which drivers they use.  A task type applies if filtering is off, if the data
sources are not known yet, if the type stands alone, or if it fits a driver of the project.
A category applies if something below it does, or if filtering is off.  `Catalog.filtered`
is the forest of the categories that apply, each with its task types that do.
-/

namespace TaskDesk

/-- What decides whether a task type applies to a project. -/
structure FilterContext where
  filtering : Bool
  loaded : Bool
  drivers : List String
deriving DecidableEq, Repr, Inhabited

namespace FilterContext

/-- The context in which everything applies. -/
def disabled : FilterContext := ⟨false, false, []⟩

end FilterContext

/-- Whether a task type applies. -/
def TaskType.applies (ctx : FilterContext) (t : TaskType) : Bool :=
  !ctx.filtering || !ctx.loaded || t.standalone || ctx.drivers.any t.applicability.fits

namespace Branch

mutual

/-- Whether a branch applies: filtering is off, or a child or a task type of it applies. -/
def applies (ctx : FilterContext) : Branch → Bool
  | .mk _ kids ts => !ctx.filtering || someApplies ctx kids || ts.any (TaskType.applies ctx)

/-- Whether one of the branches applies. -/
def someApplies (ctx : FilterContext) : List Branch → Bool
  | [] => false
  | b :: bs => applies ctx b || someApplies ctx bs

end

mutual

/-- The branch with what applies below it. -/
def filtered (ctx : FilterContext) : Branch → Branch
  | .mk c kids ts => .mk c (filteredEach ctx kids) (ts.filter (TaskType.applies ctx))

/-- The branches that apply, each with what applies below it. -/
def filteredEach (ctx : FilterContext) : List Branch → List Branch
  | [] => []
  | b :: bs =>
    if applies ctx b then filtered ctx b :: filteredEach ctx bs else filteredEach ctx bs

end

end Branch

/-- The part of a catalog that applies. -/
def Catalog.filtered (ctx : FilterContext) (c : Catalog) : List Branch :=
  Branch.filteredEach ctx c.roots

end TaskDesk
