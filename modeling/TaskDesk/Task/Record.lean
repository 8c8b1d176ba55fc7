import TaskDesk.Task.Properties
import TaskDesk.Time.Span
import TaskDesk.Time.Timestamp

/-!
# Task records

A `Record` is a task of a project.  A record without an id is not saved yet.  The setters of
its fields take the present time and note it as the time of the last update; giving a record
another type also takes away its properties.  A `Record.Edit` is one such change as a value,
and `Record.run` makes a list of them.
-/

namespace TaskDesk

/-- A task of a project. -/
structure Record where
  id : String
  name : String
  description : String
  taskType : String
  folder : Option String
  limit : Span
  properties : Properties
  createdAt : Timestamp
  updatedAt : Timestamp
deriving Repr, Inhabited

namespace Record

/-- A record that is not saved yet. -/
def new (now : Timestamp) (name taskType : String) : Record where
  id := ""
  name := name
  description := ""
  taskType := taskType
  folder := none
  limit := Span.zero
  properties := Properties.empty
  createdAt := now
  updatedAt := now

/-- Whether a record has an id. -/
def isSaved (r : Record) : Bool :=
  r.id ≠ ""

/-- The record under the given id. -/
def assignId (r : Record) (id : String) : Record :=
  { r with id := id }

/-- The record with a name. -/
def setName (now : Timestamp) (r : Record) (name : String) : Record :=
  { r with name := name, updatedAt := now }

/-- The record with a description. -/
def setDescription (now : Timestamp) (r : Record) (description : String) : Record :=
  { r with description := description, updatedAt := now }

/-- The record with a type; another type than before takes the properties away. -/
def setTaskType (now : Timestamp) (r : Record) (taskType : String) : Record :=
  if taskType = r.taskType then r
  else { r with taskType := taskType, properties := Properties.empty, updatedAt := now }

/-- The record in a folder, or in none. -/
def setFolder (now : Timestamp) (r : Record) (folder : Option String) : Record :=
  { r with folder := folder, updatedAt := now }

/-- The record with a time limit. -/
def setLimit (now : Timestamp) (r : Record) (limit : Span) : Record :=
  { r with limit := limit, updatedAt := now }

/-- The record with other properties. -/
def setProperties (now : Timestamp) (r : Record) (properties : Properties) : Record :=
  { r with properties := properties, updatedAt := now }

/-- A change of one field of a record. -/
inductive Edit where
  | id (id : String)
  | name (name : String)
  | description (description : String)
  | taskType (taskType : String)
  | folder (folder : Option String)
  | limit (limit : Span)
  | properties (properties : Properties)
  | property (key : String) (value : Json)
  | removeProperty (key : String)
deriving Repr

/-- The record after a change.  An id and single properties do not touch the time of the last
update. -/
def apply (now : Timestamp) (r : Record) : Edit → Record
  | .id id => r.assignId id
  | .name name => r.setName now name
  | .description description => r.setDescription now description
  | .taskType taskType => r.setTaskType now taskType
  | .folder folder => r.setFolder now folder
  | .limit limit => r.setLimit now limit
  | .properties properties => r.setProperties now properties
  | .property key value => { r with properties := r.properties.insert key value }
  | .removeProperty key => { r with properties := r.properties.erase key }

/-- The record after changes, the first one first. -/
def run (now : Timestamp) (r : Record) (edits : List Edit) : Record :=
  edits.foldl (apply now) r

end Record

end TaskDesk
