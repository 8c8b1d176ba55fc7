import TaskDesk.Json.Reader
import TaskDesk.Settings.Value
import TaskDesk.Yaml12.Document

/-!
# Settings in documents

The root of a settings document is a table, in JSON or in YAML 1.2.  The keys of a YAML mapping
may be texts, numbers and truth values.  A YAML text without a document is an empty table.
-/

namespace TaskDesk.Setting

open TaskDesk.Text TaskDesk.Decimal

/-- The key of a field in a YAML mapping, as text; null and collections are no keys. -/
private def keyText? : Yaml12.Value → Option String
  | .text s | .real s => some s
  | .int i => some (intText i)
  | .bool b => some (if b then "true" else "false")
  | _ => none

mutual

/-- The setting that a YAML value is; a real number must be one that can be read. -/
def ofYamlValue? : Yaml12.Value → Option Setting
  | .bad | .null => some .absent
  | .bool b => some (.bool b)
  | .int i => some (.int i)
  | .real s => (Double.read? s).map .double
  | .text s => some (.text s)
  | .list items => (ofYamlValues? items).map .list
  | .table entries => (ofYamlEntries? entries).map fun fs => .table (Keyed.ofList fs)

/-- The settings that YAML values are. -/
def ofYamlValues? : List Yaml12.Value → Option (List Setting)
  | [] => some []
  | v :: vs => (ofYamlValue? v).bind fun s => (ofYamlValues? vs).map (s :: ·)

/-- The fields that the entries of a YAML mapping are. -/
def ofYamlEntries? : List (Yaml12.Value × Yaml12.Value) → Option (List (String × Setting))
  | [] => some []
  | (k, v) :: es =>
    (keyText? k).bind fun k => (ofYamlValue? v).bind fun s =>
      (ofYamlEntries? es).map fun fs => (k, s) :: fs

end

/-- The table in a YAML text. -/
def ofYaml? (text : String) : Option (List (String × Setting)) :=
  match Yaml12.document? text with
  | some none => some []
  | some (some v) =>
    match ofYamlValue? v with
    | some (.table fs) => some fs
    | _ => none
  | none => none

mutual

/-- The setting that a JSON value is. -/
def ofJson : Json → Setting
  | .null => .absent
  | .bool b => .bool b
  | .num (.whole i) => .int i
  | .num (.double d) => .double d
  | .str s => .text s
  | .arr items => .list (ofJsons items)
  | .obj fields => .table (ofFields fields)

/-- The settings that JSON values are. -/
def ofJsons : List Json → List Setting
  | [] => []
  | v :: vs => ofJson v :: ofJsons vs

/-- The fields of a JSON object as settings. -/
def ofFields : List (String × Json) → List (String × Setting)
  | [] => []
  | (k, v) :: fs => (k, ofJson v) :: ofFields fs

end

/-- The table in a JSON text. -/
def ofJsonText? (text : String) : Option (List (String × Setting)) :=
  match Json.read? text with
  | some (.obj fields) => some (ofFields fields)
  | _ => none

end TaskDesk.Setting
