import TaskDesk.Files.Error

/-!
# Paths

A path is a text; its names are separated by slashes, and it is absolute if it starts with
one.  Names that are a single point say nothing about where a path leads, but what stands
before one must be a directory; the same goes for a slash at the end.
-/

namespace TaskDesk.Path

/-- Whether a path starts at the root. -/
def isAbsolute (p : String) : Bool :=
  p.toList.head? = some '/'

/-- The parts of a text between slashes. -/
private def splitChars : List Char → List Char → List (List Char)
  | [], part => [part.reverse]
  | '/' :: s, part => part.reverse :: splitChars s []
  | c :: s, part => splitChars s (c :: part)

/-- The names in a path. -/
def names (p : String) : List String :=
  ((splitChars p.toList []).filter fun part => part ≠ []).map String.ofList

/-- The names in a path that say something. -/
def parts (p : String) : List String :=
  (names p).filter fun name => name ≠ "."

/-- Whether a path ends with a slash. -/
def endsInSlash (p : String) : Bool :=
  p.toList.getLast? = some '/'

/-- Whether the last name of a path is a single point. -/
def endsInPoint (p : String) : Bool :=
  (names p).getLast? = some "."

/-- Whether a name is one of an entry, and not of a directory on the way. -/
def isEntryName (name : String) : Bool :=
  name ≠ "." && name ≠ ".."

/-- The names on the way to the entry that a path names, and its own; a path of a directory
names no entry, whether it says so with a slash at the end or with points. -/
def split (p : String) : List String × Option String :=
  match (names p).getLast? with
  | some name =>
    if isEntryName name ∧ !endsInSlash p then ((names p).dropLast, some name) else (names p, none)
  | none => (names p, none)

/-- The path without slashes at its end. -/
def withoutSlash (p : String) : String :=
  String.ofList (p.toList.reverse.dropWhile fun c => c = '/').reverse

/-- The greatest length of a name, in bytes. -/
def longestName : Nat := 255

/-- The length that no path reaches, in bytes. -/
def longestPath : Nat := 4096

/-- Whether a path can be looked up at all. -/
def check (p : String) : Except FileError Unit :=
  if p.toList.contains '\x00' then .error .invalidInput
  else if p = "" then .error .notFound
  else if longestPath ≤ p.utf8ByteSize then .error .invalidFilename
  else .ok ()

/-- Whether a name can be looked up. -/
def checkName (name : String) : Except FileError Unit :=
  if longestName < name.utf8ByteSize then .error .invalidFilename else .ok ()

/-- The path of a name in a directory; an absolute name stands for itself. -/
def join (dir name : String) : String :=
  if isAbsolute name ∨ dir = "" then name
  else if endsInSlash dir then dir ++ name
  else dir ++ "/" ++ name

/-- Drops slashes at the front, and points that are a part of their own; the path is reversed. -/
private def dropEmpty : List Char → List Char
  | '/' :: s => dropEmpty s
  | '.' :: '/' :: s => dropEmpty s
  | s => s

/-- The name of the last part; none for the root, the empty path and a way up. -/
def fileName? (p : String) : Option String :=
  match (parts p).getLast? with
  | none => none
  | some ".." => none
  | some name => some name

/-- The path up to the end of the name of its last part. -/
def upToName (p : String) : String :=
  String.ofList (dropEmpty p.toList.reverse).reverse

/-- The path without its last part. -/
def parent (p : String) : String :=
  let rest := ((dropEmpty p.toList.reverse).dropWhile fun c => c ≠ '/')
  let rest := (dropEmpty rest).reverse
  if rest = [] ∧ isAbsolute p then "/" else String.ofList rest

/-- The letters after the last point in the last part, if something stands before the point. -/
def fileExtension (p : String) : String :=
  match fileName? p with
  | none => ""
  | some name =>
    let chars := name.toList.reverse
    let ending := chars.takeWhile fun c => c ≠ '.'
    if ending.length + 1 < chars.length then String.ofList ending.reverse else ""

end TaskDesk.Path
