import TaskDesk.Files.Error
import TaskDesk.Text.Utf8

/-!
# What stands under a name in a directory

An `Entry` is a directory or a file, whose content is a text or bytes that are none.
`Entry.read` reads the text of a file, and `Entry.readLossy` reads one also from bytes that
are none.
-/

namespace TaskDesk

/-- A directory, or a file with its content. -/
inductive Entry where
  | directory
  | text (content : String)
  | bytes (content : List UInt8)
deriving DecidableEq, Repr

namespace Entry

/-- The file with the given bytes, which may be the text of a file. -/
def ofBytes (content : List UInt8) : Entry :=
  match String.fromUTF8? ⟨content.toArray⟩ with
  | some decoded => .text decoded
  | none => .bytes content

/-- The text of the file under a name, if there is one. -/
def read : Option Entry → Except FileError String
  | none => .error .notFound
  | some .directory => .error .isADirectory
  | some (.bytes _) => .error .invalidData
  | some (.text content) => .ok content

/-- The text of the file under a name; what is no text in it is replaced. -/
def readLossy : Option Entry → Except FileError String
  | some (.bytes content) => .ok (String.ofList (Text.Utf8.decodeLossy content))
  | e => read e

end Entry

end TaskDesk
