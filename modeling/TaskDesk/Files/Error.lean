/-!
# Errors of the file system

A `FileError` is the kind of a failed access to a file or a directory.
-/

namespace TaskDesk

/-- Why a file or a directory could not be used. -/
inductive FileError where
  | notFound
  | notADirectory
  | isADirectory
  | alreadyExists
  | invalidData
  | invalidFilename
  | invalidInput
deriving DecidableEq, Repr

namespace FileError

/-- The name of the kind of an error. -/
def kind : FileError → String
  | .notFound => "NotFound"
  | .notADirectory => "NotADirectory"
  | .isADirectory => "IsADirectory"
  | .alreadyExists => "AlreadyExists"
  | .invalidData => "InvalidData"
  | .invalidFilename => "InvalidFilename"
  | .invalidInput => "InvalidInput"

/-- The text of an error. -/
def message (e : FileError) : String :=
  "<io " ++ e.kind ++ ">"

end FileError

end TaskDesk
