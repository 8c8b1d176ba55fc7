import TaskDesk.Text.Digits

/-!
# Ids for new tasks

The id of a new task is a random UUID: sixteen bytes, of which six bits say that it is one of
version 4, in hexadecimal digits with four hyphens.
-/

namespace TaskDesk.Identifier

/-- Bytes with the bits that mark a random UUID. -/
def marked (bytes : List Nat) : List Nat :=
  bytes.zipIdx.map fun (b, i) =>
    if i = 6 then 0x40 + b % 0x10 else if i = 8 then 0x80 + b % 0x40 else b

/-- Bytes in hexadecimal digits; a hyphen stands before the bytes at the given places. -/
def hex (breaks : List Nat) (bytes : List Nat) : List Char :=
  bytes.zipIdx.flatMap fun (b, i) =>
    (if breaks.contains i then ['-'] else []) ++ Text.hexPadded Text.hexDigit 2 b

/-- The random UUID of sixteen bytes. -/
def ofBytes (bytes : List Nat) : String :=
  String.ofList (hex [4, 6, 8, 10] (marked bytes))

end TaskDesk.Identifier
