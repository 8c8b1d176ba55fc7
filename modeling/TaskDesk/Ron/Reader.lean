import TaskDesk.Settings.Value
import TaskDesk.Text.Identifier

/-!
# Object notation with named structures

A RON value is a truth value, a number, a character, a text, a list, a map, an optional value,
or a structure in parentheses with named fields or without names; in front of a structure there
can be its name, which says nothing here.  Without parentheses a name is an absent value.
`Ron.ofText?` is the table that a text stands for.
-/

namespace TaskDesk.Ron

open TaskDesk.Text TaskDesk.Decimal

/-- The blanks between tokens. -/
def isSpace (c : Char) : Bool :=
  [' ', '\t', '\n', '\r', '\x0b', '\x0c', '\u0085', '\u200e', '\u200f', '\u2028',
    '\u2029'].contains c

/-- The text after a comment that can hold others, of which `level + 1` are open. -/
def afterComment? : Nat → List Char → Option (List Char)
  | level, '/' :: '*' :: s => afterComment? (level + 1) s
  | 0, '*' :: '/' :: s => some s
  | level + 1, '*' :: '/' :: s => afterComment? level s
  | level, _ :: s => afterComment? level s
  | _, [] => none

/-- The text after blanks and comments, of which there are at most `fuel`. -/
def skip? : Nat → List Char → Option (List Char)
  | 0, _ => none
  | fuel + 1, s =>
    match s.dropWhile isSpace with
    | '/' :: '/' :: r => skip? fuel (r.dropWhile fun c => c ≠ '\n')
    | '/' :: '*' :: r => (afterComment? 0 r).bind (skip? fuel)
    | '/' :: _ => none
    | r => some r

/-- The text after blanks and comments. -/
def next? (s : List Char) : Option (List Char) :=
  skip? (s.length + 1) s

/-- Whether a character may stand in a name that is marked as one. -/
def continuesMarked (c : Char) : Bool :=
  continuesIdentifier c || c = '.' || c = '+' || c = '-'

/-- Whether a text begins with the mark of a text or of bytes in quotes. -/
def marksQuotes : List Char → Bool
  | 'r' :: '"' :: _ | 'r' :: '#' :: '"' :: _ | 'r' :: '#' :: '#' :: _ => true
  | 'b' :: '"' :: _ | 'b' :: '\x27' :: _ => true
  | 'b' :: 'r' :: '"' :: _ | 'b' :: 'r' :: '#' :: _ => true
  | _ => false

/-- A name and what follows it. -/
def name? (s : List Char) : Option (String × List Char) :=
  if marksQuotes s then none
  else
    match s with
    | 'r' :: '#' :: r =>
      let name := r.takeWhile continuesMarked
      if name = [] then none else some (String.ofList name, r.drop name.length)
    | c :: r =>
      if startsIdentifier c || c = '_' then
        some (String.ofList (c :: r.takeWhile continuesIdentifier), r.dropWhile continuesIdentifier)
      else none
    | [] => none

/-- The character of an escape after its backslash, and what follows. -/
def escape? (s : List Char) : Option (Char × List Char) :=
  match s with
  | '\x27' :: r => some ('\x27', r)
  | '"' :: r => some ('"', r)
  | '\\' :: r => some ('\\', r)
  | 'n' :: r => some ('\n', r)
  | 'r' :: r => some ('\r', r)
  | 't' :: r => some ('\t', r)
  | '0' :: r => some ('\x00', r)
  | 'x' :: a :: b :: r =>
    (inBase? 16 [a, b]).bind fun n => if n < 0x80 then some (Char.ofNat n, r) else none
  | 'u' :: '{' :: r =>
    let ds := r.takeWhile fun c => c ≠ '}'
    match r.drop ds.length with
    | '}' :: r =>
      if 6 < ds.length then none
      else (inBase? 16 ds).bind fun n => if n.isValidChar then some (Char.ofNat n, r) else none
    | _ => none
  | _ => none

/-- A text in quotes up to the closing one, and what follows. -/
def quoted? : Nat → List Char → Option (List Char × List Char)
  | 0, _ => none
  | _, [] => none
  | _, '"' :: s => some ([], s)
  | fuel + 1, '\\' :: s =>
    (escape? s).bind fun (c, r) => (quoted? fuel r).map fun (t, r) => (c :: t, r)
  | fuel + 1, c :: s => (quoted? fuel s).map fun (t, r) => (c :: t, r)

/-- The text up to an ending, and what follows that. -/
def upTo? (ending : List Char) : List Char → Option (List Char × List Char)
  | [] => none
  | c :: s =>
    if ending.isPrefixOf (c :: s) then some ([], (c :: s).drop ending.length)
    else (upTo? ending s).map fun (t, r) => (c :: t, r)

/-- A text without escapes, after its mark, and what follows. -/
def rawText? (s : List Char) : Option (List Char × List Char) :=
  let hashes := s.takeWhile fun c => c = '#'
  match s.drop hashes.length with
  | '"' :: r => upTo? ('"' :: hashes) r
  | _ => none

/-- The characters of doubles. -/
def isDoubleChar (c : Char) : Bool :=
  c.isDigit || ['e', 'E', '.', '+', '-', '_'].contains c

/-- The characters of whole numbers. -/
def isWholeChar (c : Char) : Bool :=
  (hexValue? c).isSome || c = '_'

/-- The text after a word that is not the start of a longer one. -/
def afterWord? (word : String) (s : List Char) : Option (List Char) :=
  if word.toList.isPrefixOf s && !((s.drop word.length).head?.any continuesIdentifier) then
    some (s.drop word.length)
  else none

/-- What a number with a sign can be instead of digits. -/
def infinite? (s : List Char) : Option (Double × List Char) :=
  let (negative, body) := splitSign s
  let word (w : String) : Option (List Char) :=
    (afterWord? w body).or ((afterWord? (w ++ "f32") body).or (afterWord? (w ++ "f64") body))
  match word "inf", word "NaN" with
  | some r, _ => some (Double.ofMagnitude negative Double.infiniteBits, r)
  | _, some r => some (if negative then Double.nan.neg else Double.nan, r)
  | _, _ => none

/-- The digits of a double without the underscores, of which none may stand at the start or after
a point; `allowed` says whether one may stand here. -/
def withoutUnderscores? (allowed : Bool) : List Char → Option (List Char)
  | [] => some []
  | '_' :: s => if allowed then withoutUnderscores? allowed s else none
  | c :: s =>
    let allowed := if c = '.' then false else allowed || c.isDigit || c = 'e' || c = 'E'
    (withoutUnderscores? allowed s).map (c :: ·)

/-- A double and what follows it. -/
def double? (s : List Char) : Option (Double × List Char) :=
  match infinite? s with
  | some d => some d
  | none => do
    let digits ← withoutUnderscores? false (s.takeWhile isDoubleChar)
    let d ← Double.read? (String.ofList digits)
    let r := s.dropWhile isDoubleChar
    some (d, ((afterWord? "f32" r).or (afterWord? "f64" r)).getD r)

/-- The types of whole numbers with their ranges. -/
def wholeTypes : List (String × Int × Int) :=
  [("i8", -0x80, 0x80), ("i16", -0x8000, 0x8000), ("i32", -0x80000000, 0x80000000),
    ("i64", -0x8000000000000000, 0x8000000000000000), ("u8", 0, 0x100), ("u16", 0, 0x10000),
    ("u32", 0, 0x100000000), ("u64", 0, 0x10000000000000000)]

/-- The base of a number that its first characters tell, and the text after them. -/
def baseOf : List Char → Nat × List Char
  | '0' :: 'b' :: s => (2, s)
  | '0' :: 'o' :: s => (8, s)
  | '0' :: 'x' :: s => (16, s)
  | s => (10, s)

/-- A whole number of 64 bits, and what follows it; its type can be named after it. -/
def whole? (s : List Char) : Option (Int × List Char) := do
  let (negative, body) := splitSign s
  let (base, body) := baseOf body
  let digits := body.takeWhile isWholeChar
  if digits.head? = some '_' then none
  let n ← inBase? base (digits.filter fun c => c ≠ '_')
  let i : Int := if negative then -n else n
  let r := body.drop digits.length
  match wholeTypes.findSome? fun t => (afterWord? t.1 r).map fun r => (t.2, r) with
  | some ((low, high), r) => if low ≤ i && i < high then some (i, r) else none
  | none => if isSignedWord i || (0 ≤ i && i ≤ maxWord) then some (i, r) else none

/-- A number and what follows it.  A whole number that is out of range is a double. -/
def number? (s : List Char) : Option (Setting × List Char) :=
  let body := (splitSign s).2
  let asDouble := (double? s).map fun (d, r) => (Setting.double d, r)
  if (body.takeWhile isWholeChar).length < (body.takeWhile isDoubleChar).length then asDouble
  else
    match whole? s with
    | some (i, r) => some (.int i, r)
    | none => if (baseOf body).1 = 10 then asDouble else none

/-- A character in single quotes after the first one, and what follows. -/
def char? (s : List Char) : Option (Char × List Char) :=
  let found := match s with
    | '\\' :: r => escape? r
    | c :: r => some (c, r)
    | [] => none
  found.bind fun (c, r) =>
    match r with
    | '\x27' :: r => some (c, r)
    | _ => none

/-- Whether a structure has named fields. -/
def hasNames (s : List Char) : Bool :=
  (name? s).any fun (_, r) => (next? r).any fun r => r.head? = some ':'

/-- The value of a name that says something. -/
def word? : String → Option Setting
  | "true" => some (.bool true)
  | "false" => some (.bool false)
  | "None" => some .absent
  | "inf" | "inff32" | "inff64" => some (.double (Double.ofMagnitude false Double.infiniteBits))
  | "NaN" | "NaNf32" | "NaNf64" => some (.double Double.nan)
  | _ => none

/-- How deep brackets may be nested. -/
def depthLimit : Nat := 128

/-- What is read inside brackets, with one level less. -/
def inside {α : Type} (levels : Nat) (read : Nat → Option α) : Option α :=
  match levels with
  | 0 => none
  | levels + 1 => read levels

mutual

/-- A value and what follows it; brackets in it are at most `levels` deep, and `fuel` bounds the
number of values. -/
def value? : Nat → Nat → List Char → Option (Setting × List Char)
  | 0, _, _ => none
  | fuel + 1, levels, s => do
    match name? s with
    | some (name, r) =>
      match word? name with
      | some v => some (v, r)
      | none =>
        match ← next? r with
        | '(' :: r =>
          if name = "Some" then inside levels (optional? fuel · r)
          else inside levels (structure? fuel · r)
        | r => if name = "Some" then none else some (.absent, r)
    | none =>
      match s with
      | '(' :: ')' :: r => some (.absent, r)
      | '(' :: r => inside levels (structure? fuel · r)
      | '[' :: r =>
        (inside levels (items? fuel · ']' r)).map fun (items, r) => (.list items, r)
      | '{' :: r =>
        (inside levels (entries? fuel · r)).map fun (fields, r) =>
          (.table (Keyed.ofList fields), r)
      | '"' :: r => (quoted? (r.length + 1) r).map fun (t, r) => (.text (String.ofList t), r)
      | 'r' :: r => (rawText? r).map fun (t, r) => (.text (String.ofList t), r)
      | 'b' :: '\x27' :: r =>
        (char? r).bind fun (c, r) => if c.toNat < 0x80 then some (.int c.toNat, r) else none
      | '\x27' :: r => (char? r).map fun (c, r) => (.text (String.ofList [c]), r)
      | s => number? s

/-- What stands in the parentheses of an optional value, and what follows. -/
def optional? : Nat → Nat → List Char → Option (Setting × List Char)
  | 0, _, _ => none
  | fuel + 1, levels, s => do
    let (v, r) ← value? fuel levels (← next? s)
    let r ← match ← next? r with
      | ',' :: r => next? r
      | r => some r
    match r with
    | ')' :: r => some (v, r)
    | _ => none

/-- A structure after its opening parenthesis, and what follows. -/
def structure? : Nat → Nat → List Char → Option (Setting × List Char)
  | 0, _, _ => none
  | fuel + 1, levels, s => do
    let s ← next? s
    if hasNames s then
      (fields? fuel levels s).map fun (fields, r) => (.table (Keyed.ofList fields), r)
    else (items? fuel levels ')' s).map fun (items, r) => (.list items, r)

/-- The items of a list up to its closing bracket, and what follows. -/
def items? : Nat → Nat → Char → List Char → Option (List Setting × List Char)
  | 0, _, _, _ => none
  | fuel + 1, levels, closing, s => do
    match ← next? s with
    | [] => none
    | c :: r =>
      if c = closing then some ([], r)
      else
        let (v, r) ← value? fuel levels (c :: r)
        match ← next? r with
        | ',' :: r => (items? fuel levels closing r).map fun (vs, r) => (v :: vs, r)
        | c :: r => if c = closing then some ([v], r) else none
        | [] => none

/-- The fields of a structure up to its closing parenthesis, and what follows. -/
def fields? : Nat → Nat → List Char → Option (List (String × Setting) × List Char)
  | 0, _, _ => none
  | fuel + 1, levels, s => do
    match ← next? s with
    | ')' :: r => some ([], r)
    | s =>
      let (name, r) ← name? s
      match ← next? r with
      | ':' :: r =>
        let (v, r) ← value? fuel levels (← next? r)
        match ← next? r with
        | ',' :: r => (fields? fuel levels r).map fun (fs, r) => ((name, v) :: fs, r)
        | ')' :: r => some ([(name, v)], r)
        | _ => none
      | _ => none

/-- The entries of a map up to its closing brace, and what follows; the keys are texts. -/
def entries? : Nat → Nat → List Char → Option (List (String × Setting) × List Char)
  | 0, _, _ => none
  | fuel + 1, levels, s => do
    match ← next? s with
    | '}' :: r => some ([], r)
    | s =>
      match ← value? fuel levels s with
      | (.text name, r) =>
        match ← next? r with
        | ':' :: r =>
          let (v, r) ← value? fuel levels (← next? r)
          match ← next? r with
          | ',' :: r => (entries? fuel levels r).map fun (fs, r) => ((name, v) :: fs, r)
          | '}' :: r => some ([(name, v)], r)
          | _ => none
        | _ => none
      | _ => none

end

/-- The names of the extensions that a document can ask for. -/
def extensions : List String :=
  ["unwrap_newtypes", "implicit_some", "unwrap_variant_newtypes", "explicit_struct_names"]

/-- The text after tokens with blanks between them. -/
def afterTokens? : List String → List Char → Option (List Char)
  | [], s => some s
  | t :: ts, s => do
    let s ← next? s
    if t.toList.isPrefixOf s then afterTokens? ts (s.drop t.length) else none

/-- The text after names of extensions with commas between them. -/
def afterNames? : Nat → List Char → Option (List Char)
  | 0, _ => none
  | fuel + 1, s => do
    let (name, r) ← name? (← next? s)
    if !extensions.contains name then none
    match ← next? r with
    | ',' :: r =>
      let r ← next? r
      if (name? r).isSome then afterNames? fuel r else some r
    | r => some r

/-- The text after the extensions that a document asks for. -/
def afterExtensions? : Nat → List Char → Option (List Char)
  | 0, _ => none
  | fuel + 1, s => do
    let s ← next? s
    if s.head? = some '#' then
      let r ← afterNames? fuel (← afterTokens? ["#", "!", "[", "enable", "("] s)
      afterExtensions? fuel (← afterTokens? [")", "]"] r)
    else some s

/-- The table that a text stands for. -/
def ofText? (text : String) : Option (List (String × Setting)) := do
  let s := text.toList
  let s ← afterExtensions? (s.length + 1) s
  let (v, r) ← value? (s.length + 1) depthLimit s
  match v, next? r with
  | .table fields, some [] => some fields
  | _, _ => none

end TaskDesk.Ron
