import TaskDesk.Settings.Value
import TaskDesk.Text.Blank
import TaskDesk.Text.Identifier

/-!
# JSON for humans

JSON5 is JSON with comments, names without quotes as keys, texts in single quotes, numbers with
signs, in hexadecimal digits and without digits on one side of the point, and commas at the end
of lists and objects.  `Json5.ofText?` is the table that a text stands for.
-/

namespace TaskDesk.Json5

open TaskDesk.Text TaskDesk.Decimal

/-- The characters that end a line. -/
def endsLine (c : Char) : Bool :=
  c = '\n' || c = '\r' || c = '\u2028' || c = '\u2029'

/-- The blanks between tokens. -/
def isSpace (c : Char) : Bool :=
  (isBlank c && c ≠ '\u0085') || c = '\ufeff'

/-- The text after a comment that began with a slash and a star. -/
def afterComment? : List Char → Option (List Char)
  | '*' :: '/' :: s => some s
  | _ :: s => afterComment? s
  | [] => none

/-- The text after blanks and comments, of which there are at most `fuel`. -/
def skip? : Nat → List Char → Option (List Char)
  | 0, _ => none
  | fuel + 1, s =>
    match s.dropWhile isSpace with
    | '/' :: '/' :: r => skip? fuel (r.dropWhile fun c => !endsLine c)
    | '/' :: '*' :: r => (afterComment? r).bind (skip? fuel)
    | r => some r

/-- The text after blanks and comments. -/
def next? (s : List Char) : Option (List Char) :=
  skip? (s.length + 1) s

/-- The number of a UTF-16 unit in hexadecimal digits, and what follows. -/
def unit? (s : List Char) : Option (Nat × List Char) :=
  if s.length < 4 then none else (inBase? 16 (s.take 4)).map fun n => (n, s.drop 4)

/-- The character of one unit after `\u`, or of two, and what follows. -/
def unicode? (s : List Char) : Option (Char × List Char) :=
  (unit? s).bind fun (high, r) =>
    if 0xD800 ≤ high ∧ high < 0xDC00 then
      match r with
      | '\\' :: 'u' :: r => (unit? r).bind fun (low, r) =>
        if 0xDC00 ≤ low ∧ low < 0xE000 then
          some (Char.ofNat (0x10000 + 0x400 * (high - 0xD800) + (low - 0xDC00)), r)
        else none
      | _ => none
    else if high.isValidChar then some (Char.ofNat high, r)
    else none

/-- The characters that an escape stands for, after its backslash, and what follows. -/
def escape? (s : List Char) : Option (List Char × List Char) :=
  match s with
  | [] => none
  | '\r' :: '\n' :: r => some ([], r)
  | 'u' :: r => (unicode? r).map fun (c, r) => ([c], r)
  | 'x' :: a :: b :: r => (inBase? 16 [a, b]).map fun n => ([Char.ofNat n], r)
  | '0' :: r => if r.head?.any Char.isDigit then none else some (['\x00'], r)
  | c :: r =>
    match c with
    | 'b' => some (['\x08'], r)
    | 'f' => some (['\x0c'], r)
    | 'n' => some (['\n'], r)
    | 'r' => some (['\r'], r)
    | 't' => some (['\t'], r)
    | 'v' => some (['\x0b'], r)
    | c =>
      if endsLine c then some ([], r)
      else if c.isDigit || c = 'x' then none
      else some ([c], r)

/-- A text in quotes up to the closing one, and what follows. -/
def quoted? (quote : Char) : Nat → List Char → Option (List Char × List Char)
  | 0, _ => none
  | _, [] => none
  | fuel + 1, c :: s =>
    if c = quote then some ([], s)
    else if c = '\\' then
      (escape? s).bind fun (cs, r) => (quoted? quote fuel r).map fun (t, r) => (cs ++ t, r)
    else if c = '\n' || c = '\r' then none
    else (quoted? quote fuel s).map fun (t, r) => (c :: t, r)

/-- Whether a name may begin with a character. -/
def startsName (c : Char) : Bool :=
  startsIdentifier c || c = '$' || c = '_'

/-- Whether a character may stand in a name. -/
def continuesName (c : Char) : Bool :=
  continuesIdentifier c || c = '$' || c = '\u200c' || c = '\u200d'

/-- A name without quotes, of which `first` says whether it begins here, and what follows. -/
def name? : Nat → Bool → List Char → Option (List Char × List Char)
  | 0, _, _ => none
  | fuel + 1, first, s =>
    let fits (c : Char) : Bool := if first then startsName c else continuesName c
    match s with
    | '\\' :: 'u' :: r =>
      (unicode? r).bind fun (c, r) =>
        if fits c then (name? fuel false r).map fun (t, r) => (c :: t, r) else none
    | c :: r =>
      if fits c then (name? fuel false r).map fun (t, r) => (c :: t, r)
      else if first then none
      else some ([], c :: r)
    | [] => if first then none else some ([], [])

/-- A whole number, as a double if it is beyond the range of signed 64-bit words. -/
def ofWhole (negative : Bool) (n : Nat) : Setting :=
  let i : Int := if negative then -n else n
  if isSignedWord i then .int i else .double (Double.ofDecimal negative n 0)

/-- An exponent with its letter, and what follows. -/
def exponent? (s : List Char) : Option (List Char × List Char) :=
  match s with
  | [] => some ([], [])
  | c :: r =>
    if c = 'e' || c = 'E' then
      let sign := r.takeWhile fun c => c = '+' || c = '-'
      let (ds, r) := splitDigits (r.drop sign.length)
      if ds = [] || 1 < sign.length then none else some ('e' :: (sign ++ ds), r)
    else some ([], c :: r)

/-- A number after its sign, and what follows. -/
def unsigned? (negative : Bool) (s : List Char) : Option (Setting × List Char) :=
  match s with
  | 'I' :: 'n' :: 'f' :: 'i' :: 'n' :: 'i' :: 't' :: 'y' :: r =>
    some (.double (Double.ofMagnitude negative Double.infiniteBits), r)
  | 'N' :: 'a' :: 'N' :: r => some (.double (if negative then Double.nan.neg else Double.nan), r)
  | s =>
    if s.take 2 = ['0', 'x'] || s.take 2 = ['0', 'X'] then
      let r := s.drop 2
      let isDigit (c : Char) : Bool := (hexValue? c).isSome
      (inBase? 16 (r.takeWhile isDigit)).map fun n => (ofWhole negative n, r.dropWhile isDigit)
    else
      let (whole, r) := splitDigits s
      let (point, part, r) := match r with
        | '.' :: r => (true, splitDigits r)
        | r => (false, [], r)
      if (whole = [] && part = []) || (whole.head? = some '0' && 1 < whole.length) then none
      else
        (exponent? r).bind fun (exponent, r) =>
          if !point && exponent = [] then some (ofWhole negative (digitsValue whole), r)
          else
            (Double.read? (String.ofList ((if negative then ['-'] else []) ++ whole ++ '.' :: part
              ++ exponent))).map fun d => (.double d, r)

mutual

/-- A value and what follows it; `fuel` bounds the depth and the number of values. -/
def value? : Nat → List Char → Option (Setting × List Char)
  | 0, _ => none
  | fuel + 1, s => do
    match ← next? s with
    | 'n' :: 'u' :: 'l' :: 'l' :: r => some (.absent, r)
    | 't' :: 'r' :: 'u' :: 'e' :: r => some (.bool true, r)
    | 'f' :: 'a' :: 'l' :: 's' :: 'e' :: r => some (.bool false, r)
    | '[' :: r => (items? fuel r).map fun (items, r) => (.list items, r)
    | '{' :: r => (fields? fuel r).map fun (fields, r) => (.table (Keyed.ofList fields), r)
    | '+' :: r => unsigned? false r
    | '-' :: r => unsigned? true r
    | c :: r =>
      if c = '"' || c = '\x27' then
        (quoted? c (r.length + 1) r).map fun (t, r) => (.text (String.ofList t), r)
      else unsigned? false (c :: r)
    | [] => none

/-- The items of a list up to its closing bracket, and what follows. -/
def items? : Nat → List Char → Option (List Setting × List Char)
  | 0, _ => none
  | fuel + 1, s => do
    match ← next? s with
    | ']' :: r => some ([], r)
    | s =>
      let (v, r) ← value? fuel s
      match ← next? r with
      | ']' :: r => some ([v], r)
      | ',' :: r => (items? fuel r).map fun (vs, r) => (v :: vs, r)
      | _ => none

/-- The fields of an object up to its closing brace, and what follows. -/
def fields? : Nat → List Char → Option (List (String × Setting) × List Char)
  | 0, _ => none
  | fuel + 1, s => do
    match ← next? s with
    | '}' :: r => some ([], r)
    | s =>
      let (key, r) ← match s with
        | c :: r =>
          if c = '"' || c = '\x27' then quoted? c (r.length + 1) r
          else name? (s.length + 1) true s
        | [] => none
      match ← next? r with
      | ':' :: r =>
        let (v, r) ← value? fuel r
        let field := (String.ofList key, v)
        match ← next? r with
        | '}' :: r => some ([field], r)
        | ',' :: r => (fields? fuel r).map fun (fs, r) => (field :: fs, r)
        | _ => none
      | _ => none

end

/-- The table that a text stands for. -/
def ofText? (text : String) : Option (List (String × Setting)) :=
  let s := text.toList
  (value? (s.length + 1) s).bind fun (v, r) =>
    match v, next? r with
    | .table fields, some [] => some fields
    | _, _ => none

end TaskDesk.Json5
