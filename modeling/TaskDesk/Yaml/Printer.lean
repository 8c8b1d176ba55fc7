import TaskDesk.Decimal.Reading
import TaskDesk.Json.Printer

/-!
# Writing YAML

`Json.yaml` writes a value in block style.  A text is plain if it cannot be taken for
anything else; otherwise it is in quotes, single ones if these suffice, or a literal block if
it has several lines.  A list in a mapping is not indented, and a key that is long or has
several lines is written after a question mark.
-/

namespace TaskDesk.Yaml

open TaskDesk.Text TaskDesk.Decimal

/-- Whether a text is digits with a needless zero in front. -/
def hasNeedlessZero (s : List Char) : Bool :=
  match (splitSign s).2 with
  | '0' :: c :: rest => (c :: rest).all Char.isDigit
  | _ => false

/-- Whether a text is a whole number in base 16, 8 or 2, of at most 128 bits. -/
def isBasedNumber (s : List Char) : Bool :=
  let (negative, body) := splitSign s
  let fits (base : Nat) (ds : List Char) : Bool :=
    (inBase? base ds).any fun n => if negative then n ≤ Nat.pow 2 127 else n < Nat.pow 2 128
  match body with
  | '0' :: 'x' :: ds => fits 16 ds
  | '0' :: 'o' :: ds => fits 8 ds
  | '0' :: 'b' :: ds => fits 2 ds
  | _ => false

/-- Whether a text is a finite decimal. -/
def isDecimal (s : String) : Bool :=
  match s.toList with
  | '+' :: '+' :: _ => false
  | '+' :: '-' :: _ => false
  | _ =>
    match (Double.read? s).map Double.decode with
    | some (.finite _ _ _) => true
    | _ => false

/-- Whether a plain text would be taken for something else than a text. -/
def readsOtherwise (s : String) : Bool :=
  ["", "~", "null", "Null", "NULL", "true", "True", "TRUE", "false", "False", "FALSE", ".inf",
    ".Inf", ".INF", "+.inf", "+.Inf", "+.INF", "-.inf", "-.Inf", "-.INF", ".nan", ".NaN",
    ".NAN"].contains s
    || hasNeedlessZero s.toList || isBasedNumber s.toList || isDecimal s

/-- The characters that end a line. -/
def endsLine (c : Char) : Bool :=
  c = '\n' || c = '\r' || c = '\u0085' || c = '\u2028' || c = '\u2029'

/-- The characters that are written as they are. -/
def isShown (c : Char) : Bool :=
  let n := c.toNat
  n = 0x0A || (0x20 ≤ n && n ≤ 0x7E) || (0xA0 ≤ n && n < 0xFFFE && n ≠ 0xFEFF) || 0x10000 ≤ n

/-- Whether a blank or the end of the text is at the front. -/
private def blankFollows : List Char → Bool
  | [] => true
  | c :: _ => c = ' ' || c = '\t' || c = '\x00' || endsLine c

/-- Whether one character of a text, given with its neighbours, satisfies a test. -/
private def anyPlace (test : Option Char → Char → List Char → Bool) :
    Option Char → List Char → Bool
  | _, [] => false
  | before, c :: rest => test before c rest || anyPlace test (some c) rest

/-- The characters that say something at the start of a text. -/
private def startMarks : List Char :=
  ['#', ',', '[', ']', '{', '}', '&', '*', '!', '|', '>', '\x27', '"', '%', '@', '\x60']

/-- Whether a character says something at its place. -/
private def isMark (before : Option Char) (c : Char) (rest : List Char) : Bool :=
  match before with
  | none =>
    startMarks.contains c || ((c = '?' || c = ':' || c = '-') && blankFollows rest)
  | some b => (c = ':' && blankFollows rest) || (c = '#' && blankFollows [b])

/-- Whether a text says something as the mark of a document. -/
private def isDocumentMark : List Char → Bool
  | '-' :: '-' :: '-' :: _ => true
  | '.' :: '.' :: '.' :: _ => true
  | _ => false

/-- Whether a blank stands right before or right after the end of a line. -/
private def blankAtLineEnd (s : List Char) : Bool :=
  anyPlace (fun _ c rest => c = ' ' && rest.head?.any endsLine) none s

/-- Whether a line begins with a blank. -/
private def blankAtLineStart (s : List Char) : Bool :=
  anyPlace (fun before c _ => c = ' ' && before.any endsLine) none s

/-- Whether all of a text can be shown without escapes, by its lines. -/
private def showsLines (s : List Char) : Bool :=
  s.all isShown && !blankAtLineEnd s

/-- Whether a text may be written without quotes. -/
def mayBePlain (s : List Char) : Bool :=
  let isEdge (c : Option Char) : Bool := c = some ' '
  s ≠ [] && !isEdge s.head? && !isEdge s.getLast? && s.all isShown && !s.any endsLine
    && !isDocumentMark s && !anyPlace isMark none s

/-- Whether a text may be written in single quotes. -/
def mayBeSingle (s : List Char) : Bool :=
  showsLines s && !blankAtLineStart s

/-- Whether a text may be written as a block. -/
def mayBeBlock (s : List Char) : Bool :=
  showsLines s && s.getLast? ≠ some ' '

/-- The blanks in front of a line. -/
private def blanks (indent : Nat) : List Char :=
  List.replicate indent ' '

/-- A text in single quotes; what follows the end of a line is indented. -/
private def singleBody (indent : Nat) (afterEnd : Bool) : List Char → List Char
  | [] => if afterEnd then blanks indent else []
  | c :: rest =>
    if endsLine c then c :: singleBody indent true rest
    else
      let start := if afterEnd && c ≠ ' ' then blanks indent else []
      start ++ (if c = '\x27' then ['\x27', '\x27'] else [c])
        ++ singleBody indent (afterEnd && c = ' ') rest

/-- The hexadecimal digit of a number below sixteen, in upper case. -/
private def bigHexDigit (n : Nat) : Char :=
  if n < 10 then Char.ofNat (48 + n) else Char.ofNat (55 + n)

/-- A character in double quotes. -/
private def doubleChar (c : Char) : List Char :=
  match c with
  | '\x00' => ['\\', '0']
  | '\x07' => ['\\', 'a']
  | '\x08' => ['\\', 'b']
  | '\t' => ['\\', 't']
  | '\n' => ['\\', 'n']
  | '\x0b' => ['\\', 'v']
  | '\x0c' => ['\\', 'f']
  | '\r' => ['\\', 'r']
  | '\x1b' => ['\\', 'e']
  | '"' => ['\\', '"']
  | '\\' => ['\\', '\\']
  | '\u0085' => ['\\', 'N']
  | '\u2028' => ['\\', 'L']
  | '\u2029' => ['\\', 'P']
  | c =>
    let n := c.toNat
    if isShown c then [c]
    else if n ≤ 0xFF then '\\' :: 'x' :: hexPadded bigHexDigit 2 n
    else if n ≤ 0xFFFF then '\\' :: 'u' :: hexPadded bigHexDigit 4 n
    else '\\' :: 'U' :: hexPadded bigHexDigit 8 n

/-- The lines of a block, each indented. -/
private def blockBody (indent : Nat) (afterEnd : Bool) : List Char → List Char
  | [] => []
  | c :: rest =>
    if endsLine c then c :: blockBody indent true rest
    else (if afterEnd then blanks indent else []) ++ c :: blockBody indent false rest

/-- What stands after the mark of a block: that it is indented, and how it ends. -/
private def blockHints (s : List Char) : List Char :=
  let start := if s.head?.any fun c => c = ' ' || endsLine c then ['2'] else []
  let ending := match s.reverse with
    | [] => ['-']
    | last :: before =>
      if !endsLine last then ['-']
      else if before.head?.all endsLine then ['+'] else []
  start ++ ending

/-- A text in single quotes, or in double ones where these do not suffice. -/
private def quotedText (indent : Nat) (s : List Char) : List Char :=
  if mayBeSingle s then '\x27' :: (singleBody indent false s ++ ['\x27'])
  else '"' :: (s.flatMap doubleChar ++ ['"'])

/-- A text at a place where lines are indented; `isKey` for a key in front of a colon. -/
def textChars (indent : Nat) (isKey : Bool) (text : String) : List Char :=
  let s := text.toList
  if isKey && s.any endsLine then '"' :: (s.flatMap doubleChar ++ ['"'])
  else if s.contains '\n' then
    if mayBeBlock s then '|' :: (blockHints s ++ '\n' :: blockBody indent true s)
    else '"' :: (s.flatMap doubleChar ++ ['"'])
  else if readsOtherwise text || !mayBePlain s then quotedText indent s
  else s

/-- A number. -/
private def numberText : Number → List Char
  | .whole i => intDigits i
  | .double d =>
    match d.decode with
    | .nan => ".nan".toList
    | .infinite negative => if negative then "-.inf".toList else ".inf".toList
    | .finite _ _ _ => d.text Json.doubleLayout

/-- Whether a key stands in front of its colon on one line. -/
private def isSimpleKey (k : String) : Bool :=
  k.utf8ByteSize ≤ 128 && !k.toList.any endsLine

/-- The start of an entry: on the line of the mark before it, or on a line of its own. -/
private def lineStart (indent : Nat) (inline : Bool) : List Char :=
  if inline then [' '] else '\n' :: blanks indent

/-- What is written before, and after it what begins with the end of a line; that is left out
if a line has just ended. -/
def joinLines (before after : List Char) : List Char :=
  if before.getLast?.any endsLine then before ++ after.drop 1 else before ++ after

mutual

/-- What follows the mark in front of a value; `inline` if the mark may be followed by the
first entry of a collection. -/
def valueChars (indent : Nat) (inline : Bool) : Json → List Char
  | .null => " null".toList
  | .bool true => " true".toList
  | .bool false => " false".toList
  | .num n => ' ' :: numberText n
  | .str s => ' ' :: textChars (indent + 2) false s
  | .arr [] => " []".toList
  | .arr items => itemChars (if inline then indent + 2 else indent) inline items
  | .obj [] => [' ', '{', '}']
  | .obj fields => fieldChars (indent + 2) inline fields

/-- The items of a list. -/
def itemChars (indent : Nat) (inline : Bool) : List Json → List Char
  | [] => []
  | v :: rest =>
    joinLines (lineStart indent inline ++ '-' :: valueChars indent true v)
      (itemChars indent false rest)

/-- The fields of a mapping. -/
def fieldChars (indent : Nat) (inline : Bool) : List (String × Json) → List Char
  | [] => []
  | (k, v) :: rest =>
    let entry :=
      if isSimpleKey k then textChars (indent + 2) true k ++ ':' :: valueChars indent false v
      else
        joinLines ('?' :: ' ' :: textChars (indent + 2) false k)
          (lineStart indent false ++ ':' :: valueChars indent true v)
    joinLines (lineStart indent inline ++ entry) (fieldChars indent false rest)

end

end TaskDesk.Yaml

open TaskDesk.Yaml in
/-- The document of an object. -/
def TaskDesk.Json.yaml (v : TaskDesk.Json) : String :=
  match v with
  | .obj (f :: fields) =>
    String.ofList (joinLines ((fieldChars 0 false (f :: fields)).drop 1) ['\n'])
  | v => String.ofList (joinLines ((valueChars 0 true v).drop 1) ['\n'])
