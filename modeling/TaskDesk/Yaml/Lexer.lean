import TaskDesk.Yaml.ScalarText
import TaskDesk.Yaml.Uri

/-!
# The tokens of a YAML text

`tokens?` takes a YAML text apart.  Blocks are opened and closed by indentation: the lexer
keeps the columns of the open blocks.  A scalar or a collection may turn out to be a key only
when a colon follows it, so the place of the last possible key of every open flow collection
is kept, and the tokens that begin a mapping and a key are put in front of it afterwards.
-/

namespace TaskDesk.Yaml

open TaskDesk.Text

/-- What the lexer has read, and the state of the blocks and flow collections around it. -/
structure Lexer where
  cursor : Cursor
  tokens : Array Token
  indent : Int
  outer : List Int
  place : Option KeyPlace
  outerPlaces : List (Option KeyPlace)
  keyAllowed : Bool

namespace Lexer

/-- The lexer at the beginning of a text. -/
def start (s : List Char) : Lexer :=
  ⟨Cursor.start s, #[], -1, [], none, [], true⟩

/-- Whether the lexer is inside a flow collection. -/
def inFlow (l : Lexer) : Bool :=
  !l.outerPlaces.isEmpty

/-- The lexer with one more token. -/
def push (l : Lexer) (t : Token) : Lexer :=
  { l with tokens := l.tokens.push t }

/-- The lexer with a token put in front of the token of the given number. -/
def insertAt (l : Lexer) (n : Nat) (t : Token) : Lexer :=
  { l with tokens := l.tokens.extract 0 n ++ #[t] ++ l.tokens.extract n l.tokens.size }

/-- Opens a block at a column that is beyond the current block, with its token at the given
place or at the end. -/
def openBlock (l : Lexer) (column : Nat) (number : Option Nat) (t : Token) : Lexer :=
  if !l.inFlow && l.indent < column then
    let l := { l with outer := l.indent :: l.outer, indent := column }
    match number with
    | some n => l.insertAt n t
    | none => l.push t
  else l

/-- Closes the blocks that lie beyond a column. -/
def closeBlocks (l : Lexer) (column : Int) : Lexer :=
  if l.inFlow then l else go l.outer l
where
  go : List Int → Lexer → Lexer
    | [], l => l
    | i :: rest, l =>
      if column < l.indent then
        go rest { (l.push .blockEnd) with indent := i, outer := rest }
      else l

/-- Gives up the place of the last possible key; none if a key had to begin there. -/
def dropPlace (l : Lexer) : Option Lexer :=
  match l.place with
  | some p => if p.required then none else some { l with place := none }
  | none => some l

/-- Notes that a key may begin here. -/
def savePlace (l : Lexer) : Option Lexer :=
  if l.keyAllowed then do
    let required := !l.inFlow && l.indent = l.cursor.column
    let place : KeyPlace :=
      ⟨l.tokens.size, l.cursor.index, l.cursor.line, l.cursor.column, required⟩
    let l ← l.dropPlace
    some { l with place := some place }
  else some l

/-- Moves over blanks, comments and line ends to the next token.  A byte order mark may stand
at the beginning of a line and takes one column. -/
def skipToToken : Nat → Lexer → Lexer
  | 0, l => l
  | fuel + 1, l =>
    let c := l.cursor
    let c := if c.column = 0 && c.rest.head? = some '\ufeff' then c.next else c
    let tabs := l.inFlow || !l.keyAllowed
    let c := c.skipWhile fun d => d = ' ' || (tabs && d = '\t')
    let c := if c.rest.head? = some '#' then c.skipWhile fun d => !isBreak d else c
    match c.rest with
    | d :: _ =>
      if isBreak d then
        skipToToken fuel
          { l with cursor := c.skipBreak, keyAllowed := l.keyAllowed || !l.inFlow }
      else { l with cursor := c }
    | [] => { l with cursor := c }

/-- The characters of the names of anchors and of the handles of tags. -/
def isWordChar (c : Char) : Bool :=
  c.isAlphanum || c = '-' || c = '_'

/-- The characters of a tag. -/
def isTagChar (c : Char) : Bool :=
  isWordChar c || ";/?:@&=+$.!~*'()%".toList.contains c

/-- The characters of a URI. -/
def isUriChar (c : Char) : Bool :=
  isTagChar c || c = ',' || c = '[' || c = ']'

/-- Octets as characters, one by one; in the tags that have a meaning all are ASCII. -/
def ofOctets (octets : List Nat) : Option (List Char) :=
  some (octets.map Char.ofNat)

/-- The characters here that satisfy a test, escapes decoded, and the place after them; there
must be one.  What is decoded ends in front of a null character. -/
def takeUri (test : Char → Bool) (c : Cursor) : Option (List Char × Cursor) :=
  match Uri.take? test ofOctets (c.rest.length + 1) c.rest with
  | some (s, n + 1) => some (s.takeWhile (· ≠ '\x00'), c.skip (n + 1))
  | _ => none

/-- The indicators that may follow the name of an anchor. -/
def nameEnds : List Char :=
  ['?', ':', ',', ']', '}', '%', '@', '\x60']

/-- The indicators, with which no plain scalar begins unless more is said. -/
def indicators : List Char :=
  ['-', '?', ':', ',', '[', ']', '{', '}', '#', '&', '*', '!', '|', '>', '\x27', '"', '%', '@',
    '\x60']

/-- An anchor or an alias after its indicator. -/
def takeName (l : Lexer) (token : String → Token) : Option Lexer :=
  let c := l.cursor.next
  let name := c.rest.takeWhile isWordChar
  let c := c.skip name.length
  let ended := blankAhead c.rest || (c.rest.head?.any fun d => nameEnds.contains d)
  if name = [] || !ended then none
  else some { (l.push (token (String.ofList name))) with cursor := c, keyAllowed := false }

/-- A tag. -/
def takeTag (l : Lexer) : Option Lexer := do
  let c := l.cursor
  let (handle, suffix, c) ← match c.rest with
    | '!' :: '<' :: _ => do
      let (uri, c) ← takeUri isUriChar (c.skip 2)
      if c.rest.head? = some '>' then some ([], uri, c.next) else none
    | _ =>
      let name := (c.rest.drop 1).takeWhile isWordChar
      let afterName := c.skip (name.length + 1)
      if afterName.rest.head? = some '!' then
        (takeUri isTagChar afterName.next).map fun (suffix, c) =>
          ('!' :: name ++ ['!'], suffix, c)
      else if afterName.rest.head?.any isTagChar then
        (takeUri isTagChar afterName).map fun (more, c) =>
          if name ++ more = [] then ([], ['!'], c) else (['!'], name ++ more, c)
      else some (if name = [] then ([], ['!'], afterName) else (['!'], name, afterName))
  if blankAhead c.rest || (l.inFlow && c.rest.head? = some ',') then
    some { (l.push (.tag (String.ofList handle) (String.ofList suffix))) with
      cursor := c, keyAllowed := false }
  else none

/-- The rest of a line that holds nothing more than a comment. -/
def finishLine (c : Cursor) : Option Cursor :=
  let c := c.skipWhile isBlank
  let c := if c.rest.head? = some '#' then c.skipWhile fun d => !isBreak d else c
  if breakAhead c.rest then some c.skipBreak else none

/-- A number of a version, of at most nine digits. -/
def takeVersion (c : Cursor) : Option (Nat × Cursor) :=
  let (digits, _) := splitDigits c.rest
  if digits.length ≤ 9 then (digits? digits).map fun n => (n, c.skip digits.length) else none

/-- The handle of a tag and, after blanks, what it stands for. -/
def takeHandle (c : Cursor) : Option (Token × Cursor) := do
  let name := (c.rest.drop 1).takeWhile isWordChar
  let (handle, c) ← match c.rest, (c.rest.drop 1).drop name.length with
    | '!' :: _, '!' :: _ => some ('!' :: name ++ ['!'], c.skip (name.length + 2))
    | '!' :: _, _ => if name = [] then some (['!'], c.next) else none
    | _, _ => none
  if !c.rest.head?.any isBlank then none
  else
    let (tag, c) ← takeUri isUriChar (c.skipWhile isBlank)
    if blankAhead c.rest then
      some (.tagDirective (String.ofList handle) (String.ofList tag), c)
    else none

/-- A directive. -/
def takeDirective (l : Lexer) : Option Lexer := do
  let l ← (l.closeBlocks (-1)).dropPlace
  let c := l.cursor.next
  let name := c.rest.takeWhile isWordChar
  let afterName := c.skip name.length
  if !blankAhead afterName.rest then none
  else
    let value := afterName.skipWhile isBlank
    let (token, c) ← match String.ofList name with
      | "YAML" => do
        let (major, c) ← takeVersion value
        if c.rest.head? = some '.' then
          let (minor, c) ← takeVersion c.next
          some (Token.versionDirective major minor, c)
        else none
      | "TAG" => takeHandle value
      | _ => none
    let c ← finishLine c
    some { (l.push token) with cursor := c, keyAllowed := false }

/-- A mark of the start or the end of a document. -/
def takeDocumentMark (l : Lexer) (t : Token) : Option Lexer := do
  let l ← (l.closeBlocks (-1)).dropPlace
  some { (l.push t) with cursor := l.cursor.skip 3, keyAllowed := false }

/-- The beginning of a flow collection. -/
def openFlow (l : Lexer) (t : Token) : Option Lexer := do
  let l ← l.savePlace
  some { (l.push t) with
    outerPlaces := l.place :: l.outerPlaces, place := none, keyAllowed := true,
    cursor := l.cursor.next }

/-- The end of a flow collection. -/
def closeFlow (l : Lexer) (t : Token) : Option Lexer := do
  let l ← l.dropPlace
  let (place, outerPlaces) := match l.outerPlaces with
    | p :: ps => (p, ps)
    | [] => (none, [])
  some { (l.push t) with
    place := place, outerPlaces := outerPlaces, keyAllowed := false, cursor := l.cursor.next }

/-- A comma between the entries of a flow collection. -/
def takeFlowEntry (l : Lexer) : Option Lexer := do
  let l ← l.dropPlace
  some { (l.push .flowEntry) with keyAllowed := true, cursor := l.cursor.next }

/-- A dash in front of an item of a sequence. -/
def takeBlockEntry (l : Lexer) : Option Lexer :=
  if !l.inFlow && !l.keyAllowed then none
  else do
    let l := l.openBlock l.cursor.column none .blockSequenceStart
    let l ← l.dropPlace
    some { (l.push .blockEntry) with keyAllowed := true, cursor := l.cursor.next }

/-- A question mark in front of a key. -/
def takeKey (l : Lexer) : Option Lexer :=
  if !l.inFlow && !l.keyAllowed then none
  else do
    let l := l.openBlock l.cursor.column none .blockMappingStart
    let l ← l.dropPlace
    some { (l.push .key) with keyAllowed := !l.inFlow, cursor := l.cursor.next }

/-- The place of the last possible key, if it is on this line and near enough; none at all if
a key had to begin there and cannot any more. -/
def currentPlace (l : Lexer) : Option (Option KeyPlace) :=
  match l.place with
  | none => some none
  | some p =>
    if p.line < l.cursor.line || p.index + 1024 < l.cursor.index then
      if p.required then none else some none
    else some (some p)

/-- A colon in front of a value. -/
def takeValue (l : Lexer) : Option Lexer := do
  match ← l.currentPlace with
  | some p =>
    let l := l.insertAt p.number .key
    let l := l.openBlock p.column (some p.number) .blockMappingStart
    some { (l.push .value) with place := none, keyAllowed := false, cursor := l.cursor.next }
  | none =>
    let l := { l with place := none }
    if !l.inFlow && !l.keyAllowed then none
    else
      let l := l.openBlock l.cursor.column none .blockMappingStart
      some { (l.push .value) with keyAllowed := !l.inFlow, cursor := l.cursor.next }

/-- A block scalar. -/
def takeBlockScalar (l : Lexer) (literal : Bool) : Option Lexer := do
  let l ← l.dropPlace
  let (text, c) ← takeBlock literal l.indent l.cursor.next
  some { (l.push (.scalar (String.ofList text) (if literal then .literal else .folded))) with
    keyAllowed := true, cursor := c }

/-- A quoted scalar. -/
def takeQuotedScalar (l : Lexer) (single : Bool) : Option Lexer := do
  let l ← l.savePlace
  let (text, c) ← takeQuoted single (l.cursor.rest.length + 1) l.cursor.next []
  some { (l.push (.scalar (String.ofList text) (if single then .singleQuoted else .doubleQuoted)))
    with keyAllowed := false, cursor := c }

/-- A plain scalar. -/
def takePlainScalar (l : Lexer) : Option Lexer := do
  let l ← l.savePlace
  let (text, c, broken) ←
    takePlain l.inFlow (l.indent + 1) (l.cursor.rest.length + 1) l.cursor [] Gap.none
  some { (l.push (.scalar (String.ofList text) .plain)) with keyAllowed := broken, cursor := c }

/-- Whether a plain scalar may begin with a character in front of a text. -/
def beginsPlain (flow : Bool) (c : Char) (r : List Char) : Bool :=
  let blankNext := match r with
    | [] => false
    | d :: _ => isBlank d
  (!isBlank c && !indicators.contains c)
    || (c = '-' && !blankNext)
    || (!flow && (c = '?' || c = ':') && !blankAhead r)

/-- The end of the text. -/
def finish (l : Lexer) : Option Lexer := do
  let l ← (l.closeBlocks (-1)).dropPlace
  some (l.push .streamEnd)

/-- The next token of a text that does not end here. -/
def step (l : Lexer) (c : Char) (r : List Char) : Option Lexer :=
  let start := l.cursor.column = 0
  if start && c = '%' then l.takeDirective
  else if l.cursor.atMark '-' then l.takeDocumentMark .documentStart
  else if l.cursor.atMark '.' then l.takeDocumentMark .documentEnd
  else if c = '[' then l.openFlow .flowSequenceStart
  else if c = '{' then l.openFlow .flowMappingStart
  else if c = ']' then l.closeFlow .flowSequenceEnd
  else if c = '}' then l.closeFlow .flowMappingEnd
  else if c = ',' then l.takeFlowEntry
  else if c = '-' && blankAhead r then l.takeBlockEntry
  else if c = '?' && (l.inFlow || blankAhead r) then l.takeKey
  else if c = ':' && (l.inFlow || blankAhead r) then l.takeValue
  else if c = '*' then l.savePlace.bind fun l => l.takeName .alias
  else if c = '&' then l.savePlace.bind fun l => l.takeName .anchor
  else if c = '!' then l.savePlace.bind takeTag
  else if c = '|' && !l.inFlow then l.takeBlockScalar true
  else if c = '>' && !l.inFlow then l.takeBlockScalar false
  else if c = '\x27' then l.takeQuotedScalar true
  else if c = '"' then l.takeQuotedScalar false
  else if beginsPlain l.inFlow c r then l.takePlainScalar
  else none

/-- All tokens of a text; `fuel` bounds their number. -/
def run : Nat → Lexer → Option Lexer
  | 0, _ => none
  | fuel + 1, l =>
    let l := skipToToken (l.cursor.rest.length + 1) l
    let l := l.closeBlocks l.cursor.column
    match l.cursor.rest with
    | [] => l.finish
    | c :: r => (l.step c r).bind (run fuel)

end Lexer

/-- The tokens of a text, or none if it is no YAML. -/
def tokens? (s : String) : Option (List Token) :=
  let cs := s.toList
  if cs.all isAllowed then
    (Lexer.run (cs.length + 2) (Lexer.start cs)).map fun l => l.tokens.toList
  else none

end TaskDesk.Yaml
