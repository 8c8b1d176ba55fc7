import TaskDesk.Yaml.Uri
import TaskDesk.Yaml12.Scalar

/-!
# The tokens of a YAML 1.2 text

`tokens?` takes a YAML 1.2 text apart.  Blocks are opened and closed by indentation.  What
stands in a line after a key or a dash must be indented by one column more than its block;
this level is no block of its own, and the lexer keeps levels of both kinds.  A scalar or a
collection may turn out to be a key only when a colon follows it, so the place of the last
possible key of every open flow collection is kept.  A pair in a flow sequence is a mapping
of one entry, whose tokens are put around it.
-/

namespace TaskDesk.Yaml12

open TaskDesk.Text (splitDigits digits?)
open Yaml (Token KeyPlace isBlank isFlowIndicator)

/-- What the lexer has read, and the state of the blocks and flow collections around it.  The
outer levels are the indentations outside the current one, each with whether the level inside
it is a block.  A colon may stand without a blank after it at the index `adjacent`.  For every
open flow sequence `pairs` tells whether a pair is open in it; none is opened where a flow
mapping or a question mark has begun. -/
structure Lexer where
  cursor : Cursor
  tokens : Array Token
  indent : Int
  outer : List (Int × Bool)
  place : Option KeyPlace
  outerPlaces : List (Option KeyPlace)
  keyAllowed : Bool
  adjacent : Nat
  pairs : List Bool
  inMapping : Bool

namespace Lexer

/-- The lexer at the beginning of a text. -/
def start (s : List Char) : Lexer :=
  ⟨Cursor.start s, #[], -1, [], none, [], true, 0, [], false⟩

/-- The greatest number of flow collections that are open at one place. -/
def flowLimit : Nat := 255

/-- Whether the lexer is inside a flow collection. -/
def inFlow (l : Lexer) : Bool :=
  !l.outerPlaces.isEmpty

/-- The lexer with one more token. -/
def push (l : Lexer) (t : Token) : Lexer :=
  { l with tokens := l.tokens.push t }

/-- The lexer with a token put in front of the token of the given number. -/
def insertAt (l : Lexer) (n : Nat) (t : Token) : Lexer :=
  { l with tokens := l.tokens.extract 0 n ++ #[t] ++ l.tokens.extract n l.tokens.size }

/-- Whether the current level is a block. -/
def atBlock (l : Lexer) : Bool :=
  l.outer.head?.any Prod.snd

/-- Leaves the current level if it is no block. -/
def leaveMargin (l : Lexer) : Lexer :=
  match l.outer with
  | (i, false) :: rest => { l with indent := i, outer := rest }
  | _ => l

/-- Inside a block, the level one column further, which is no block. -/
def enterMargin (l : Lexer) : Lexer :=
  if !l.inFlow && l.atBlock then
    { l with outer := (l.indent, false) :: l.outer, indent := l.indent + 1 }
  else l

/-- Opens a block at a column that is beyond the current block, with its token at the given
place or at the end. -/
def openBlock (l : Lexer) (column : Nat) (number : Option Nat) (t : Token) : Lexer :=
  if l.inFlow then l
  else
    let l := if l.indent ≤ column then l.leaveMargin else l
    if l.indent < column then
      let l := { l with outer := (l.indent, true) :: l.outer, indent := column }
      match number with
      | some n => l.insertAt n t
      | none => l.push t
    else l

/-- Closes the levels that lie beyond a column. -/
def closeBlocks (l : Lexer) (column : Int) : Lexer :=
  if l.inFlow then l else go l.outer l
where
  go : List (Int × Bool) → Lexer → Lexer
    | [], l => l
    | (i, block) :: rest, l =>
      if column < l.indent then
        let l := if block then l.push .blockEnd else l
        go rest { l with indent := i, outer := rest }
      else l

/-- Gives up the place of the last possible key; none if a key had to begin there. -/
def dropPlace (l : Lexer) : Option Lexer :=
  if l.place.any KeyPlace.required then none else some { l with place := none }

/-- Gives up the place of the last possible key if it is not on this line or too far back;
none if a key had to begin there.  In a flow collection a key may be anywhere. -/
def dropStalePlace (l : Lexer) : Option Lexer :=
  let isStale (p : KeyPlace) : Bool :=
    !l.inFlow && (p.line < l.cursor.line || p.index + 1024 < l.cursor.index)
  if l.place.any isStale then l.dropPlace else some l

/-- Notes that a key may begin here. -/
def savePlace (l : Lexer) : Lexer :=
  if l.keyAllowed then
    let required := !l.inFlow && l.indent = l.cursor.column && l.atBlock
    let place : KeyPlace :=
      ⟨l.tokens.size, l.cursor.index, l.cursor.line, l.cursor.column, required⟩
    { l with place := some place }
  else l

/-- The lexer after the blanks and the comment that may follow a token in its line. -/
def passBlanks (l : Lexer) : Option Lexer :=
  l.cursor.passBlanks?.map fun c => { l with cursor := c }

/-- Moves over blanks, comments and line ends to the next token.  A tab in front of the
indentation of a block is allowed in an empty line only. -/
def skipToToken : Nat → Lexer → Option Lexer
  | 0, l => some l
  | fuel + 1, l =>
    let c := l.cursor
    match c.rest with
    | d :: _ =>
      if d = '\t' && !l.outer.isEmpty && c.leading && (c.column : Int) < l.indent then
        c.finishLine?.bind fun c => skipToToken fuel { l with cursor := c }
      else if isBlank d then skipToToken fuel { l with cursor := c.skipBlanks 1 }
      else if isBreak d then
        skipToToken fuel { l with cursor := c.skipBreak, keyAllowed := l.keyAllowed || !l.inFlow }
      else if d = '#' then skipToToken fuel { l with cursor := c.skipLine }
      else some l
    | [] => some l

/-- The characters of the handles of tags and of the names of directives. -/
def isWordChar (c : Char) : Bool :=
  c.isAlphanum || c = '-' || c = '_'

/-- The characters of a URI. -/
def isUriChar (c : Char) : Bool :=
  isWordChar c || "#;/?:@&=+$,.!~*'()[]%".toList.contains c

/-- The characters of a tag. -/
def isTagChar (c : Char) : Bool :=
  isUriChar c && !isFlowIndicator c && c ≠ '!'

/-- The character that octets stand for, one after the other in base 256. -/
def ofOctets? (octets : List Nat) : Option (List Char) :=
  let n := octets.foldl (fun n o => 256 * n + o) 0
  if n.isValidChar then some [Char.ofNat n] else none

/-- The characters here that satisfy a test, escapes decoded, and the place after them. -/
def takeUri (test : Char → Bool) (c : Cursor) : Option (List Char × Cursor) :=
  (Yaml.Uri.take? test ofOctets? (c.rest.length + 1) c.rest).map fun (s, n) => (s, c.skip n)

/-- An anchor or an alias. -/
def takeName (l : Lexer) (token : String → Token) : Option Lexer :=
  let c := l.cursor.skip 1
  let isNameChar (d : Char) : Bool :=
    !isBlank d && !isBreak d && !isFlowIndicator d && d ≠ '\ufeff'
  let name := c.rest.takeWhile isNameChar
  if name = [] then none
  else
    let l := { l.savePlace with cursor := c.skip name.length, keyAllowed := false }
    some (l.push (token (String.ofList name)))

/-- A tag. -/
def takeTag (l : Lexer) : Option Lexer := do
  let c := l.cursor
  let (handle, suffix, c) ← match c.rest with
    | '!' :: '<' :: _ => do
      let (uri, c) ← takeUri isUriChar (c.skip 2)
      if c.rest.head? = some '>' then some ([], uri, c.skip 1) else none
    | _ => do
      let c := c.skip 1
      let name := c.rest.takeWhile isWordChar
      let c := c.skip name.length
      if c.rest.head? = some '!' then
        let (suffix, c) ← takeUri isTagChar (c.skip 1)
        if suffix = [] then none else some ('!' :: name ++ ['!'], suffix, c)
      else
        let (more, c) ← takeUri isTagChar c
        let suffix := name ++ more
        if suffix = [] then some ([], ['!'], c) else some (['!'], suffix, c)
  if blankAhead c.rest || (l.inFlow && c.rest.head?.any isFlowIndicator) then
    let l := { l.savePlace with cursor := c, keyAllowed := false }
    some (l.push (.tag (String.ofList handle) (String.ofList suffix)))
  else none

/-- A number of a version, of at most nine digits. -/
def takeVersion (c : Cursor) : Option (Nat × Cursor) :=
  let (digits, _) := splitDigits c.rest
  if digits.length ≤ 9 then (digits? digits).map fun n => (n, c.skip digits.length) else none

/-- The handle of a tag and what it stands for. -/
def takeHandle (c : Cursor) : Option (Token × Cursor) := do
  let skipBlanks (c : Cursor) : Cursor := c.skipBlanks (c.rest.takeWhile isBlank).length
  let (handle, c) ← match c.rest with
    | '!' :: r =>
      let name := r.takeWhile isWordChar
      match r.drop name.length with
      | '!' :: _ => some ('!' :: name ++ ['!'], c.skip (name.length + 2))
      | _ => if name = [] then some (['!'], c.skip 1) else none
    | _ => none
  let c := skipBlanks c
  let opens := c.rest.head?.any fun d => d = '!' || isTagChar d
  let (tag, c) ← if opens then takeUri isUriChar c else none
  if blankAhead c.rest then some (.tagDirective (String.ofList handle) (String.ofList tag), c)
  else none

/-- A directive; one of an unknown name declares nothing. -/
def takeDirective (l : Lexer) : Option Lexer := do
  let l ← (l.closeBlocks (-1)).dropPlace
  let c := l.cursor.skip 1
  let name := c.rest.takeWhile isWordChar
  let c := c.skip name.length
  if name = [] || !blankAhead c.rest then none
  else
    let value := c.skipBlanks (c.rest.takeWhile isBlank).length
    let (token, c) ← match String.ofList name with
      | "YAML" => do
        let (major, c) ← takeVersion value
        if c.rest.head? = some '.' then
          let (minor, c) ← takeVersion (c.skip 1)
          some (Token.versionDirective major minor, c)
        else none
      | "TAG" => takeHandle value
      | _ => some (Token.tagDirective "" "", c.skipLine)
    let c ← c.finishLine?
    some { (l.push token) with cursor := c.skipBreak, keyAllowed := false }

/-- A mark of the start of a document, or of its end, which nothing follows in its line. -/
def takeDocumentMark (l : Lexer) (isEnd : Bool) : Option Lexer := do
  let l ← (l.closeBlocks (-1)).dropPlace
  let c := l.cursor.skip 3
  let c ← if isEnd then c.finishLine? else some c
  some { (l.push (if isEnd then .documentEnd else .documentStart)) with
    cursor := c, keyAllowed := false }

/-- The beginning of a flow collection. -/
def openFlow (l : Lexer) (isMapping : Bool) : Option Lexer := do
  let l := l.savePlace.enterMargin
  if flowLimit ≤ l.outerPlaces.length then none
  else
    let l := { l with
      outerPlaces := l.place :: l.outerPlaces, place := none, keyAllowed := true,
      cursor := l.cursor.skip 1, inMapping := l.inMapping || isMapping,
      pairs := if isMapping then l.pairs else false :: l.pairs }
    let l ← l.passBlanks
    some (l.push (if isMapping then .flowMappingStart else .flowSequenceStart))

/-- Closes the pair that is open in the innermost flow sequence. -/
def closePair (l : Lexer) : Lexer :=
  match l.pairs with
  | true :: rest => { (l.push .flowMappingEnd) with inMapping := false, pairs := false :: rest }
  | _ => l

/-- The end of a flow collection. -/
def closeFlow (l : Lexer) (isMapping : Bool) : Option Lexer := do
  let l ← l.dropPlace
  let (place, outerPlaces) := match l.outerPlaces with
    | p :: ps => (p, ps)
    | [] => (none, [])
  let l := { l with place := place, outerPlaces := outerPlaces, keyAllowed := false }
  let l := if isMapping then l else { l.closePair with pairs := l.pairs.drop 1 }
  let l ← passBlanks { l with cursor := l.cursor.skip 1 }
  let l := if l.inFlow then { l with adjacent := l.cursor.index } else l
  some (l.push (if isMapping then .flowMappingEnd else .flowSequenceEnd))

/-- A comma between the entries of a flow collection. -/
def takeFlowEntry (l : Lexer) : Option Lexer := do
  let l := (← l.dropPlace).closePair
  let l ← passBlanks { l with keyAllowed := true, cursor := l.cursor.skip 1 }
  some (l.push .flowEntry)

/-- A dash in front of an item of a sequence. -/
def takeBlockEntry (l : Lexer) : Option Lexer := do
  if l.inFlow || !l.keyAllowed then none
  else
    let l := l.openBlock l.cursor.column none .blockSequenceStart
    let c := l.cursor.skip 1
    let tabbed := (c.rest.takeWhile isBlank).contains '\t'
    let c ← c.passBlanks?
    let dashed := match c.rest with
      | '-' :: r => blankAhead r
      | _ => false
    if tabbed && dashed then none
    else
      let l := { l with cursor := c }
      let margin := c.rest.head?.any fun d => isBreak d || isFlowIndicator d
      let l ← (if margin then l.enterMargin else l).dropPlace
      some { (l.push .blockEntry) with keyAllowed := true }

/-- The place after the spaces, comments and line ends behind a question mark, with whether
anything but comments stands there. -/
def skipAfterMark : Nat → Cursor → Bool → Cursor × Bool
  | 0, c, apart => (c, apart)
  | fuel + 1, c, apart =>
    match c.rest with
    | d :: _ =>
      if d = ' ' then skipAfterMark fuel (c.skipBlanks 1) true
      else if isBreak d then skipAfterMark fuel c.skipBreak true
      else if d = '#' then skipAfterMark fuel c.skipLine apart
      else (c, apart)
    | [] => (c, apart)

/-- A question mark in front of a key. -/
def takeKey (l : Lexer) : Option Lexer := do
  if !l.inFlow && !l.keyAllowed then none
  else
    let l := l.openBlock l.cursor.column none .blockMappingStart
    let l ← dropPlace { l with inMapping := l.inMapping || l.inFlow }
    let c := l.cursor.skip 1
    let (c, apart) := skipAfterMark (c.rest.length + 1) c false
    if !apart || c.rest.head? = some '\t' then none
    else some { (l.push .key) with keyAllowed := !l.inFlow, cursor := c }

/-- A colon in front of a value. -/
def takeValue (l : Lexer) : Option Lexer := do
  let line := l.cursor.line
  let column := l.cursor.column
  let pairs := !l.pairs.isEmpty && !l.inMapping
  let l := if pairs then { l with pairs := true :: l.pairs.drop 1 } else l
  let c := l.cursor.skip 1
  let blanks := c.rest.takeWhile isBlank
  let c ← if c.rest.head? = some '\t' then c.passBlanks? else some c
  let tabbed := blanks.head? = some '\t' && !blanks.contains ' '
  if tabbed && c.rest.head?.any isWordChar then none
  else
    let l := { l with cursor := c }
    match l.place with
    | some p =>
      if pairs && p.line < line then none
      else
        let l := l.insertAt p.number .key
        let l := if pairs then l.insertAt p.number .flowMappingStart else l
        let l := (l.openBlock p.column (some p.number) .blockMappingStart).enterMargin
        some { (l.push .value) with place := none, keyAllowed := false }
    | none =>
      let l := if pairs then l.push .flowMappingStart else l
      if !l.inFlow && !l.keyAllowed then none
      else
        let l := (l.openBlock column none .blockMappingStart).enterMargin
        some { (l.push .value) with keyAllowed := !l.inFlow }

/-- A block scalar. -/
def takeBlockScalar (l : Lexer) (literal : Bool) : Option Lexer := do
  let l := l.savePlace.leaveMargin
  let (text, c) ← takeBlock literal l.indent (l.cursor.skip 1)
  some { (l.push (.scalar (String.ofList text) (if literal then .literal else .folded))) with
    keyAllowed := true, cursor := c }

/-- A quoted scalar.  What follows it in its line must be able to follow; a colon only if the
scalar did not begin in a line before. -/
def takeQuotedScalar (l : Lexer) (single : Bool) : Option Lexer := do
  let line := l.cursor.line
  let l := { l.savePlace with keyAllowed := false }
  let (text, c) ← takeQuoted single l.indent (l.cursor.rest.length + 1) (l.cursor.skip 1) []
  let c ← c.passBlanks?
  let follows := match c.rest with
    | d :: _ =>
      isBreak d || (l.inFlow && (d = ',' || d = '}' || d = ']' || d = ':'))
        || (d = ':' && c.line = line)
    | [] => true
  if !follows then none
  else
    let l ← skipToToken (c.rest.length + 1) { l with cursor := c }
    let style := if single then Yaml.Style.singleQuoted else Yaml.Style.doubleQuoted
    some { (l.push (.scalar (String.ofList text) style)) with adjacent := l.cursor.index }

/-- A plain scalar. -/
def takePlainScalar (l : Lexer) : Option Lexer := do
  let l := { l.savePlace with keyAllowed := false }.leaveMargin
  let least := l.indent + 1
  if l.inFlow && (l.cursor.column : Int) < least then none
  else
    let (text, c) ←
      takePlain l.inFlow least (l.cursor.rest.length + 1) l.cursor [] (.blanks [])
    if text = [] then none
    else
      some { (l.push (.scalar (String.ofList text) .plain)) with
        keyAllowed := c.leading, cursor := c }

/-- Whether a colon in front of a text separates a key from its value. -/
def separates (l : Lexer) (r : List Char) : Bool :=
  blankAhead r || (l.inFlow && (r.head?.any isFlowIndicator || l.cursor.index = l.adjacent))

/-- The end of the text. -/
def finish (l : Lexer) : Option Lexer := do
  if l.outerPlaces.any fun p => p.any KeyPlace.required then none
  else
    let l ← (l.closeBlocks (-1)).dropPlace
    some (l.push .streamEnd)

/-- The next token of a text that does not end here. -/
def step (l : Lexer) (c : Char) (r : List Char) : Option Lexer :=
  if l.cursor.column = 0 && c = '%' then l.takeDirective
  else if l.cursor.atMark '-' then l.takeDocumentMark false
  else if l.cursor.atMark '.' then l.takeDocumentMark true
  else if (l.cursor.column : Int) < l.indent then none
  else if c = '[' then l.openFlow false
  else if c = '{' then l.openFlow true
  else if c = ']' then l.closeFlow false
  else if c = '}' then l.closeFlow true
  else if c = ',' then l.takeFlowEntry
  else if c = '-' && blankAhead r then l.takeBlockEntry
  else if c = '?' && blankAhead r then l.takeKey
  else if c = ':' && l.separates r then l.takeValue
  else if c = '*' then l.takeName .alias
  else if c = '&' then l.takeName .anchor
  else if c = '!' then l.takeTag
  else if c = '|' && !l.inFlow then l.takeBlockScalar true
  else if c = '>' && !l.inFlow then l.takeBlockScalar false
  else if c = '\x27' then l.takeQuotedScalar true
  else if c = '"' then l.takeQuotedScalar false
  else if c = '%' || c = '@' || c = '\x60' then none
  else l.takePlainScalar

/-- All tokens of a text; `fuel` bounds their number. -/
def run : Nat → Lexer → Option Lexer
  | 0, _ => none
  | fuel + 1, l => do
    let l ← skipToToken (l.cursor.rest.length + 1) l
    let l ← l.dropStalePlace
    let l := l.closeBlocks l.cursor.column
    match l.cursor.rest with
    | [] => l.finish
    | c :: r => (l.step c r).bind (run fuel)

end Lexer

/-- The tokens of a text, or none if it is no YAML.  The text ends in front of a null
character. -/
def tokens? (s : String) : Option (List Token) :=
  let cs := s.toList.takeWhile (· ≠ '\x00')
  (Lexer.run (cs.length + 2) (Lexer.start cs)).map fun l => l.tokens.toList

end TaskDesk.Yaml12
