import TaskDesk.Yaml.ScalarText
import TaskDesk.Yaml12.Cursor

/-!
# Scalars in a YAML 1.2 text

The text of a scalar is plain, quoted, or a block that keeps or folds its lines.  All line
breaks are read as line feeds.  In a plain or a quoted scalar one break becomes a blank, and
of several the first is dropped.
-/

namespace TaskDesk.Yaml12

open Yaml (isBlank isFlowIndicator escape? Chomping blockHeader?)

/-- What stands between two words of a scalar: blanks, or line breaks.  Of the breaks, `more`
are kept; if there are none of these, `folds` tells whether a blank stands for them all. -/
inductive Gap where
  | blanks (s : List Char)
  | breaks (folds : Bool) (more : Nat)

/-- What a gap contributes to the text. -/
def Gap.text : Gap → List Char
  | .blanks s => s
  | .breaks true 0 => [' ']
  | .breaks _ more => List.replicate more '\n'

/-- The gap with one more blank; in front of a line blanks do not count. -/
def Gap.addBlank (b : Char) : Gap → Gap
  | .blanks s => .blanks (s ++ [b])
  | g => g

/-- The gap with one more break.  The break of a line with nothing but blanks in it is kept. -/
def Gap.addBreak (emptyLine : Bool) : Gap → Gap
  | .breaks folds more => if emptyLine then .breaks folds (more + 1) else .breaks true more
  | .blanks _ => .breaks true 0

/-- Blanks and breaks from a place on.  Where a line must be indented to the column `least`,
a tab is refused, unless in a plain scalar nothing else stands in the line. -/
def takeGap (plain : Bool) (least : Int) : Nat → Cursor → Gap → Option (Gap × Cursor)
  | 0, _, _ => none
  | fuel + 1, c, g =>
    match c.rest with
    | b :: _ =>
      if isBlank b then
        if b = '\t' && c.leading && (c.column : Int) < least then
          if plain then c.finishLine?.bind fun c => takeGap plain least fuel c g else none
        else takeGap plain least fuel (c.skipBlanks 1) (g.addBlank b)
      else if isBreak b then takeGap plain least fuel c.skipBreak (g.addBreak c.leading)
      else some (g, c)
    | [] => some (g, c)

/-- The word of a plain scalar at the beginning of a text. -/
def plainWord (flow : Bool) : List Char → List Char
  | [] => []
  | d :: r =>
    let colonEnds := blankAhead r || (flow && r.head?.any isFlowIndicator)
    if isBlank d || isBreak d || (d = ':' && colonEnds) || (flow && isFlowIndicator d) then []
    else d :: plainWord flow r

/-- Whether a text begins with a dash in front of an indicator of flow style. -/
def dashAtIndicator : List Char → Bool
  | '-' :: d :: _ => isFlowIndicator d
  | _ => false

/-- A plain scalar; every line but the first must reach the column `least`. -/
def takePlain (flow : Bool) (least : Int) :
    Nat → Cursor → List Char → Gap → Option (List Char × Cursor)
  | 0, _, _, _ => none
  | fuel + 1, c, text, gap =>
    if c.atDocumentMark || c.rest.head? = some '#' then some (text, c)
    else if flow && dashAtIndicator c.rest then none
    else
      let word := plainWord flow c.rest
      let text := if word = [] then text else text ++ gap.text ++ word
      let c := c.skip word.length
      if !c.rest.isEmpty && blankAhead c.rest then do
        let (gap, c) ← takeGap true least (c.rest.length + 1) c (.blanks [])
        if !flow && (c.column : Int) < least then some (text, c)
        else takePlain flow least fuel c text gap
      else some (text, c)

/-- The quote around a quoted scalar. -/
def quote (single : Bool) : Char :=
  if single then '\x27' else '"'

/-- The characters of a quoted scalar up to a blank, a line end or the closing quote, in front
of the reversed characters that were read.  The last component of the result tells whether a
backslash stood at the end of the line. -/
def quotedWord (single : Bool) : Nat → Cursor → List Char → Option (List Char × Cursor × Bool)
  | 0, _, _ => none
  | fuel + 1, c, word =>
    match c.rest with
    | [] => some (word.reverse, c, false)
    | d :: r =>
      if isBlank d || isBreak d then some (word.reverse, c, false)
      else if d = quote single then
        if single && r.head? = some d then quotedWord single fuel (c.skip 2) (d :: word)
        else some (word.reverse, c, false)
      else if d = '\\' && !single then
        if !r.isEmpty && breakAhead r then some (word.reverse, (c.skip 1).skipBreak, true)
        else (escape? c.rest).bind fun (e, n) => quotedWord single fuel (c.skip n) (e :: word)
      else quotedWord single fuel (c.skip 1) (d :: word)

/-- A quoted scalar after its opening quote, inside a block of the given indentation. -/
def takeQuoted (single : Bool) (indent : Int) : Nat → Cursor → List Char →
    Option (List Char × Cursor)
  | 0, _, _ => none
  | fuel + 1, c, text =>
    if c.atDocumentMark || c.rest.isEmpty || (c.column : Int) < indent then none
    else do
      let (word, c, joined) ← quotedWord single (c.rest.length + 1) c []
      let text := text ++ word
      if c.rest.head? = some (quote single) then some (text, c.skip 1)
      else
        let gap := if joined then Gap.breaks false 0 else Gap.blanks []
        let (gap, c) ← takeGap false indent (c.rest.length + 1) c gap
        takeQuoted single indent fuel c (text ++ gap.text)

/-- The place after the indentation and the empty lines in front of a line of a block scalar,
with the number of their breaks and the widest indentation seen.  At most `limit` columns
are indentation, if that is given. -/
def passMargin (limit : Option Nat) : Nat → Cursor → Nat → Nat → Nat × Nat × Cursor
  | 0, c, breaks, widest => (breaks, widest, c)
  | fuel + 1, c, breaks, widest =>
    let spaces := (c.rest.takeWhile (· = ' ')).length
    let c := c.skipBlanks (limit.elim spaces fun n => min spaces (n - c.column))
    let widest := max widest c.column
    if !c.rest.isEmpty && breakAhead c.rest then
      passMargin limit fuel c.skipBreak (breaks + 1) widest
    else (breaks, widest, c)

/-- The lines of a block scalar after their text, the break and the empty lines in front of
them: the text of all, the break and the number of empty lines after them. -/
def takeLines (literal : Bool) (indent : Nat) :
    Nat → Cursor → List Char → Bool → Nat → Bool → List Char × Bool × Nat × Cursor
  | 0, c, text, broken, empty, _ => (text, broken, empty, c)
  | fuel + 1, c, text, broken, empty, afterBlank =>
    if c.column ≠ indent || c.rest.isEmpty then (text, broken, empty, c)
    else
      let blank := c.rest.head?.any isBlank
      let breaks := List.replicate empty '\n'
      let glue :=
        if literal || !broken || afterBlank || blank then (if broken then ['\n'] else []) ++ breaks
        else if empty = 0 then [' ']
        else breaks
      let text := text ++ glue ++ c.rest.takeWhile fun d => !isBreak d
      let c := c.skipLine
      if c.rest.isEmpty then (text, false, 0, c)
      else
        let (empty, _, c) := passMargin (some indent) (c.rest.length + 1) c.skipBreak 0 0
        takeLines literal indent fuel c text true empty blank

/-- A block scalar after its indicator, inside a block of the given indentation. -/
def takeBlock (literal : Bool) (outer : Int) (c : Cursor) : Option (List Char × Cursor) := do
  let (chomp, increment, count) ← blockHeader? c.rest
  let c ← (c.skip count).finishLine?
  let started := !c.rest.isEmpty
  let c := c.skipBreak
  if c.rest.head? = some '\t' then none
  else
    let fuel := c.rest.length + 1
    let known := increment.map fun n => ((if 0 ≤ outer then outer + n else n) : Int).toNat
    let (empty, widest, c) := passMargin known fuel c 0 0
    let indent := known.getD (max widest (outer + 1).toNat)
    if c.rest.isEmpty then
      let text := match chomp with
        | .strip => []
        | .clip => if started then ['\n'] else []
        | .keep => if started then List.replicate (max empty 1) '\n' else []
      some (text, c)
    else if c.column < indent && outer < c.column then none
    else
      let (text, broken, empty, c) := takeLines literal indent fuel c [] false empty false
      let text := match chomp with
        | .strip => text
        | _ =>
          text ++ (if broken then ['\n'] else [])
            ++ if c.rest.isEmpty && max indent 1 ≤ c.column then ['\n'] else []
      some (if chomp = .keep then text ++ List.replicate empty '\n' else text, c)

end TaskDesk.Yaml12
