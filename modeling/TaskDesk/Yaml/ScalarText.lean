import TaskDesk.Yaml.Token

/-!
# Scalars in a YAML text

The text of a scalar is read in one of four ways: plain, in single quotes, in double quotes
with escapes, or as a block that keeps or folds its lines.  A line break inside a plain or a
quoted scalar is folded: one break becomes a blank, of several the first is dropped.
-/

namespace TaskDesk.Yaml

open TaskDesk.Text

/-- Blanks and breaks between two words of a scalar: the blanks while no break was seen, the
first break, and the breaks after it. -/
structure Gap where
  blanks : List Char
  first : List Char
  more : List Char
  broken : Bool

namespace Gap

/-- Nothing between two words. -/
def none : Gap := ⟨[], [], [], false⟩

/-- What a gap contributes to the text. -/
def folded (g : Gap) : List Char :=
  if g.broken then
    match g.first with
    | '\n' :: _ => if g.more = [] then [' '] else g.more
    | first => first ++ g.more
  else g.blanks

end Gap

/-- Blanks and breaks from a place on.  In a plain scalar a tab that stands where a line
must be indented is refused; `least` is the column that a line must reach. -/
def takeGap (plain : Bool) (least : Int) : Nat → Cursor → Gap → Option (Gap × Cursor)
  | 0, _, _ => none
  | fuel + 1, c, g =>
    match c.rest with
    | b :: _ =>
      if isBlank b then
        if plain && g.broken && (c.column : Int) < least && b = '\t' then none
        else if g.broken then takeGap plain least fuel c.next g
        else takeGap plain least fuel c.next { g with blanks := g.blanks ++ [b] }
      else if isBreak b then
        let (br, c) := c.takeBreak
        if g.broken then takeGap plain least fuel c { g with more := g.more ++ br }
        else takeGap plain least fuel c { g with blanks := [], first := br, broken := true }
      else some (g, c)
    | [] => some (g, c)

/-- The characters that begin or end a collection in flow style, or separate its entries. -/
def isFlowIndicator (c : Char) : Bool :=
  c = ',' || c = '[' || c = ']' || c = '{' || c = '}'

/-- The word of a plain scalar from a place on; none where a colon stands that must not. -/
def takeWord (flow : Bool) : Nat → Cursor → List Char → Option (List Char × Cursor)
  | 0, _, _ => none
  | fuel + 1, c, word =>
    match c.rest with
    | [] => some (word, c)
    | d :: r =>
      let after := r.head?.getD ' '
      if isBlank d || isBreak d then some (word, c)
      else if flow && d = ':' && (isFlowIndicator after || after = '?') then none
      else if (d = ':' && blankAhead r) || (flow && isFlowIndicator d) then some (word, c)
      else takeWord flow fuel c.next (word ++ [d])

/-- A plain scalar.  The last component of the result tells whether the scalar was ended by a
line break. -/
def takePlain (flow : Bool) (least : Int) :
    Nat → Cursor → List Char → Gap → Option (List Char × Cursor × Bool)
  | 0, _, _, _ => none
  | fuel + 1, c, text, gap =>
    if c.atDocumentMark || c.rest.head? = some '#' then some (text, c, gap.broken)
    else do
      let (word, c) ← takeWord flow (c.rest.length + 1) c []
      let joined := if word = [] then text else text ++ gap.folded ++ word
      let gap := if word = [] then gap else Gap.none
      match c.rest with
      | d :: _ =>
        if isBlank d || isBreak d then
          let (g, c) ← takeGap true least (c.rest.length + 1) c gap
          if !flow && (c.column : Int) < least then some (joined, c, g.broken)
          else takePlain flow least fuel c joined g
        else some (joined, c, gap.broken)
      | [] => some (joined, c, gap.broken)

/-- The character that a letter after a backslash stands for. -/
private def simpleEscape? : Char → Option Char
  | '0' => some '\x00'
  | 'a' => some '\x07'
  | 'b' => some '\x08'
  | 't' => some '\t'
  | '\t' => some '\t'
  | 'n' => some '\n'
  | 'v' => some '\x0b'
  | 'f' => some '\x0c'
  | 'r' => some '\r'
  | 'e' => some '\x1b'
  | ' ' => some ' '
  | '"' => some '"'
  | '/' => some '/'
  | '\\' => some '\\'
  | 'N' => some '\x85'
  | '_' => some '\xa0'
  | 'L' => some '\u2028'
  | 'P' => some '\u2029'
  | _ => none

/-- The number of hexadecimal digits that a letter after a backslash asks for. -/
private def escapeWidth? : Char → Option Nat
  | 'x' => some 2
  | 'u' => some 4
  | 'U' => some 8
  | _ => none

/-- The character of an escape and the number of characters that the escape takes. -/
def escape? : List Char → Option (Char × Nat)
  | '\\' :: e :: r =>
    match simpleEscape? e, escapeWidth? e with
    | some c, _ => some (c, 2)
    | none, some w =>
      let ds := r.take w
      if ds.length = w then
        (inBase? 16 ds).bind fun n =>
          if (0xD800 ≤ n ∧ n ≤ 0xDFFF) ∨ 0x10FFFF < n then none else some (Char.ofNat n, 2 + w)
      else none
    | none, none => none
  | _ => none

/-- A quoted scalar after its opening quote. -/
def takeQuoted (single : Bool) : Nat → Cursor → List Char → Option (List Char × Cursor)
  | 0, _, _ => none
  | fuel + 1, c, text =>
    if c.atDocumentMark then none
    else
      match c.rest with
      | [] => none
      | d :: r =>
        if isBlank d || isBreak d then do
          let (g, c) ← takeGap false 0 (c.rest.length + 1) c Gap.none
          takeQuoted single fuel c (text ++ g.folded)
        else if single then
          match d, r with
          | '\x27', '\x27' :: _ => takeQuoted single fuel (c.skip 2) (text ++ ['\x27'])
          | '\x27', _ => some (text, c.next)
          | _, _ => takeQuoted single fuel c.next (text ++ [d])
        else if d = '"' then some (text, c.next)
        else if d = '\\' then
          if r ≠ [] && breakAhead r then do
            let after := c.next.skipBreak
            let gap : Gap := { Gap.none with broken := true }
            let (g, c) ← takeGap false 0 (c.rest.length + 1) after gap
            takeQuoted single fuel c (text ++ g.more)
          else
            (escape? c.rest).bind fun (e, n) => takeQuoted single fuel (c.skip n) (text ++ [e])
        else takeQuoted single fuel c.next (text ++ [d])

/-- What becomes of the line breaks at the end of a block scalar. -/
inductive Chomping where
  | strip
  | clip
  | keep
deriving DecidableEq

/-- The header of a block scalar after its indicator, chomping and indentation in any order,
and the number of its characters.  An indentation of 0 is refused. -/
def blockHeader? (s : List Char) : Option (Chomping × Option Nat × Nat) :=
  let chomp? : List Char → Option Chomping
    | '+' :: _ => some .keep
    | '-' :: _ => some .strip
    | _ => none
  let digit? : List Char → Option Nat
    | d :: _ => if d.isDigit then some (digitValue d) else none
    | [] => none
  let (chomp, indent, count) : Option Chomping × Option Nat × Nat :=
    match chomp? s, digit? s with
    | some k, _ => (some k, digit? (s.drop 1), if (digit? (s.drop 1)).isSome then 2 else 1)
    | none, some n => (chomp? (s.drop 1), some n, if (chomp? (s.drop 1)).isSome then 2 else 1)
    | none, none => (none, none, 0)
  if indent = some 0 then none else some (chomp.getD .clip, indent, count)

/-- The place after the indentation and the empty lines in front of a line of a block scalar,
with their breaks and the widest indentation seen.  The indentation is not known yet if
`indent` is 0. -/
private def blockBreaks (indent : Int) :
    Nat → Cursor → List Char → Nat → Option (List Char × Nat × Cursor)
  | 0, _, _, _ => none
  | fuel + 1, c, breaks, widest =>
    match c.rest with
    | d :: _ =>
      let inside := indent = 0 || (c.column : Int) < indent
      if inside && d = ' ' then blockBreaks indent fuel c.next breaks widest
      else if inside && d = '\t' then none
      else
        let widest := max widest c.column
        if isBreak d then
          let (br, c) := c.takeBreak
          blockBreaks indent fuel c (breaks ++ br) widest
        else some (breaks, widest, c)
    | [] => some (breaks, max widest c.column, c)

/-- The lines of a block scalar of a known indentation. -/
private def blockLines (literal : Bool) (indent : Int) :
    Nat → Cursor → List Char → List Char → List Char → Bool →
      Option (List Char × List Char × List Char × Cursor)
  | 0, _, _, _, _, _ => none
  | fuel + 1, c, text, lead, trail, leadBlank =>
    match c.rest with
    | d :: _ =>
      if (c.column : Int) = indent then
        let blank := isBlank d
        let glue :=
          if !literal && lead.head? = some '\n' && !leadBlank && !blank then
            if trail = [] then [' '] else []
          else lead
        let line := c.rest.takeWhile fun d => !isBreak d
        let (br, after) := (c.skip line.length).takeBreak
        match blockBreaks indent (after.rest.length + 1) after [] 0 with
        | none => none
        | some (breaks, _, after) =>
          blockLines literal indent fuel after (text ++ glue ++ trail ++ line) br breaks blank
      else some (text, lead, trail, c)
    | [] => some (text, lead, trail, c)

/-- A block scalar after its indicator, inside a block of the given indentation. -/
def takeBlock (literal : Bool) (outer : Int) (c : Cursor) : Option (List Char × Cursor) := do
  let (chomp, increment, count) ← blockHeader? c.rest
  let c := (c.skip count).skipWhile isBlank
  let c := if c.rest.head? = some '#' then c.skipWhile fun d => !isBreak d else c
  if !breakAhead c.rest then none
  else
    let c := c.skipBreak
    let known : Int := match increment with
      | some n => if 0 ≤ outer then outer + n else n
      | none => 0
    let fuel := c.rest.length + 1
    let (breaks, widest, c) ← blockBreaks known fuel c [] 0
    let indent := if known = 0 then max (max (widest : Int) (outer + 1)) 1 else known
    let (text, lead, trail, c) ← blockLines literal indent fuel c [] [] breaks false
    let kept := match chomp with
      | .strip => text
      | .clip => text ++ lead
      | .keep => text ++ lead ++ trail
    some (kept, c)

end TaskDesk.Yaml
