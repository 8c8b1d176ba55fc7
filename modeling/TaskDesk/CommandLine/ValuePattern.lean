import TaskDesk.Text.Alphanumeric
import TaskDesk.Text.Blank
import TaskDesk.Text.Digits

/-!
# Patterns for values

A value in a log filter can be matched with a pattern, which is a regular expression.
`ValuePattern.isValid` tells whether a text is one that can be used: it must be well formed,
what it matches must be text, and it must not need to know the classes of Unicode, which the
matcher has not.  While a pattern is `unicode`, as it is unless told otherwise, this excludes
the classes of digits, blanks and words, word boundaries, and letters in any case.
-/

namespace TaskDesk.ValuePattern

open TaskDesk.Text

/-- How a part of a pattern is to be read: letters in any case, characters instead of bytes,
and without blanks and comments. -/
structure Mode where
  anyCase : Bool
  unicode : Bool
  spaced : Bool
deriving DecidableEq, Repr

/-- The mode at the start of a pattern. -/
def Mode.start : Mode := ⟨false, true, false⟩

/-- A character or what a backslash makes of one: a character by itself or by the number of a
byte, a class, the place at a word boundary, or another place. -/
inductive Item where
  | char (c : Char)
  | byte (c : Char)
  | charClass (negated : Bool)
  | wordPlace
  | place
deriving DecidableEq, Repr

/-- Whether an item can be used outside of brackets. -/
def Item.isUsable (m : Mode) : Item → Bool
  | .char c => if m.unicode then !m.anyCase else c.toNat < 0x80 || !m.anyCase
  | .byte c => if m.unicode then !m.anyCase else c.toNat < 0x80
  | .charClass negated => !m.unicode && !negated
  | .wordPlace => !m.unicode
  | .place => true

/-- Whether an item can be used in brackets. -/
def Item.isMember (m : Mode) : Item → Bool
  | .char c | .byte c => m.unicode || c.toNat < 0x80
  | .charClass negated => !m.unicode && !negated
  | .wordPlace | .place => false

/-- The character that an item is, if it is one. -/
def Item.char? : Item → Option Char
  | .char c | .byte c => some c
  | _ => none

/-- The text after blanks and comments. -/
def dropNotes : List Char → List Char
  | [] => []
  | c :: s =>
    if isBlank c then dropNotes s
    else if c = '#' then dropNotes ((s.dropWhile fun c => c ≠ '\n').drop 1)
    else c :: s
termination_by s => s.length
decreasing_by
  · simp
  · have := (s.dropWhile_sublist fun c => decide (c ≠ '\n')).length_le
    simp only [List.length_drop, List.length_cons]
    omega

/-- The text after what a spaced pattern passes over. -/
def skip (m : Mode) (s : List Char) : List Char :=
  if m.spaced then dropNotes s else s

/-- The characters that say something in a pattern. -/
def marks : List Char :=
  "\\.+*?()|[]\x7b\x7d^$#&-~".toList

/-- The number of a character in so many hexadecimal digits, and what follows. -/
def hex? (m : Mode) : Nat → Nat → List Char → Option (Nat × List Char)
  | 0, n, s => some (n, s)
  | count + 1, n, s =>
    match skip m s with
    | c :: r => (hexValue? c).bind fun d => hex? m count (16 * n + d) r
    | [] => none

/-- The character of a number in hexadecimal digits, and what follows. -/
def hexChar? (m : Mode) (count : Nat) (s : List Char) : Option (Char × List Char) :=
  (hex? m count 0 s).bind fun (n, r) =>
    if n.isValidChar then some (Char.ofNat n, skip m r) else none

/-- The letters that stand for controls after a backslash. -/
def controls : List (Char × Char) :=
  [('a', '\x07'), ('f', '\x0c'), ('t', '\t'), ('n', '\n'), ('r', '\r'), ('v', '\x0b')]

/-- The item after a backslash, and what follows. -/
def escape? (m : Mode) (s : List Char) : Option (Item × List Char) :=
  match s with
  | [] => none
  | 'x' :: r => (hexChar? m 2 r).map fun (c, r) => (.byte c, r)
  | 'u' :: r => (hexChar? m 4 r).map fun (c, r) => (.char c, r)
  | 'U' :: r => (hexChar? m 8 r).map fun (c, r) => (.char c, r)
  | c :: r =>
    if ['d', 's', 'w'].contains c then some (.charClass false, r)
    else if ['D', 'S', 'W'].contains c then some (.charClass true, r)
    else if (controls.lookup c).isSome then (controls.lookup c).map fun d => (.char d, r)
    else if ['A', 'z'].contains c then some (.place, r)
    else if ['b', 'B', '<', '>'].contains c then some (.wordPlace, r)
    else if marks.contains c || (c.toNat < 0x80 && !c.isAlphanum) then some (.char c, r)
    else none

/-- The names of the classes that can be named in brackets. -/
def classNames : List String :=
  ["alnum", "alpha", "ascii", "blank", "cntrl", "digit", "graph", "lower", "print", "punct",
    "space", "upper", "word", "xdigit"]

/-- The name of a class after an opening bracket, whether all other characters are meant, and
what follows. -/
def named? (s : List Char) : Option (Bool × List Char) :=
  match s with
  | ':' :: s =>
    let (negated, s) := match s with
      | '^' :: s => (true, s)
      | s => (false, s)
    match s.dropWhile fun c => c ≠ ':' with
    | ':' :: ']' :: r =>
      if classNames.contains (String.ofList (s.takeWhile fun c => c ≠ ':')) then some (negated, r)
      else none
    | _ => none
  | _ => none

/-- What follows the start of brackets: a mark that negates them, and dashes or a closing
bracket that stand for themselves. -/
def opened? (m : Mode) (s : List Char) : Option (List Char) :=
  let s := skip m s
  let negated := s.head? = some '^'
  let s := if negated then skip m (s.drop 1) else s
  let inner := dashes s.length s
  let inner :=
    if inner.length = s.length && inner.head? = some ']' then skip m (inner.drop 1) else inner
  if inner = [] || (negated && !m.unicode) then none else some inner
where
  dashes : Nat → List Char → List Char
    | fuel + 1, '-' :: s => dashes fuel (skip m s)
    | _, s => s

/-- An item in brackets, and what follows. -/
def member? (m : Mode) (s : List Char) : Option (Item × List Char) :=
  match s with
  | [] => none
  | '\\' :: r => escape? m r
  | c :: r => some (.char c, r)

/-- What follows a dash after an item in brackets, if the dash stands between the two ends of a
range. -/
def rangeEnd? (m : Mode) (s : List Char) : Option (List Char) :=
  match s with
  | '-' :: r =>
    match skip m r with
    | ']' :: _ | '-' :: _ => none
    | r => some r
  | _ => none

/-- What follows the closing bracket; `fuel` bounds the number of items and of brackets
inside. -/
def bracketed? (m : Mode) : Nat → List Char → Option (List Char)
  | 0, _ => none
  | fuel + 1, s =>
    match skip m s with
    | [] => none
    | ']' :: r => some r
    | '[' :: r =>
      match named? r with
      | some (negated, r) => if negated && !m.unicode then none else bracketed? m fuel r
      | none => ((opened? m r).bind (bracketed? m fuel)).bind (bracketed? m fuel)
    | '&' :: '&' :: r | '-' :: '-' :: r | '~' :: '~' :: r => bracketed? m fuel r
    | s => do
      let (first, r) ← member? m s
      let r := skip m r
      match rangeEnd? m r with
      | none => if r ≠ [] && first.isMember m then bracketed? m fuel r else none
      | some r => do
        let (last, r) ← member? m r
        let low ← first.char?
        let high ← last.char?
        if low.toNat ≤ high.toNat && first.isMember m && last.isMember m then bracketed? m fuel r
        else none

/-- The name of a group up to the closing bracket, and what follows; the first character must
be a letter. -/
def groupName? (s : List Char) : Option (List Char × List Char) :=
  let name := s.takeWhile fun c => c ≠ '>'
  let fits := match name with
    | [] => false
    | c :: cs => (c = '_' || isAlphabetic c)
        && cs.all fun c => isAlphanumeric c || ['_', '.', '[', ']'].contains c
  match s.dropWhile fun c => c ≠ '>' with
  | _ :: r => if fits then some (name, r) else none
  | [] => none

/-- The mode that flags set, the character that ends them, and what follows.  `seen` are the
flags before, and `off` says whether flags are taken away. -/
def flags? (m : Mode) (seen : List Char) (off : Bool) :
    List Char → Option (Mode × List Char × Char × List Char)
  | [] => none
  | c :: s =>
    if c = ':' || c = ')' then if seen.head? = some '-' then none else some (m, seen, c, s)
    else if seen.contains c then none
    else
      match c with
      | '-' => flags? m (c :: seen) true s
      | 'i' => flags? { m with anyCase := !off } (c :: seen) off s
      | 'u' => flags? { m with unicode := !off } (c :: seen) off s
      | 'x' => flags? { m with spaced := !off } (c :: seen) off s
      | c => if ['m', 's', 'U', 'R'].contains c then flags? m (c :: seen) off s else none

/-- Whether the rest of a pattern is well formed, where `outer` are the modes around the open
groups, `names` the names of groups so far, and `repeats` says whether what stands before can be
repeated. -/
def follows : Nat → Mode → List Mode → List (List Char) → Bool → List Char → Bool
  | 0, _, _, _, _, _ => false
  | fuel + 1, m, outer, names, repeats, s =>
    match skip m s with
    | [] => outer = []
    | '(' :: r =>
      match skip m r with
      | '?' :: 'P' :: '<' :: r => (groupName? r).any fun (name, r) =>
          !names.contains name && follows fuel m (m :: outer) (name :: names) false r
      | '?' :: '<' :: r => (groupName? r).any fun (name, r) =>
          !names.contains name && follows fuel m (m :: outer) (name :: names) false r
      | '?' :: r => (flags? m [] false r).any fun (inner, seen, ending, r) =>
          if ending = ')' then seen ≠ [] && follows fuel inner outer names false r
          else follows fuel inner (m :: outer) names false r
      | r => follows fuel m (m :: outer) names false r
    | ')' :: r =>
      match outer with
      | [] => false
      | m :: outer => follows fuel m outer names true r
    | '|' :: r => follows fuel m outer names false r
    | '[' :: r =>
      !(m.anyCase && m.unicode) && ((opened? m r).bind (bracketed? m fuel)).any
        (follows fuel m outer names true)
    | '?' :: r | '*' :: r | '+' :: r =>
      let r := match r with
        | '?' :: r => r
        | r => r
      repeats && follows fuel m outer names true r
    | '\x7b' :: _ => false
    | '\\' :: r => (escape? m r).any fun (item, r) =>
        item.isUsable m && follows fuel m outer names true r
    | '.' :: r => m.unicode && follows fuel m outer names true r
    | '^' :: r | '$' :: r => follows fuel m outer names true r
    | c :: r => (Item.char c).isUsable m && follows fuel m outer names true r

/-- Whether a text is a pattern that can be used. -/
def isValid (s : List Char) : Bool :=
  follows (s.length + 1) .start [] [] false s

end TaskDesk.ValuePattern
