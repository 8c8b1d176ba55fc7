import TaskDesk.CommandLine.ValuePattern
import TaskDesk.Decimal.Reading

/-!
# Log filters

A log filter is a list of directives with commas between them, of which empty ones say
nothing.  A directive is a level, or a target, a span in brackets, or both, with a level
after an equals sign if there is one.  A span can have a field in braces, with a value after
an equals sign: a truth value, a number, or a pattern.
-/

namespace TaskDesk.LogFilter

open TaskDesk.Text TaskDesk.Decimal

/-- The names of the levels. -/
def levelNames : List String :=
  ["off", "error", "warn", "info", "debug", "trace"]

/-- Whether a text is a level: empty, the name of one in any case, or its number. -/
def isLevel (s : List Char) : Bool :=
  s = [] || levelNames.contains (lowered (String.ofList s)) || (word? s).any fun n => n ≤ 5

/-- Whether a text is the value of a field. -/
def isValue (s : List Char) : Bool :=
  s = "true".toList || s = "false".toList || (word? s).isSome || (signedWord? s).isSome
    || (Double.read? (String.ofList s)).isSome || ValuePattern.isValid s

/-- Whether a text is a field: a name, and a value up to the next equals sign if there is
one. -/
def isField (s : List Char) : Bool :=
  match s.dropWhile fun c => c ≠ '=' with
  | [] => true
  | _ :: value => isValue (value.takeWhile fun c => c ≠ '=')

/-- Whether a directive can begin with a character, if it begins with a target or a level. -/
def isStart (c : Char) : Bool :=
  c = '-' || c = ':' || c = '_' || isAlphanumeric c

/-- Where a reader of a directive stands: in a target or level, in a span, at the start of a
field, in a field that began at an index, after the field, or after a span. -/
inductive Place where
  | target
  | span
  | fieldStart
  | field (start : Nat)
  | afterField
  | afterSpan
deriving DecidableEq, Repr

/-- Whether a directive can go on like this from an index; `level` tests what follows an equals
sign, and `field` what stands between two indices. -/
def follows (level : List Char → Bool) (field : Nat → Nat → Bool) :
    Nat → Place → List Char → Bool
  | _, .target, [] => true
  | _, .target, '=' :: s => level s
  | i, .target, '[' :: s => follows level field (i + 1) .span s
  | i, .target, _ :: s => follows level field (i + 1) .target s
  | i, .span, ']' :: s => follows level field (i + 1) .afterSpan s
  | i, .span, '\x7b' :: s => follows level field (i + 1) .fieldStart s
  | i, .span, _ :: s => follows level field (i + 1) .span s
  | _, .fieldStart, '\x7d' :: _ => false
  | i, .fieldStart, _ :: s => follows level field (i + 1) (.field i) s
  | i, .field start, '\x7d' :: s => field start i && follows level field (i + 1) .afterField s
  | i, .field start, _ :: s => follows level field (i + 1) (.field start) s
  | i, .afterField, ']' :: s => follows level field (i + 1) .afterSpan s
  | _, .afterSpan, [] => true
  | _, .afterSpan, '=' :: s => level s
  | _, _, _ => false

/-- Whether a text is a directive.  Blanks around it do not count when it is taken apart, but
they do where its parts are looked up. -/
def isDirective (s : List Char) : Bool :=
  let inner := (dropBlanks (dropBlanks s).reverse).reverse
  let level (l : List Char) : Bool := inner = s && isLevel l
  let field (start stop : Nat) : Bool := isField ((s.drop start).take (stop - start))
  match inner with
  | [] => false
  | '[' :: rest => follows level field 1 .span rest
  | c :: rest => isStart c && follows level field 0 .target (c :: rest)

/-- The texts between commas. -/
def directives : List Char → List (List Char)
  | [] => [[]]
  | ',' :: s => [] :: directives s
  | c :: s =>
    match directives s with
    | [] => [[c]]
    | d :: ds => (c :: d) :: ds

/-- Whether a text is a log filter. -/
def isFilter (s : String) : Bool :=
  (directives s.toList).all fun d => d = [] || isDirective d

end TaskDesk.LogFilter
