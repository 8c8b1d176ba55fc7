import TaskDesk.Yaml12.Lexer
import TaskDesk.Yaml12.Value

/-!
# YAML 1.2 documents

`document?` reads the one document of a YAML 1.2 text as a value.  A node that is not written
is null.  Every anchor names a node of its own, also if another node had that name before; an
alias stands for the value of the node that its name was given to last.
-/

namespace TaskDesk.Yaml12

open Yaml (Token)

/-- What is known while a document is read: the tokens left, the numbers of the nodes that
names stand for, the values of the numbered nodes that were read, how many were numbered, and
what the handles of tags stand for. -/
structure Reading where
  left : List Token
  names : List (String × Nat)
  values : List (Nat × Value)
  count : Nat
  handles : List (String × String)

namespace Reading

/-- The next token. -/
def peek (r : Reading) : Token :=
  r.left.head?.getD .streamEnd

/-- The reading after the next token. -/
def advance (r : Reading) : Reading :=
  { r with left := r.left.drop 1 }

/-- Gives a name to a new node, whose number is the result. -/
def addName (r : Reading) (name : String) : Nat × Reading :=
  (r.count, { r with names := (name, r.count) :: r.names, count := r.count + 1 })

/-- The reading in which a numbered node has a value. -/
def note (r : Reading) (number : Option Nat) (v : Value) : Reading :=
  match number with
  | some n => { r with values := (n, v) :: r.values }
  | none => r

/-- What the handle of a tag stands for, with its suffix; a handle between exclamation marks
must be declared. -/
def tag? (r : Reading) (handle suffix : String) : Option (String × String) :=
  match r.handles.lookup handle with
  | some start => some (start, suffix)
  | none =>
    if handle = "!!" then some ("tag:yaml.org,2002:", suffix)
    else if handle = "" ∨ handle = "!" then some (handle, suffix)
    else none

/-- The anchor and the tag in front of a node, in any order. -/
def properties? (r : Reading) :
    Option (Option Nat × Option (String × String) × Reading) :=
  match r.peek with
  | .anchor a =>
    let (number, r) := r.advance.addName a
    match r.peek with
    | .tag h s => (r.tag? h s).map fun t => (some number, some t, r.advance)
    | _ => some (some number, none, r)
  | .tag h s =>
    (r.tag? h s).map fun t =>
      let r := r.advance
      match r.peek with
      | .anchor a =>
        let (number, r) := r.advance.addName a
        (some number, some t, r)
      | _ => (none, some t, r)
  | _ => some (none, none, r)

end Reading

/-- Whether an item of a sequence without indentation is left out before a token. -/
private def endsFlushItem : Token → Bool
  | .blockEntry | .key | .value | .blockEnd => true
  | _ => false

/-- Whether a key or a value of a block mapping is left out before a token. -/
private def endsBlockNode : Token → Bool
  | .key | .value | .blockEnd => true
  | _ => false

mutual

/-- A node; `block` allows block style, `flush` a sequence that is not indented. -/
def value? : Nat → Bool → Bool → Reading → Option (Value × Reading)
  | 0, _, _, _ => none
  | fuel + 1, block, flush, r =>
    match r.peek with
    | .alias name => (r.names.lookup name).map fun n => ((r.values.lookup n).getD .bad, r.advance)
    | _ => do
      let (number, tag, r) ← r.properties?
      match r.peek with
      | .scalar text style =>
        let v := Value.ofScalar tag style text
        some (v, r.advance.note number v)
      | .flowSequenceStart => do
        let (items, r) ← flowItems? fuel true r.advance
        let v := Value.list items
        some (v, r.note number v)
      | .flowMappingStart => do
        let (nodes, r) ← flowNodes? fuel true r.advance
        let v ← Value.ofNodes? nodes
        some (v, r.note number v)
      | .blockSequenceStart =>
        if block then do
          let (items, r) ← blockItems? fuel r.advance
          let v := Value.list items
          some (v, r.note number v)
        else omitted number tag r
      | .blockMappingStart =>
        if block then do
          let (nodes, r) ← blockNodes? fuel r.advance
          let v ← Value.ofNodes? nodes
          some (v, r.note number v)
        else omitted number tag r
      | .blockEntry =>
        if flush then do
          let (items, r) ← flushItems? fuel r
          let v := Value.list items
          some (v, r.note number v)
        else omitted number tag r
      | _ => omitted number tag r

/-- The items of an indented sequence. -/
def blockItems? : Nat → Reading → Option (List Value × Reading)
  | 0, _ => none
  | fuel + 1, r =>
    match r.peek with
    | .blockEntry => do
      let r := r.advance
      let (v, r) ← match r.peek with
        | .blockEntry | .blockEnd => some (.null, r)
        | _ => value? fuel true false r
      let (vs, r) ← blockItems? fuel r
      some (v :: vs, r)
    | .blockEnd => some ([], r.advance)
    | _ => none

/-- The items of a sequence that is not indented. -/
def flushItems? : Nat → Reading → Option (List Value × Reading)
  | 0, _ => none
  | fuel + 1, r =>
    match r.peek with
    | .blockEntry => do
      let r := r.advance
      let (v, r) ← if endsFlushItem r.peek then some (.null, r) else value? fuel true false r
      let (vs, r) ← flushItems? fuel r
      some (v :: vs, r)
    | _ => some ([], r)

/-- The keys and values of a mapping in block style. -/
def blockNodes? : Nat → Reading → Option (List Value × Reading)
  | 0, _ => none
  | fuel + 1, r =>
    match r.peek with
    | .blockEnd => some ([], r.advance)
    | t => do
      let (k, r) ← match t with
        | .key =>
          let r := r.advance
          if endsBlockNode r.peek then some (.null, r) else value? fuel true true r
        | .value => some (.null, r)
        | _ => none
      let (v, r) ← match r.peek with
        | .value =>
          let r := r.advance
          if endsBlockNode r.peek then some (.null, r) else value? fuel true true r
        | _ => some (.null, r)
      let (vs, r) ← blockNodes? fuel r
      some (k :: v :: vs, r)

/-- The items of a sequence in flow style.  A question mark in it begins a mapping of one
entry, whose key is left out together with the token that ends it. -/
def flowItems? : Nat → Bool → Reading → Option (List Value × Reading)
  | 0, _, _ => none
  | fuel + 1, first, r =>
    match r.peek with
    | .flowSequenceEnd => some ([], r.advance)
    | t => do
      let r ← match first, t with
        | true, _ => some r
        | false, .flowEntry => some r.advance
        | false, _ => none
      match r.peek with
      | .flowSequenceEnd => some ([], r.advance)
      | .key => do
        let r := r.advance
        let (k, r) ← match r.peek with
          | .value | .flowEntry | .flowSequenceEnd => some (.null, r.advance)
          | _ => value? fuel false false r
        let (v, r) ← match r.peek with
          | .value =>
            let r := r.advance
            match r.peek with
            | .flowEntry | .flowSequenceEnd => some (.null, r)
            | _ => value? fuel false false r
          | _ => some (.null, r)
        let pair ← Value.ofNodes? [k, v]
        let (vs, r) ← flowItems? fuel false r
        some (pair :: vs, r)
      | _ => do
        let (v, r) ← value? fuel false false r
        let (vs, r) ← flowItems? fuel false r
        some (v :: vs, r)

/-- The keys and values of a mapping in flow style. -/
def flowNodes? : Nat → Bool → Reading → Option (List Value × Reading)
  | 0, _, _ => none
  | fuel + 1, first, r =>
    match r.peek with
    | .flowMappingEnd => some ([], r.advance)
    | t => do
      let r ← match first, t with
        | true, _ => some r
        | false, .flowEntry => some r.advance
        | false, _ => none
      match r.peek with
      | .flowMappingEnd => some ([], r.advance)
      | t => do
        let (k, r, valued) ← match t with
          | .key =>
            let r := r.advance
            match r.peek with
            | .value | .flowEntry | .flowMappingEnd => some (.null, r, true)
            | _ => (value? fuel false false r).map fun (k, r) => (k, r, true)
          | .value => some (.null, r, true)
          | _ => (value? fuel false false r).map fun (k, r) => (k, r, false)
        let (v, r) ← match valued, r.peek with
          | true, .value =>
            let r := r.advance
            match r.peek with
            | .flowEntry | .flowMappingEnd => some (.null, r)
            | _ => value? fuel false false r
          | _, _ => some (.null, r)
        let (vs, r) ← flowNodes? fuel false r
        some (k :: v :: vs, r)

/-- A node of which only the anchor or the tag is written: an empty plain scalar. -/
def omitted (number : Option Nat) (tag : Option (String × String)) (r : Reading) :
    Option (Value × Reading) :=
  if number.isSome || tag.isSome then
    let v := Value.ofScalar tag .plain ""
    some (v, r.note number v)
  else none

end

/-- The directives in front of a document; every directive takes the place of those before
it, and only one of them may be a version.  The result are the handles of tags. -/
private def declared? : Nat → Bool → List (String × String) → List Token →
    Option (List (String × String) × List Token)
  | 0, _, _, _ => none
  | fuel + 1, versioned, handles, ts =>
    match ts with
    | .versionDirective _ _ :: ts => if versioned then none else declared? fuel true [] ts
    | .tagDirective handle start :: ts => declared? fuel versioned [(handle, start)] ts
    | ts => some (handles, ts)

/-- The value of the node at the beginning of some tokens, and the tokens after it. -/
private def body? (handles : List (String × String)) (ts : List Token) :
    Option (Value × List Token) :=
  (value? (2 * ts.length + 2) true false ⟨ts, [], [], 0, handles⟩).map fun (v, r) => (v, r.left)

/-- The value of the document in a text, none inside if there is no document.  Without a mark
at its start a document must not be empty. -/
def document? (s : String) : Option (Option Value) := do
  let ts := (← tokens? s).dropWhile (· = .documentEnd)
  match ts with
  | [] | .streamEnd :: _ => some none
  | ts => do
    let (handles, body) ← declared? (ts.length + 1) false [] ts
    let (v, left) ← match body with
      | .documentStart :: body =>
        if body.head?.all Token.isOutside then some (Value.null, body) else body? handles body
      | body => if body.length < ts.length then none else body? handles body
    match left.dropWhile (· = .documentEnd) with
    | [] | [.streamEnd] => some (some v)
    | _ => none

end TaskDesk.Yaml12
