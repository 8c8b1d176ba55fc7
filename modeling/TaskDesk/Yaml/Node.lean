import TaskDesk.Yaml.Lexer

/-!
# YAML nodes

A `Node` is a scalar, a sequence, a mapping or an alias; all but the alias may have a tag.
`Document.ofText?` reads the one document of a text.  An alias holds a number, and the table
`targets` of the document says what node stands behind it.  The number of a new name is the
count of the names that were known before.  A name that is given again takes the same count
as its number, so that the next new name shares this number; the node that begins last wins.
-/

namespace TaskDesk.Yaml

/-- A node of a YAML document. -/
inductive Node where
  | scalar (tag : Option String) (style : Style) (text : String)
  | sequence (tag : Option String) (items : List Node)
  | mapping (tag : Option String) (entries : List (Node × Node))
  | alias (number : Nat)
deriving Repr, Inhabited

/-- A document: its node, and the nodes of the numbers of aliases. -/
structure Document where
  root : Node
  targets : List (Nat × Node)
deriving Repr, Inhabited

namespace Node

/-- The node of a place where nothing is written. -/
def absent : Node := .scalar none .plain ""

mutual

/-- How many scalars, aliases, beginnings and ends of collections a node consists of. -/
def size : Node → Nat
  | .scalar _ _ _ | .alias _ => 1
  | .sequence _ items => sizes items + 2
  | .mapping _ entries => entrySizes entries + 2

/-- The sizes of some nodes together. -/
def sizes : List Node → Nat
  | [] => 0
  | n :: ns => n.size + sizes ns

/-- The sizes of the entries of a mapping together. -/
def entrySizes : List (Node × Node) → Nat
  | [] => 0
  | (k, v) :: es => k.size + v.size + entrySizes es

end

/-- What is known while a document is read: the tokens left, the numbers of names, for every
node with an anchor the number of its name, the last node first, the nodes with an anchor that
are complete, by their order, and the handles of tags. -/
structure Reading where
  left : List Token
  names : List (String × Nat)
  anchored : List Nat
  complete : List (Nat × Node)
  handles : List (String × String)

namespace Reading

/-- The next token. -/
def peek (r : Reading) : Token :=
  r.left.head?.getD .streamEnd

/-- The reading after the next token. -/
def advance (r : Reading) : Reading :=
  { r with left := r.left.drop 1 }

/-- Gives a name to a node that begins here. -/
def addName (r : Reading) (name : String) : Reading :=
  let number := r.names.length
  { r with
    names := (name, number) :: r.names.filter fun e => e.1 ≠ name
    anchored := number :: r.anchored }

/-- The reading in which a node with an anchor is complete; `order` is how many such nodes began
before it. -/
def note (r : Reading) (order : Option Nat) (n : Node) : Reading :=
  match order with
  | some k => { r with complete := (k, n) :: r.complete }
  | none => r

/-- The nodes of the numbers of aliases, those that begin last in front. -/
def targets (r : Reading) : List (Nat × Node) :=
  r.anchored.zipIdx.filterMap fun (number, i) =>
    (r.complete.lookup (r.anchored.length - 1 - i)).map fun n => (number, n)

/-- The whole tag of a handle and what follows it. -/
def tag? (r : Reading) (handle suffix : String) : Option String :=
  if handle = "" then some suffix
  else
    match r.handles.lookup handle with
    | some start => some (start ++ suffix)
    | none =>
      if handle = "!" then some ("!" ++ suffix)
      else if handle = "!!" then some ("tag:yaml.org,2002:" ++ suffix)
      else none

/-- The anchor and the tag in front of a node, in any order; the anchor as the order of the
node among those with an anchor. -/
def properties? (r : Reading) : Option (Option Nat × Option String × Reading) :=
  let order := r.anchored.length
  match r.peek with
  | .anchor a =>
    let r := r.advance.addName a
    match r.peek with
    | .tag h s => (r.tag? h s).map fun t => (some order, some t, r.advance)
    | _ => some (some order, none, r)
  | .tag h s =>
    (r.tag? h s).map fun t =>
      let r := r.advance
      match r.peek with
      | .anchor a => (some order, some t, r.advance.addName a)
      | _ => (none, some t, r)
  | _ => some (none, none, r)

end Reading

/-- Whether an item of a sequence without indentation is left out before a token. -/
private def endsItem : Token → Bool
  | .blockEntry | .key | .value | .blockEnd => true
  | _ => false

/-- Whether a key or a value of a block mapping is left out before a token. -/
private def endsEntry : Token → Bool
  | .key | .value | .blockEnd => true
  | _ => false

mutual

/-- A node; `block` allows block style, `flush` a sequence that is not indented. -/
def read? : Nat → Bool → Bool → Reading → Option (Node × Reading)
  | 0, _, _, _ => none
  | fuel + 1, block, flush, r =>
    match r.peek with
    | .alias name => (r.names.lookup name).map fun n => (.alias n, r.advance)
    | _ => do
      let (anchor, tag, r) ← r.properties?
      match r.peek with
      | .scalar text style =>
        let n := Node.scalar (tag.filter (· ≠ "!")) style text
        some (n, r.advance.note anchor n)
      | .flowSequenceStart => do
        let (items, r) ← flowItems? fuel true r.advance
        let n := Node.sequence tag items
        some (n, r.note anchor n)
      | .flowMappingStart => do
        let (entries, r) ← flowEntries? fuel true r.advance
        let n := Node.mapping tag entries
        some (n, r.note anchor n)
      | .blockSequenceStart =>
        if block then do
          let (items, r) ← blockItems? fuel r.advance
          let n := Node.sequence tag items
          some (n, r.note anchor n)
        else none
      | .blockMappingStart =>
        if block then do
          let (entries, r) ← blockEntries? fuel r.advance
          let n := Node.mapping tag entries
          some (n, r.note anchor n)
        else none
      | .blockEntry =>
        if flush then do
          let (items, r) ← flushItems? fuel r
          let n := Node.sequence tag items
          some (n, r.note anchor n)
        else leftOut anchor tag r
      | _ => leftOut anchor tag r

/-- The items of an indented sequence. -/
def blockItems? : Nat → Reading → Option (List Node × Reading)
  | 0, _ => none
  | fuel + 1, r =>
    match r.peek with
    | .blockEntry => do
      let r := r.advance
      let (n, r) ← match r.peek with
        | .blockEntry | .blockEnd => some (absent, r)
        | _ => read? fuel true false r
      let (ns, r) ← blockItems? fuel r
      some (n :: ns, r)
    | .blockEnd => some ([], r.advance)
    | _ => none

/-- The items of a sequence that is not indented. -/
def flushItems? : Nat → Reading → Option (List Node × Reading)
  | 0, _ => none
  | fuel + 1, r =>
    match r.peek with
    | .blockEntry => do
      let r := r.advance
      let (n, r) ← if endsItem r.peek then some (absent, r) else read? fuel true false r
      let (ns, r) ← flushItems? fuel r
      some (n :: ns, r)
    | _ => some ([], r)

/-- The entries of a mapping in block style. -/
def blockEntries? : Nat → Reading → Option (List (Node × Node) × Reading)
  | 0, _ => none
  | fuel + 1, r =>
    match r.peek with
    | .key => do
      let r := r.advance
      let (k, r) ← if endsEntry r.peek then some (absent, r) else read? fuel true true r
      let (v, r) ← match r.peek with
        | .value =>
          let r := r.advance
          if endsEntry r.peek then some (absent, r) else read? fuel true true r
        | _ => some (absent, r)
      let (es, r) ← blockEntries? fuel r
      some ((k, v) :: es, r)
    | .blockEnd => some ([], r.advance)
    | _ => none

/-- The items of a sequence in flow style.  A key among them begins a mapping of one entry; a
key that is left out is left out together with the token that ends it. -/
def flowItems? : Nat → Bool → Reading → Option (List Node × Reading)
  | 0, _, _ => none
  | fuel + 1, first, r =>
    match r.peek with
    | .flowSequenceEnd => some ([], r.advance)
    | t => do
      let r ← if first then some r
        else match t with
          | .flowEntry => some r.advance
          | _ => none
      match r.peek with
      | .flowSequenceEnd => some ([], r.advance)
      | .key => do
        let r := r.advance
        let (k, r) ← match r.peek with
          | .value | .flowEntry | .flowSequenceEnd => some (absent, r.advance)
          | _ => read? fuel false false r
        let (v, r) ← match r.peek with
          | .value =>
            let r := r.advance
            match r.peek with
            | .flowEntry | .flowSequenceEnd => some (absent, r)
            | _ => read? fuel false false r
          | _ => some (absent, r)
        let (ns, r) ← flowItems? fuel false r
        some (.mapping none [(k, v)] :: ns, r)
      | _ => do
        let (n, r) ← read? fuel false false r
        let (ns, r) ← flowItems? fuel false r
        some (n :: ns, r)

/-- The entries of a mapping in flow style. -/
def flowEntries? : Nat → Bool → Reading → Option (List (Node × Node) × Reading)
  | 0, _, _ => none
  | fuel + 1, first, r =>
    match r.peek with
    | .flowMappingEnd => some ([], r.advance)
    | t => do
      let r ← if first then some r
        else match t with
          | .flowEntry => some r.advance
          | _ => none
      match r.peek with
      | .flowMappingEnd => some ([], r.advance)
      | .key => do
        let r := r.advance
        let (k, r) ← match r.peek with
          | .value | .flowEntry | .flowMappingEnd => some (absent, r)
          | _ => read? fuel false false r
        let (v, r) ← match r.peek with
          | .value =>
            let r := r.advance
            match r.peek with
            | .flowEntry | .flowMappingEnd => some (absent, r)
            | _ => read? fuel false false r
          | _ => some (absent, r)
        let (es, r) ← flowEntries? fuel false r
        some ((k, v) :: es, r)
      | _ => do
        let (k, r) ← read? fuel false false r
        let (es, r) ← flowEntries? fuel false r
        some ((k, absent) :: es, r)

/-- A node of which only the anchor or the tag is written. -/
def leftOut (anchor : Option Nat) (tag : Option String) (r : Reading) : Option (Node × Reading) :=
  if anchor.isSome || tag.isSome then
    let n := Node.scalar tag .plain ""
    some (n, r.note anchor n)
  else none

end

/-- The directives in front of a document: the handles of tags that they declare. -/
private def directives? : Nat → Bool → List (String × String) → List Token →
    Option (List (String × String) × List Token)
  | 0, _, _, _ => none
  | fuel + 1, versioned, handles, ts =>
    match ts with
    | .versionDirective major minor :: ts =>
      if versioned || major ≠ 1 || (minor ≠ 1 && minor ≠ 2) then none
      else directives? fuel true handles ts
    | .tagDirective handle start :: ts =>
      if (handles.lookup handle).isSome then none
      else directives? fuel versioned (handles ++ [(handle, start)]) ts
    | ts => some (handles, ts)

/-- The node at the beginning of some tokens, what stands behind its aliases, and the tokens
after it. -/
private def content? (handles : List (String × String)) (ts : List Token) :
    Option (Document × List Token) :=
  (read? (2 * ts.length + 2) true false ⟨ts, [], [], [], handles⟩).map fun (n, r) =>
    (⟨n, r.targets⟩, r.left)

end Node

/-- The document in a text, none inside if there is no document.  Without a mark at its start
a document must not be empty. -/
def Document.ofText? (s : String) : Option (Option Document) := do
  match ← tokens? s with
  | [] | [.streamEnd] => some none
  | ts => do
    let (handles, body) ← Node.directives? (ts.length + 1) false [] ts
    let (d, left) ← match body with
      | .documentStart :: body =>
        if body.head?.all Token.isOutside then some (⟨Node.absent, []⟩, body)
        else Node.content? handles body
      | body => if body.length < ts.length then none else Node.content? handles body
    match left.dropWhile (· = .documentEnd) with
    | [] | [.streamEnd] => some (some d)
    | _ => none

end TaskDesk.Yaml
