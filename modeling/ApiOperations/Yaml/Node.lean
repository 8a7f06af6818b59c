import ApiOperations.Yaml.Token

/-!
The nodes of a YAML document, read from its tokens. An alias keeps the number of the anchor that it
means. Anchors are numbered by how many names are known when the anchor is met, so after a name is
used again two anchors may share a number, and the later one counts.
-/

namespace ApiOperations.Yaml

/-- The tags that fix the type of a scalar. -/
inductive CoreTag where
  | null
  | bool
  | int
  | float
  | other
  /-- A tag of the document's own that is no text. It fixes nothing, but it is there. -/
  | illegible
  deriving DecidableEq

structure Scalar where
  text : String
  style : Style
  tag : Option CoreTag
  deriving DecidableEq

inductive Node where
  | scalar (s : Scalar)
  | sequence (items : List Node)
  | mapping (entries : List (Node × Node))
  | alias (anchor : Nat)
  /-- A node with a tag of the document's own. -/
  | tagged (name : String) (body : Node)

/-- The state of reading nodes from tokens. -/
structure Composer where
  tokens : List Token
  /-- Handles of tags and what they stand for. -/
  handles : List (String × Uri)
  /-- The numbers of the anchors known by name. -/
  names : List (String × Nat)
  /-- The node behind each number, by its place among the anchored nodes. -/
  targets : List (Nat × Nat)
  /-- The anchored nodes by place. -/
  nodes : List (Nat × Node)
  /-- The number of nodes and of ends of collections so far. -/
  events : Nat

namespace Composer

/-- A step that takes tokens and gives a value, or fails. -/
abbrev Step (α : Type) := Composer → Option (α × Composer)

def next? (c : Composer) : Option Token :=
  c.tokens.head?

/-- Drop one token. -/
def drop (c : Composer) : Composer :=
  { c with tokens := c.tokens.tail }

def count (c : Composer) (n : Nat) : Composer :=
  { c with events := c.events + n }

/-! ### Properties -/

/-- The full tag of a handle and a suffix. -/
def expandTag (c : Composer) (handle : String) (suffix : Uri) : Option Uri :=
  if handle.isEmpty then some suffix
  else (c.handles.lookup handle).map (· ++ suffix)

/-- The tag and the anchor before a node, in either order. -/
def properties (c : Composer) : Option ((Option Uri × Option String) × Composer) :=
  match c.tokens with
  | .anchor a :: .tag h s :: ts => do
    return ((some (← c.expandTag h s), some a), { c with tokens := ts })
  | .tag h s :: .anchor a :: ts => do
    return ((some (← c.expandTag h s), some a), { c with tokens := ts })
  | .anchor a :: ts => some ((none, some a), { c with tokens := ts })
  | .tag h s :: ts => do
    return ((some (← c.expandTag h s), none), { c with tokens := ts })
  | _ => some ((none, none), c)

/-- Note an anchor before its node is read; gives the place of the node. -/
def declare (c : Composer) : Option String → Option Nat × Composer
  | none => (none, c)
  | some a =>
    let number := c.names.length
    let place := c.targets.length
    let names :=
      if (c.names.lookup a).isSome then
        c.names.map fun e => if e.1 == a then (a, number) else e
      else (a, number) :: c.names
    (some place, { c with names, targets := (number, place) :: c.targets })

/-- Keep an anchored node. -/
def keep (place : Option Nat) (n : Node) (c : Composer) : Composer :=
  match place with
  | none => c
  | some p => { c with nodes := (p, n) :: c.nodes }

/-- The name of a tag of the document's own. The bare mark is one too and names itself. -/
def localTag? : Uri → Option String
  | [some '!'] => some "!"
  | some '!' :: name => Uri.text? name
  | _ => none

/-- What a tag without such a name says about a scalar. -/
def coreTag (tag : Uri) : CoreTag :=
  match Uri.text? tag with
  | some "tag:yaml.org,2002:null" => .null
  | some "tag:yaml.org,2002:bool" => .bool
  | some "tag:yaml.org,2002:int" => .int
  | some "tag:yaml.org,2002:float" => .float
  | _ => if tag.head? = some (some '!') then .illegible else .other

/-- A scalar with its tag. -/
def scalarNode (text : String) (style : Style) (tag : Option Uri) : Node :=
  match tag with
  | none => .scalar ⟨text, style, none⟩
  | some t =>
    match localTag? t with
    | some name => .tagged name (.scalar ⟨text, style, none⟩)
    | none => .scalar ⟨text, style, some (coreTag t)⟩

/-- A collection with its tag. -/
def collectionNode (body : Node) (tag : Option Uri) : Node :=
  match tag.bind localTag? with
  | some name => .tagged name body
  | none => body

/-- A scalar without any text. -/
def emptyScalar : Step Node := fun c =>
  some (.scalar ⟨"", .plain, none⟩, c.count 1)

/-! ### Nodes -/

mutual

/-- A node; `block` allows block collections, `indentless` a sequence at the indentation of its
mapping. -/
def node : Nat → (block indentless : Bool) → Step Node
  | 0, _, _, _ => none
  | n + 1, block, indentless, c =>
    match c.next? with
    | some (.alias name) => do
      let number ← c.names.lookup name
      return (.alias number, c.drop.count 1)
    | _ => do
      let ((tag, anchor), c) ← c.properties
      let (place, c) := c.declare anchor
      match c.next? with
      | some (.scalar text style) =>
        let r := scalarNode text style tag
        return (r, (c.drop.count 1).keep place r)
      | some .flowSequenceStart => do
        let (items, c) ← flowItems n true (c.drop.count 2)
        let r := collectionNode (.sequence items) tag
        return (r, c.keep place r)
      | some .flowMappingStart => do
        let (entries, c) ← flowEntries n true (c.drop.count 2)
        let r := collectionNode (.mapping entries) tag
        return (r, c.keep place r)
      | t =>
        if indentless && t == some .blockEntry then do
          let (items, c) ← blockItems n true (c.count 2)
          let r := collectionNode (.sequence items) tag
          return (r, c.keep place r)
        else if block && t == some .blockSequenceStart then do
          let (items, c) ← blockItems n false (c.drop.count 2)
          let r := collectionNode (.sequence items) tag
          return (r, c.keep place r)
        else if block && t == some .blockMappingStart then do
          let (entries, c) ← blockEntries n (c.drop.count 2)
          let r := collectionNode (.mapping entries) tag
          return (r, c.keep place r)
        else if tag.isSome || anchor.isSome then
          let r := scalarNode "" .plain tag
          return (r, (c.count 1).keep place r)
        else none

/-- The items of a block sequence up to its end. Without indentation the sequence ends at any other
token. -/
def blockItems : Nat → (indentless : Bool) → Step (List Node)
  | 0, _, _ => none
  | n + 1, indentless, c =>
    match c.next? with
    | some .blockEntry => do
      let c := c.drop
      let isEmpty := match c.next? with
        | some .blockEntry => true
        | some .blockEnd => true
        | some .key => indentless
        | some .value => indentless
        | _ => false
      let (item, c) ← if isEmpty then emptyScalar c else node n true false c
      let (items, c) ← blockItems n indentless c
      return (item :: items, c)
    | t =>
      if indentless then some ([], c)
      else if t == some .blockEnd then some ([], c.drop)
      else none

/-- The entries of a block mapping up to its end. -/
def blockEntries : Nat → Step (List (Node × Node))
  | 0, _ => none
  | n + 1, c =>
    match c.next? with
    | some .key => do
      let (k, c) ← blockPart n c.drop
      let (v, c) ← blockValue n c
      let (entries, c) ← blockEntries n c
      return ((k, v) :: entries, c)
    | some .value => none
    | some .blockEnd => some ([], c.drop)
    | _ => none

/-- A key or a value of a block mapping, after its indicator. -/
def blockPart : Nat → Step Node
  | 0, _ => none
  | n + 1, c =>
    match c.next? with
    | some .key => emptyScalar c
    | some .value => emptyScalar c
    | some .blockEnd => emptyScalar c
    | _ => node n true true c

/-- The value that follows a key of a block mapping. -/
def blockValue : Nat → Step Node
  | 0, _ => none
  | n + 1, c =>
    match c.next? with
    | some .value => blockPart n c.drop
    | _ => emptyScalar c

/-- The items of a flow sequence up to its end. A key among them starts a mapping of one entry. -/
def flowItems : Nat → (first : Bool) → Step (List Node)
  | 0, _, _ => none
  | n + 1, first, c =>
    match c.next? with
    | some .flowSequenceEnd => some ([], c.drop)
    | t =>
      if !first && t != some .flowEntry then none
      else
        let c := if first then c else c.drop
        match c.next? with
        | some .flowSequenceEnd => some ([], c.drop)
        | some .key => do
          let (entry, c) ← flowPair n (c.drop.count 2)
          let (items, c) ← flowItems n false c
          return (.mapping [entry] :: items, c)
        | _ => do
          let (item, c) ← node n false false c
          let (items, c) ← flowItems n false c
          return (item :: items, c)

/-- The only entry of a mapping inside of a flow sequence, after the indicator of its key. -/
def flowPair : Nat → Step (Node × Node)
  | 0, _ => none
  | n + 1, c => do
    let (k, c) ← match c.next? with
      | some .value => emptyScalar c.drop
      | some .flowEntry => emptyScalar c.drop
      | some .flowSequenceEnd => emptyScalar c.drop
      | _ => node n false false c
    let (v, c) ← match c.next? with
      | some .value =>
        let c := c.drop
        match c.next? with
        | some .flowEntry => emptyScalar c
        | some .flowSequenceEnd => emptyScalar c
        | _ => node n false false c
      | _ => emptyScalar c
    return ((k, v), c)

/-- The entries of a flow mapping up to its end. -/
def flowEntries : Nat → (first : Bool) → Step (List (Node × Node))
  | 0, _, _ => none
  | n + 1, first, c =>
    match c.next? with
    | some .flowMappingEnd => some ([], c.drop)
    | t =>
      if !first && t != some .flowEntry then none
      else
        let c := if first then c else c.drop
        match c.next? with
        | some .flowMappingEnd => some ([], c.drop)
        | some .key => do
          let (k, c) ← flowKey n c.drop
          let (v, c) ← flowValue n c
          let (entries, c) ← flowEntries n false c
          return ((k, v) :: entries, c)
        | _ => do
          let (k, c) ← node n false false c
          let (v, c) ← emptyScalar c
          let (entries, c) ← flowEntries n false c
          return ((k, v) :: entries, c)

/-- A key of a flow mapping, after its indicator. -/
def flowKey : Nat → Step Node
  | 0, _ => none
  | n + 1, c =>
    match c.next? with
    | some .value => emptyScalar c
    | some .flowEntry => emptyScalar c
    | some .flowMappingEnd => emptyScalar c
    | _ => node n false false c

/-- The value that follows a key of a flow mapping. -/
def flowValue : Nat → Step Node
  | 0, _ => none
  | n + 1, c =>
    match c.next? with
    | some .value =>
      let c := c.drop
      match c.next? with
      | some .flowEntry => emptyScalar c
      | some .flowMappingEnd => emptyScalar c
      | _ => node n false false c
    | _ => emptyScalar c

end

/-! ### Documents -/

/-- The handles that every document knows. -/
def standardHandles : List (String × Uri) :=
  [("!", .ofString "!"), ("!!", .ofString "tag:yaml.org,2002:")]

/-- The directives before a document: at most one version, 1.1 or 1.2, and each handle once. -/
def directives (versioned : Bool) (handles : List (String × Uri)) :
    List Token → Option (List (String × Uri) × List Token)
  | .versionDirective major minor :: ts =>
    if !versioned && major == 1 && (minor == 1 || minor == 2) then directives true handles ts
    else none
  | .tagDirective h u :: ts =>
    if (handles.lookup h).isSome then none else directives versioned (handles ++ [(h, u)]) ts
  | ts => some (handles, ts)

/-- The content of a document whose start is marked. -/
def content (fuel : Nat) (c : Composer) : Option (Node × Composer) :=
  match c.next? with
  | none => emptyScalar c
  | some .documentStart => emptyScalar c
  | some .documentEnd => emptyScalar c
  | some (.versionDirective ..) => emptyScalar c
  | some (.tagDirective ..) => emptyScalar c
  | _ => node fuel true false c

end Composer

/-- A document: its root and the nodes behind its anchors. -/
structure Document where
  root : Node
  /-- The node behind the number of an anchor. -/
  anchored : Nat → Option Node
  /-- The number of nodes and of ends of collections. -/
  events : Nat

/-- The document of a token list that holds at most one. Without any the root is an empty scalar. -/
def document? (ts : List Token) : Option Document := do
  let fuel := 3 * ts.length + 3
  let c : Composer := ⟨ts, Composer.standardHandles, [], [], [], 0⟩
  let (root, c) ←
    match ts with
    | [] => Composer.emptyScalar c
    | .documentStart :: _ => Composer.content fuel c.drop
    | .versionDirective .. :: _ => marked fuel ts
    | .tagDirective .. :: _ => marked fuel ts
    | _ => Composer.node fuel true false c
  if c.tokens.dropWhile (· == .documentEnd) = [] then
    return ⟨root, fun number => do c.nodes.lookup (← c.targets.lookup number), c.events⟩
  else none
where
  /-- The content after directives and the start mark that they need. -/
  marked (fuel : Nat) (ts : List Token) : Option (Node × Composer) := do
    let (handles, rest) ← Composer.directives false [] ts
    match rest with
    | .documentStart :: rest =>
      Composer.content fuel ⟨rest, handles ++ Composer.standardHandles, [], [], [], 0⟩
    | _ => none

end ApiOperations.Yaml
