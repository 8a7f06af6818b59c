import ApiOperations.Yaml.Scalar.Block
import ApiOperations.Yaml.Scalar.Plain
import ApiOperations.Yaml.Scalar.Quoted
import ApiOperations.Yaml.Token
import ApiOperations.Yaml.Token.Directive

/-!
From a YAML text to its tokens. A key without a mark is known as a key only at the colon after it, so
wherever a key may start, an empty slot is left before it; the colon fills the slot of the latest
possible key. Such a key may not go over a line or be longer than 1024 characters. A start token of a
block collection comes where the indentation grows, and an end token for each step that it falls.
-/

namespace ApiOperations.Yaml

/-- A place where an unmarked key may have started. -/
structure PossibleKey where
  /-- The slot before the key. -/
  slot : Nat
  /-- At this indentation nothing else than a key may stand. -/
  required : Bool
  line : Nat
  column : Nat
  index : Nat

/-- The state of a scan. -/
structure Scanner where
  cursor : Cursor
  /-- Tokens in slots; the slots of keys that turn out to be none stay empty. -/
  slots : Array (List Token)
  /-- The number of open flow collections. -/
  flow : Nat
  /-- The indentation of the innermost block collection, negative outside of all. -/
  indent : Int
  /-- The indentations around it. -/
  outer : List Int
  /-- An unmarked key may start here. -/
  keyAllowed : Bool
  /-- The possible key of the innermost flow level, if any. -/
  key : Option PossibleKey
  /-- Those of the levels around it. -/
  outerKeys : List (Option PossibleKey)

namespace Scanner

def start (cs : List Char) : Scanner :=
  ⟨.start cs, #[], 0, -1, [], true, none, []⟩

def inFlow (s : Scanner) : Bool :=
  s.flow != 0

/-! ### Tokens -/

def emit (s : Scanner) (t : Token) : Scanner :=
  { s with slots := s.slots.push [t] }

/-- Emit a token and pass over its `n` characters. -/
def emitSkip (s : Scanner) (t : Token) (n : Nat) : Scanner :=
  { s.emit t with cursor := s.cursor.skip n }

/-! ### Indentation -/

/-- End the block collections that are indented more than `column`. -/
def unroll (column : Int) : List Int → Scanner → Scanner
  | [], s => s
  | i :: is, s =>
    if column < s.indent then unroll column is { s.emit .blockEnd with indent := i, outer := is }
    else s

def unrollTo (s : Scanner) (column : Int) : Scanner :=
  if s.inFlow then s else unroll column s.outer s

/-- The column starts a block collection. -/
def grows (s : Scanner) (column : Nat) : Bool :=
  !s.inFlow && s.indent < column

/-- Start a block collection here, if the column asks for it. -/
def roll (s : Scanner) (t : Token) : Scanner :=
  let column := s.cursor.column
  if s.grows column then { s.emit t with indent := column, outer := s.indent :: s.outer } else s

/-! ### Possible keys -/

/-- A possible key that can no longer be one. -/
def isStale (c : Cursor) (k : PossibleKey) : Bool :=
  k.line < c.line || k.index + 1024 < c.index

/-- Drop a stale key; a required one may not be dropped. -/
def dropStale (c : Cursor) : Option PossibleKey → Option (Option PossibleKey)
  | some k => if isStale c k then if k.required then none else some none else some (some k)
  | none => some none

/-- Drop the keys of all levels that are stale. -/
def dropStaleKeys (s : Scanner) : Option Scanner := do
  let key ← dropStale s.cursor s.key
  let outerKeys ← s.outerKeys.mapM (dropStale s.cursor)
  return { s with key, outerKeys }

/-- Drop the possible key of this level. -/
def removeKey (s : Scanner) : Option Scanner :=
  match s.key with
  | some k => if k.required then none else some { s with key := none }
  | none => some s

/-- Note that a key may start here. -/
def saveKey (s : Scanner) : Option Scanner :=
  if s.keyAllowed then do
    let s ← s.removeKey
    let c := s.cursor
    let required := !s.inFlow && s.indent == c.column
    return { s with
      slots := s.slots.push []
      key := some ⟨s.slots.size, required, c.line, c.column, c.index⟩ }
  else some s

/-! ### Kinds of tokens -/

/-- Pass over spaces, comments and line breaks. Tabs count as spaces where no key may start. A mark of
the byte order at the start of a line is passed over too, but takes up a column. -/
def skipToToken : Nat → Scanner → Scanner
  | 0, s => s
  | n + 1, s =>
    let c := s.cursor
    let c := if c.column == 0 && c.peek == '\ufeff' then c.skip 1 else c
    let c := c.skipWhile fun x => x == ' ' || ((s.inFlow || !s.keyAllowed) && x == '\t')
    let c := if c.peek == '#' then c.skipWhile fun x => !isBreakOrEnd x else c
    if isBreak c.peek then
      skipToToken n { s with cursor := c.skipBreak, keyAllowed := s.keyAllowed || !s.inFlow }
    else { s with cursor := c }

/-- A directive or a mark of a document ends every block collection. -/
def documentToken (s : Scanner) (t : Token) (c : Cursor) : Option Scanner := do
  let s ← (s.unrollTo (-1)).removeKey
  return { s.emit t with cursor := c, keyAllowed := false }

def flowStart (s : Scanner) (t : Token) : Option Scanner := do
  let s ← s.saveKey
  return { s.emitSkip t 1 with
    flow := s.flow + 1, keyAllowed := true, key := none, outerKeys := s.key :: s.outerKeys }

def flowEnd (s : Scanner) (t : Token) : Option Scanner := do
  let s ← s.removeKey
  let s := { s.emitSkip t 1 with keyAllowed := false }
  match s.outerKeys with
  | k :: ks => return { s with flow := s.flow - 1, key := k, outerKeys := ks }
  | [] => return s

def flowEntry (s : Scanner) : Option Scanner := do
  let s ← s.removeKey
  return { s.emitSkip .flowEntry 1 with keyAllowed := true }

def blockEntry (s : Scanner) : Option Scanner := do
  if !s.inFlow && !s.keyAllowed then none
  else
    let s ← (s.roll .blockSequenceStart).removeKey
    return { s.emitSkip .blockEntry 1 with keyAllowed := true }

def markedKey (s : Scanner) : Option Scanner := do
  if !s.inFlow && !s.keyAllowed then none
  else
    let s ← (s.roll .blockMappingStart).removeKey
    return { s.emitSkip .key 1 with keyAllowed := !s.inFlow }

def value (s : Scanner) : Option Scanner :=
  match s.key with
  | some k =>
    let s :=
      if s.grows k.column then
        { s with
          slots := s.slots.setIfInBounds k.slot [.blockMappingStart, .key]
          indent := k.column, outer := s.indent :: s.outer }
      else { s with slots := s.slots.setIfInBounds k.slot [.key] }
    some { s.emitSkip .value 1 with key := none, keyAllowed := false }
  | none =>
    if !s.inFlow && !s.keyAllowed then none
    else
      let s := s.roll .blockMappingStart
      some { s.emitSkip .value 1 with keyAllowed := !s.inFlow }

/-- A token that may be a key or start one. -/
def content (s : Scanner) (scan : Cursor → Option (Token × Cursor)) : Option Scanner := do
  let s ← s.saveKey
  let (t, c) ← scan s.cursor
  return { s.emit t with cursor := c, keyAllowed := false }

def blockScalar (s : Scanner) (literal : Bool) : Option Scanner := do
  let s ← s.removeKey
  let (text, c) ← Block.scan literal s.indent s.cursor
  let style := if literal then .literal else .folded
  return { s.emit (.scalar text style) with cursor := c, keyAllowed := true }

def plainScalar (s : Scanner) : Option Scanner := do
  let s ← s.saveKey
  let (text, broken, c) ← Plain.scan s.inFlow (s.indent + 1).toNat s.cursor
  return { s.emit (.scalar text .plain) with cursor := c, keyAllowed := broken }

/-- A plain scalar may start with this character. -/
def startsPlain (s : Scanner) : Bool :=
  let c := s.cursor
  let x := c.peek
  !(isSpace x || "-?:,[]\x7b\x7d#&*!|>'\"%@`".toList.contains x) ||
    (x == '-' && !isBlank (c.ahead 1)) ||
    (!s.inFlow && (x == '?' || x == ':') && !isSpace (c.ahead 1))

def anchorToken (c : Cursor) : Option (Token × Cursor) :=
  (Tag.scanAnchor c).map fun r => (.anchor r.1, r.2)

def aliasToken (c : Cursor) : Option (Token × Cursor) :=
  (Tag.scanAnchor c).map fun r => (.alias r.1, r.2)

def tagToken (flow : Bool) (c : Cursor) : Option (Token × Cursor) :=
  (Tag.scan flow c).map fun r => (.tag r.1 r.2.1, r.2.2)

def quotedToken (single : Bool) (c : Cursor) : Option (Token × Cursor) :=
  let style := if single then .singleQuoted else .doubleQuoted
  (Quoted.scan single c).map fun r => (.scalar r.1 style, r.2)

/-- The token that the next character starts. -/
def token (s : Scanner) : Option Scanner :=
  let c := s.cursor
  let spaced := isSpace (c.ahead 1)
  if c.column == 0 && c.peek == '%' then do
    let s ← (s.unrollTo (-1)).removeKey
    let (t, c) ← Directive.scan s.cursor
    return { s.emit t with cursor := c, keyAllowed := false }
  else if c.atMarker '-' then s.documentToken .documentStart (c.skip 3)
  else if c.atMarker '.' then s.documentToken .documentEnd (c.skip 3)
  else
    match c.peek with
    | '[' => s.flowStart .flowSequenceStart
    | '\x7b' => s.flowStart .flowMappingStart
    | ']' => s.flowEnd .flowSequenceEnd
    | '\x7d' => s.flowEnd .flowMappingEnd
    | ',' => s.flowEntry
    | '*' => s.content aliasToken
    | '&' => s.content anchorToken
    | '!' => s.content (tagToken s.inFlow)
    | '\'' => s.content (quotedToken true)
    | '"' => s.content (quotedToken false)
    | x =>
      if x == '-' && spaced then s.blockEntry
      else if x == '?' && (s.inFlow || spaced) then s.markedKey
      else if x == ':' && (s.inFlow || spaced) then s.value
      else if x == '|' && !s.inFlow then s.blockScalar true
      else if x == '>' && !s.inFlow then s.blockScalar false
      else if s.startsPlain then s.plainScalar
      else none

/-- Scan to the end of the text. -/
def run : Nat → Scanner → Option Scanner
  | 0, _ => none
  | n + 1, s => do
    let s := skipToToken (s.cursor.left + 1) s
    let s ← s.dropStaleKeys
    let s := s.unrollTo s.cursor.column
    if isEnd s.cursor.peek then (s.unrollTo (-1)).removeKey
    else
      let s ← s.token
      run n s

end Scanner

/-- The tokens of a text. -/
def tokens (text : String) : Option (List Token) :=
  let cs := text.toList
  if cs.all isAllowed then
    (Scanner.run (cs.length + 2) (.start cs)).map fun s => s.slots.toList.flatten
  else none

end ApiOperations.Yaml
