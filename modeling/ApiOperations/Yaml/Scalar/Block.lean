import ApiOperations.Yaml.Cursor

/-!
Block scalars: lines below a header, indented deeper than what surrounds them. A literal scalar keeps
its line breaks; in a folded one a single break between two lines that do not start with a blank
becomes a space. The header may fix the indentation and says what becomes of the breaks at the end.
-/

namespace ApiOperations.Yaml.Block

/-- What becomes of the line breaks at the end. -/
inductive Chomping where
  | strip
  | clip
  | keep
  deriving DecidableEq

def chomping? : Char → Option Chomping
  | '+' => some .keep
  | '-' => some .strip
  | _ => none

/-- The indentation indicator: a digit from 1 to 9. -/
def increment? (c : Char) : Option Nat :=
  if '1' ≤ c ∧ c ≤ '9' then some (c.toNat - '0'.toNat) else none

/-- The two indicators of a header, in either order. A zero is refused. -/
def indicators (c : Cursor) : Option (Chomping × Option Nat × Cursor) :=
  match chomping? c.peek with
  | some ch =>
    let c := c.skip 1
    if c.peek == '0' then none
    else
      match increment? c.peek with
      | some k => some (ch, some k, c.skip 1)
      | none => some (ch, none, c)
  | none =>
    if c.peek == '0' then none
    else
      match increment? c.peek with
      | some k =>
        let c := c.skip 1
        match chomping? c.peek with
        | some ch => some (ch, some k, c.skip 1)
        | none => some (.clip, some k, c)
      | none => some (.clip, none, c)

/-- Pass over indentation and empty lines: the breaks met, the deepest column seen, and the place
after them. Without a known indentation every space counts as indentation. -/
def takeBreaks (indent : Option Nat) :
    Nat → Cursor → Nat → List Char → Option (List Char × Nat × Cursor)
  | 0, _, _, _ => none
  | n + 1, c, deepest, breaks =>
    let inside (column : Nat) : Bool :=
      match indent with
      | none => true
      | some i => column < i
    let spaces := (c.rest.takeWhile (· == ' ')).length
    let c := c.skip <| match indent with
      | none => spaces
      | some i => min spaces (i - c.column)
    let deepest := max deepest c.column
    if inside c.column && c.peek == '\t' then none
    else if isBreak c.peek then
      let (b, c) := c.takeBreak
      takeBreaks indent n c deepest (breaks ++ b)
    else some (breaks, deepest, c)

/-- The parts of a block scalar while its lines are read. -/
structure Lines where
  /-- The text so far, in reverse. -/
  text : List Char
  /-- The break after the last line. -/
  last : List Char
  /-- The breaks of the empty lines after it. -/
  empty : List Char
  /-- The last line started with a blank. -/
  indented : Bool

/-- Read the lines at the given indentation. -/
def takeLines (literal : Bool) (indent : Nat) : Nat → Cursor → Lines → Option (Lines × Cursor)
  | 0, _, _ => none
  | n + 1, c, ls =>
    if c.column = indent ∧ !isEnd c.peek then do
      let blank := isBlank c.peek
      let joint :=
        if !literal && ls.last == ['\n'] && !ls.indented && !blank then
          if ls.empty.isEmpty then [' '] else ls.empty
        else ls.last ++ ls.empty
      let (line, c) := c.takeWhile fun x => !isBreakOrEnd x
      let (last, c) := c.takeBreak
      let (empty, _, c) ← takeBreaks (some indent) (c.left + 1) c 0 []
      takeLines literal indent n c ⟨line.reverse ++ (joint.reverse ++ ls.text), last, empty, blank⟩
    else some (ls, c)

/-- The scalar whose header is next, inside of a collection with the given indentation, which is
negative at the top of a document. -/
def scan (literal : Bool) (parent : Int) (c : Cursor) : Option (String × Cursor) := do
  let (chomping, increment, c) ← indicators (c.skip 1)
  let c := c.skipWhile isBlank
  let c := if c.peek == '#' then c.skipWhile fun x => !isBreakOrEnd x else c
  if !isBreakOrEnd c.peek then none
  else
    let c := c.skipBreak
    let fixed : Option Nat := increment.map fun k => if 0 ≤ parent then parent.toNat + k else k
    let (empty, deepest, c) ← takeBreaks fixed (c.left + 1) c 0 []
    let indent := fixed.getD (max deepest (max (parent + 1).toNat 1))
    let (ls, c) ← takeLines literal indent (c.left + 1) c ⟨[], [], empty, false⟩
    let tail := match chomping with
      | .strip => []
      | .clip => ls.last
      | .keep => ls.last ++ ls.empty
    return (String.ofList (ls.text.reverse ++ tail), c)

end ApiOperations.Yaml.Block
