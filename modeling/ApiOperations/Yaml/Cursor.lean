/-!
Places in a YAML text, and the classes of characters that the grammar tells apart. The character NUL,
which no YAML text holds, stands for the end of the text.
-/

namespace ApiOperations.Yaml

/-! ### Characters -/

/-- A character that a YAML text may hold. -/
def isAllowed (c : Char) : Bool :=
  let n := c.toNat
  n == 0x09 || n == 0x0A || n == 0x0D || (0x20 ≤ n && n ≤ 0x7E) || n == 0x85 ||
    (0xA0 ≤ n && n ≤ 0xD7FF) || (0xE000 ≤ n && n ≤ 0xFFFD) || 0x10000 ≤ n

def isEnd (c : Char) : Bool := c == '\x00'

def isBlank (c : Char) : Bool := c == ' ' || c == '\t'

def isBreak (c : Char) : Bool :=
  c == '\n' || c == '\r' || c == '\x85' || c == '\u2028' || c == '\u2029'

def isBreakOrEnd (c : Char) : Bool := isBreak c || isEnd c

def isSpace (c : Char) : Bool := isBlank c || isBreakOrEnd c

/-- A character of a directive name, an anchor or a tag handle. -/
def isWord (c : Char) : Bool := c.isAlphanum || c == '_' || c == '-'

/-- A character that opens or closes or separates in flow collections. -/
def isFlowIndicator (c : Char) : Bool :=
  c == ',' || c == '[' || c == ']' || c == '\x7b' || c == '\x7d'

/-! ### Places -/

/-- What is left of a text, and the place where it starts. -/
structure Cursor where
  rest : List Char
  line : Nat
  column : Nat
  /-- The number of characters before this place. -/
  index : Nat
  /-- The number of characters of the whole text. -/
  size : Nat

namespace Cursor

def start (cs : List Char) : Cursor := ⟨cs, 0, 0, 0, cs.length⟩

/-- The number of characters left. -/
def left (c : Cursor) : Nat := c.size - c.index

/-- The character `n` places ahead. -/
def ahead (c : Cursor) (n : Nat) : Char := c.rest.getD n '\x00'

def peek (c : Cursor) : Char := c.ahead 0

/-- Pass over `n` characters of the line. -/
def skip (c : Cursor) (n : Nat) : Cursor :=
  let k := min n c.left
  ⟨c.rest.drop k, c.line, c.column + k, c.index + k, c.size⟩

/-- Pass over characters of the line while the test holds. -/
def skipWhile (c : Cursor) (p : Char → Bool) : Cursor :=
  c.skip (c.rest.takeWhile p).length

/-- Take characters of the line while the test holds. -/
def takeWhile (c : Cursor) (p : Char → Bool) : List Char × Cursor :=
  let cs := c.rest.takeWhile p
  (cs, c.skip cs.length)

/-- Pass over a line break and keep it. Every break becomes a line feed, but the separators of lines
and paragraphs stay as they are. -/
def takeBreak (c : Cursor) : List Char × Cursor :=
  match c.rest with
  | '\r' :: '\n' :: cs => (['\n'], ⟨cs, c.line + 1, 0, c.index + 2, c.size⟩)
  | b :: cs =>
    if isBreak b then
      ([if b == '\u2028' || b == '\u2029' then b else '\n'], ⟨cs, c.line + 1, 0, c.index + 1, c.size⟩)
    else ([], c)
  | [] => ([], c)

/-- Pass over a line break. -/
def skipBreak (c : Cursor) : Cursor := c.takeBreak.2

/-- The text goes on with three copies of `m` at the start of a line, and a space after them. -/
def atMarker (c : Cursor) (m : Char) : Bool :=
  c.column == 0 && c.ahead 0 == m && c.ahead 1 == m && c.ahead 2 == m && isSpace (c.ahead 3)

/-- The text goes on with the start or the end of a document. -/
def atDocumentMarker (c : Cursor) : Bool :=
  c.atMarker '-' || c.atMarker '.'

end Cursor

end ApiOperations.Yaml
