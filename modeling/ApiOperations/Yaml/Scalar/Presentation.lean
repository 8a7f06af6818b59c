import ApiOperations.Yaml.Cursor
import ApiOperations.Yaml.Resolution

/-!
How texts are written as scalars in block collections. A text with line feeds is literal. Any other is
plain if it then reads back as itself, and else stands in single quotes. What neither form can hold
is written in double quotes with escapes.
-/

namespace ApiOperations.Yaml.Presentation

/-! ### Properties of texts -/

/-- A character that needs no escape. -/
def isPrintable (c : Char) : Bool :=
  let n := c.toNat
  n == 0x0A || (0x20 ≤ n && n ≤ 0x7E) || (0xA0 ≤ n && n ≤ 0xD7FF) ||
    (0xE000 ≤ n && n ≤ 0xFFFD && n != 0xFEFF) || 0x10000 ≤ n

def hasUnprintable (cs : List Char) : Bool :=
  cs.any (!isPrintable ·)

/-- A character of the first class right before one of the second. -/
def hasPair (p q : Char → Bool) : List Char → Bool
  | a :: b :: cs => (p a && q b) || hasPair p q (b :: cs)
  | _ => false

/-- A colon before white space or at the end. -/
def hasColonGap : List Char → Bool
  | [] => false
  | c :: cs => (c == ':' && isSpace (cs.headD '\x00')) || hasColonGap cs

/-- The start of the text would be read as something else than a plain scalar. -/
def startsMarked (cs : List Char) : Bool :=
  "---".toList.isPrefixOf cs || "...".toList.isPrefixOf cs ||
    match cs with
    | [] => false
    | c :: rest =>
      "#,[]\x7b\x7d&*!|>'\"%@`".toList.contains c || ("?-".toList.contains c && isSpace (rest.headD '\x00'))

/-- A space or line break at either end. -/
def hasLooseEnd (cs : List Char) : Bool :=
  let loose (c : Char) : Bool := c == ' ' || isBreak c
  cs.head?.any loose || cs.getLast?.any loose

/-- A line other than the last one ends in a space. -/
def hasSpaceBreak (cs : List Char) : Bool :=
  hasPair (· == ' ') isBreak cs

/-- A line other than the first one starts with a space. -/
def hasBreakSpace (cs : List Char) : Bool :=
  hasPair isBreak (· == ' ') cs

/-- The text is of type text if it stands plain. -/
def readsAsText (s : String) : Bool :=
  !isPadded s.toList &&
    match Scalar.plainAtom? s with
    | some (.string _) => true
    | _ => false

/-! ### The choice of a style -/

def plainAllowed (cs : List Char) : Bool :=
  !(hasLooseEnd cs || cs.any isBreak || hasUnprintable cs || startsMarked cs || hasColonGap cs ||
    hasPair isSpace (· == '#') cs)

def singleAllowed (cs : List Char) : Bool :=
  !(hasBreakSpace cs || hasSpaceBreak cs || hasUnprintable cs)

def literalAllowed (cs : List Char) : Bool :=
  !(cs.getLast?.any (· == ' ') || hasSpaceBreak cs || hasUnprintable cs)

/-- The style of a text. -/
def styleOf (s : String) : Style :=
  let cs := s.toList
  if cs.contains '\n' then
    if literalAllowed cs then .literal else .doubleQuoted
  else if readsAsText s && plainAllowed cs then .plain
  else if singleAllowed cs then .singleQuoted
  else .doubleQuoted

/-! ### The styles -/

/-- The blanks before a line. -/
def pad (indent : Nat) : List Char :=
  List.replicate indent ' '

/-- The characters of a text with every line but the first indented. After a break the next character
starts a line. -/
def indentLines (indent : Nat) (each : Char → List Char) : Bool → List Char → List Char
  | _, [] => []
  | started, c :: cs =>
    if isBreak c then c :: indentLines indent each true cs
    else (if started then pad indent else []) ++ each c ++ indentLines indent each false cs

/-- A text in single quotes, where a quote is written twice. -/
def single (indent : Nat) (cs : List Char) : List Char :=
  let quote (c : Char) : List Char := if c == '\'' then ['\'', '\''] else [c]
  let closing := if cs.getLast?.any isBreak then pad indent else []
  '\'' :: (indentLines indent quote false cs ++ closing ++ ['\''])

/-- The last `k` hexadecimal digits of a number. -/
def hexDigits : Nat → Nat → List Char
  | 0, _ => []
  | k + 1, n => hexDigits k (n / 16) ++ [(Nat.digitChar (n % 16)).toUpper]

/-- What stands behind the backslash of an escape. -/
def escapeOf (c : Char) : List Char :=
  match c with
  | '\x00' => ['0']
  | '\x07' => ['a']
  | '\x08' => ['b']
  | '\t' => ['t']
  | '\n' => ['n']
  | '\x0b' => ['v']
  | '\x0c' => ['f']
  | '\r' => ['r']
  | '\x1b' => ['e']
  | '"' => ['"']
  | '\\' => ['\\']
  | '\x85' => ['N']
  | '\xa0' => ['_']
  | '\u2028' => ['L']
  | '\u2029' => ['P']
  | c =>
    if c.toNat ≤ 0xFF then 'x' :: hexDigits 2 c.toNat
    else if c.toNat ≤ 0xFFFF then 'u' :: hexDigits 4 c.toNat
    else 'U' :: hexDigits 8 c.toNat

/-- A text in double quotes. -/
def double (cs : List Char) : List Char :=
  let escape (c : Char) : List Char :=
    if !isPrintable c || isBreak c || c == '"' || c == '\\' then '\\' :: escapeOf c else [c]
  '"' :: (cs.flatMap escape ++ ['"'])

/-- The header of a literal text: its indentation if its first line does not show it, and what becomes
of the breaks at the end. -/
def literalHeader (cs : List Char) : List Char :=
  let indentation := if cs.head?.any fun c => c == ' ' || isBreak c then ['2'] else []
  let chomping :=
    match cs.reverse with
    | [] => ['-']
    | [c] => if isBreak c then ['+'] else ['-']
    | c :: d :: _ => if isBreak c then (if isBreak d then ['+'] else []) else ['-']
  '|' :: (indentation ++ chomping)

/-- A literal text below its header. -/
def literal (indent : Nat) (cs : List Char) : List Char :=
  literalHeader cs ++ '\n' :: indentLines indent (fun c => [c]) true cs

/-- A text as a scalar whose further lines are indented. -/
def text (indent : Nat) (s : String) : List Char :=
  match styleOf s with
  | .plain => s.toList
  | .singleQuoted => single indent s.toList
  | .doubleQuoted => double s.toList
  | .literal => literal indent s.toList
  | .folded => literal indent s.toList

/-- A text as a scalar with the end of its last line. -/
def line (indent : Nat) (s : String) : List Char :=
  let ended := styleOf s == .literal && s.toList.getLast?.any isBreak
  text indent s ++ if ended then [] else ['\n']

end ApiOperations.Yaml.Presentation
