import ApiOperations.Json.Leaf

/-!
Reading JSON texts into trees. Blanks are space, tab, line feed and carriage return; nothing may
follow the value. A numeral has no leading zeros, a string no unescaped control characters. Nesting
is not bounded here: the bound belongs to whoever looks at the tree.
-/

namespace ApiOperations.Json

def isBlank (c : Char) : Bool :=
  c == ' ' || c == '\t' || c == '\n' || c == '\r'

def skipBlanks (cs : List Char) : List Char :=
  cs.dropWhile isBlank

/-! ### Numerals -/

/-- The digits at the front, which must be at least one. -/
def readDigits (cs : List Char) : Option (List Char × List Char) :=
  match cs.takeWhile Char.isDigit with
  | [] => none
  | ds => some (ds, cs.dropWhile Char.isDigit)

/-- The digits before the point: a zero, or digits that do not start with one. -/
def readWhole : List Char → Option (List Char × List Char)
  | '0' :: cs =>
    match cs with
    | c :: _ => if c.isDigit then none else some (['0'], cs)
    | [] => some (['0'], cs)
  | cs => readDigits cs

def readFraction : List Char → Option (Option (List Char) × List Char)
  | '.' :: cs => (readDigits cs).map fun r => (some r.1, r.2)
  | cs => some (none, cs)

def readExponent : List Char → Option (Option (Bool × List Char) × List Char)
  | c :: cs =>
    if c = 'e' ∨ c = 'E' then
      match cs with
      | '+' :: cs => (readDigits cs).map fun r => (some (false, r.1), r.2)
      | '-' :: cs => (readDigits cs).map fun r => (some (true, r.1), r.2)
      | cs => (readDigits cs).map fun r => (some (false, r.1), r.2)
    else some (none, c :: cs)
  | [] => some (none, [])

/-- A numeral without its sign. -/
def readNumeral (negative : Bool) (cs : List Char) : Option (Numeral × List Char) := do
  let (whole, cs) ← readWhole cs
  let (fraction, cs) ← readFraction cs
  let (exponent, cs) ← readExponent cs
  return (⟨negative, whole, fraction, exponent⟩, cs)

/-! ### Strings -/

/-- A character of a string, or a code unit that an escape gives. -/
inductive Piece where
  | char (c : Char)
  | unit (n : Nat)

def hexValue? (c : Char) : Option Nat :=
  if c.isDigit then some (c.toNat - '0'.toNat)
  else if 'a' ≤ c ∧ c ≤ 'f' then some (c.toNat - 'a'.toNat + 10)
  else if 'A' ≤ c ∧ c ≤ 'F' then some (c.toNat - 'A'.toNat + 10)
  else none

/-- The number that four hexadecimal digits spell. -/
def fourHex? (a b c d : Char) : Option Nat := do
  return ((← hexValue? a) * 16 + (← hexValue? b)) * 256 + ((← hexValue? c) * 16 + (← hexValue? d))

/-- The character that a one-letter escape stands for. -/
def escaped? : Char → Option Char
  | '"' => some '"'
  | '\\' => some '\\'
  | '/' => some '/'
  | 'b' => some '\x08'
  | 'f' => some '\x0c'
  | 'n' => some '\n'
  | 'r' => some '\r'
  | 't' => some '\t'
  | _ => none

/-- The pieces of a string up to its closing quote, and the rest after it. -/
def readPieces : List Char → Option (List Piece × List Char)
  | '"' :: cs => some ([], cs)
  | '\\' :: 'u' :: a :: b :: c :: d :: cs => do
    let n ← fourHex? a b c d
    let (ps, cs) ← readPieces cs
    return (.unit n :: ps, cs)
  | '\\' :: e :: cs => do
    let c ← escaped? e
    let (ps, cs) ← readPieces cs
    return (.char c :: ps, cs)
  | c :: cs =>
    if c = '\\' ∨ c.toNat < 0x20 then none
    else (readPieces cs).map fun r => (.char c :: r.1, r.2)
  | [] => none

def isHighSurrogate (n : Nat) : Bool := 0xD800 ≤ n && n < 0xDC00

def isLowSurrogate (n : Nat) : Bool := 0xDC00 ≤ n && n < 0xE000

/-- The characters that pieces spell: a high and a low surrogate make one, and neither may stand
alone. -/
def assemble : List Piece → Option (List Char)
  | [] => some []
  | .char c :: ps => (assemble ps).map (c :: ·)
  | .unit n :: ps =>
    if isHighSurrogate n then
      match ps with
      | .unit m :: ps =>
        if isLowSurrogate m then
          (assemble ps).map (Char.ofNat (0x10000 + (n - 0xD800) * 0x400 + (m - 0xDC00)) :: ·)
        else none
      | _ => none
    else if isLowSurrogate n then none
    else (assemble ps).map (Char.ofNat n :: ·)

/-- A string after its opening quote. -/
def readString (cs : List Char) : Option (Option String × List Char) :=
  (readPieces cs).map fun r => ((assemble r.1).map String.ofList, r.2)

/-! ### Values -/

/-- The rest after a word that must stand at the front. -/
def readWord : List Char → List Char → Option (List Char)
  | [], cs => some cs
  | w :: ws, c :: cs => if w = c then readWord ws cs else none
  | _ :: _, [] => none

mutual

/-- A value at the front of a text, blanks before it skipped. -/
def readValue : Nat → List Char → Option (Tree Leaf × List Char)
  | 0, _ => none
  | fuel + 1, cs =>
    match skipBlanks cs with
    | '{' :: cs =>
      match skipBlanks cs with
      | '}' :: cs => some (.record [], cs)
      | cs => (readMembers fuel cs).map fun r => (.record r.1, r.2)
    | '[' :: cs =>
      match skipBlanks cs with
      | ']' :: cs => some (.list [], cs)
      | cs => (readItems fuel cs).map fun r => (.list r.1, r.2)
    | '"' :: cs => (readString cs).map fun r => (.leaf (.string r.1), r.2)
    | 'n' :: cs => (readWord ['u', 'l', 'l'] cs).map fun cs => (.leaf .null, cs)
    | 't' :: cs => (readWord ['r', 'u', 'e'] cs).map fun cs => (.leaf (.bool true), cs)
    | 'f' :: cs => (readWord ['a', 'l', 's', 'e'] cs).map fun cs => (.leaf (.bool false), cs)
    | '-' :: cs => (readNumeral true cs).map fun r => (.leaf (.number r.1), r.2)
    | cs => (readNumeral false cs).map fun r => (.leaf (.number r.1), r.2)

/-- The items of an array up to its end, at least one. -/
def readItems : Nat → List Char → Option (List (Tree Leaf) × List Char)
  | 0, _ => none
  | fuel + 1, cs => do
    let (item, cs) ← readValue fuel cs
    match skipBlanks cs with
    | ']' :: cs => return ([item], cs)
    | ',' :: cs =>
      let (items, cs) ← readItems fuel cs
      return (item :: items, cs)
    | _ => none

/-- The members of an object up to its end, at least one. -/
def readMembers : Nat → List Char → Option (List (Tree Leaf × Tree Leaf) × List Char)
  | 0, _ => none
  | fuel + 1, cs =>
    match skipBlanks cs with
    | '"' :: cs => do
      let (key, cs) ← readString cs
      match skipBlanks cs with
      | ':' :: cs =>
        let (value, cs) ← readValue fuel cs
        match skipBlanks cs with
        | '}' :: cs => return ([(.leaf (.string key), value)], cs)
        | ',' :: cs =>
          let (members, cs) ← readMembers fuel cs
          return ((.leaf (.string key), value) :: members, cs)
        | _ => none
      | _ => none
    | _ => none

end

/-- The tree of a JSON text. Every step of the readers above takes a character, so a text never asks
for more steps than it has characters. -/
def read (text : String) : Option (Tree Leaf) :=
  let cs := text.toList
  match readValue (2 * cs.length + 2) cs with
  | some (t, rest) => if (skipBlanks rest).isEmpty then some t else none
  | none => none

end ApiOperations.Json
