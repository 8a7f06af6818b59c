import ApiOperations.Yaml.Scalar.Gap

/-!
Scalars in quotes. Inside of single quotes a quote is written twice; inside of double quotes a
backslash starts an escape.
-/

namespace ApiOperations.Yaml.Quoted

/-- The character of an escape that stands for one character. -/
def escaped? : Char → Option Char
  | '0' => some '\x00'
  | 'a' => some '\x07'
  | 'b' => some '\x08'
  | 't' => some '\t'
  | '\t' => some '\t'
  | 'n' => some '\n'
  | 'v' => some '\x0b'
  | 'f' => some '\x0c'
  | 'r' => some '\r'
  | 'e' => some '\x1b'
  | ' ' => some ' '
  | '"' => some '"'
  | '/' => some '/'
  | '\\' => some '\\'
  | 'N' => some '\x85'
  | '_' => some '\xa0'
  | 'L' => some '\u2028'
  | 'P' => some '\u2029'
  | _ => none

/-- The number of hexadecimal digits that follow an escape. -/
def codeLength? : Char → Option Nat
  | 'x' => some 2
  | 'u' => some 4
  | 'U' => some 8
  | _ => none

def hexValue? (c : Char) : Option Nat :=
  if c.isDigit then some (c.toNat - '0'.toNat)
  else if 'a' ≤ c ∧ c ≤ 'f' then some (c.toNat - 'a'.toNat + 10)
  else if 'A' ≤ c ∧ c ≤ 'F' then some (c.toNat - 'A'.toNat + 10)
  else none

/-- The number that hexadecimal digits spell. -/
def hexNumber? (cs : List Char) : Option Nat :=
  cs.foldlM (fun n c => (hexValue? c).map (16 * n + ·)) 0

/-- The character that a code escape stands for. -/
def codeChar? (n : Nat) : Option Char :=
  if (0xD800 ≤ n ∧ n ≤ 0xDFFF) ∨ 0x10FFFF < n then none else some (Char.ofNat n)

/-- How a run of characters without spaces ends. -/
inductive RunEnd where
  | space
  /-- A line break behind a backslash, which leaves nothing. -/
  | hiddenBreak

/-- The characters of a run, in reverse before `acc`. -/
def takeRun (single : Bool) : Nat → Cursor → List Char → Option (List Char × RunEnd × Cursor)
  | 0, _, _ => none
  | n + 1, c, acc =>
    let x := c.peek
    if isSpace x then some (acc, .space, c)
    else if single && x == '\'' && c.ahead 1 == '\'' then takeRun single n (c.skip 2) ('\'' :: acc)
    else if x == (if single then '\'' else '"') then some (acc, .space, c)
    else if !single && x == '\\' then
      if isBreak (c.ahead 1) then some (acc, .hiddenBreak, (c.skip 1).skipBreak)
      else
        match escaped? (c.ahead 1), codeLength? (c.ahead 1) with
        | some e, _ => takeRun single n (c.skip 2) (e :: acc)
        | none, some k => do
          let digits := (c.skip 2).rest.take k
          if digits.length < k then none
          else
            let e ← codeChar? (← hexNumber? digits)
            takeRun single n (c.skip (2 + k)) (e :: acc)
        | none, none => none
    else takeRun single n (c.skip 1) (x :: acc)

/-- The text up to the closing quote, in reverse before `acc`. -/
def takeText (single : Bool) : Nat → Cursor → List Char → Option (List Char × Cursor)
  | 0, _, _ => none
  | n + 1, c, acc =>
    if c.atDocumentMarker || isEnd c.peek then none
    else do
      let (acc, runEnd, c) ← takeRun single (c.left + 1) c acc
      let gap := match runEnd with
        | .space => Gap.none
        | .hiddenBreak => Gap.hidden
      if c.peek == (if single then '\'' else '"') then some (acc, c.skip 1)
      else
        let (gap, c) ← Gap.take (fun _ => false) (c.left + 1) c gap
        takeText single n c (gap.text.reverse ++ acc)

/-- The scalar whose opening quote is next. -/
def scan (single : Bool) (c : Cursor) : Option (String × Cursor) :=
  let c := c.skip 1
  (takeText single (c.left + 2) c []).map fun r => (String.ofList r.1.reverse, r.2)

end ApiOperations.Yaml.Quoted
