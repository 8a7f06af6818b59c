import ApiOperations.Yaml.Cursor
import ApiOperations.Yaml.Scalar.Quoted
import ApiOperations.Yaml.Token

/-!
Names in YAML texts: anchors, tags and directives. A tag is a handle and a suffix; the suffix is a URI
in which a percent sign starts an escaped octet. Octets must be grouped as in UTF-8, but a group may be
one that spells no character.
-/

namespace ApiOperations.Yaml.Tag

/-- A character of a URI. Outside of angle brackets flow indicators are not among them. -/
def isUri (verbatim : Bool) (c : Char) : Bool :=
  isWord c || ";/?:@&=+$.%!~*'()".toList.contains c || (verbatim && ",[]".toList.contains c)

/-- An escaped octet. -/
def octet? (c : Cursor) : Option Nat :=
  let digits := (c.skip 1).rest.take 2
  if c.peek == '%' && digits.length == 2 then Quoted.hexNumber? digits else none

/-- The number of octets of a character and the bits of its first octet. -/
def leading? (n : Nat) : Option (Nat × Nat) :=
  if n < 0x80 then some (1, n)
  else if 0xC0 ≤ n ∧ n < 0xE0 then some (2, n - 0xC0)
  else if 0xE0 ≤ n ∧ n < 0xF0 then some (3, n - 0xE0)
  else if 0xF0 ≤ n ∧ n < 0xF8 then some (4, n - 0xF0)
  else none

/-- The further octets of a character, on top of the bits read so far. -/
def continue? : Nat → Nat → Cursor → Option (Nat × Cursor)
  | 0, bits, c => some (bits, c)
  | k + 1, bits, c => do
    let n ← octet? c
    if 0x80 ≤ n ∧ n < 0xC0 then continue? k (64 * bits + (n - 0x80)) (c.skip 3) else none

/-- The least code point that needs the given number of octets. -/
def leastCode : Nat → Nat
  | 2 => 0x80
  | 3 => 0x800
  | 4 => 0x10000
  | _ => 0

/-- The character with a code point, if so many octets are the right spelling of it. -/
def charOf? (width code : Nat) : Option Char :=
  if leastCode width ≤ code ∧ code.isValidChar then some (Char.ofNat code) else none

/-- What a group of escaped octets spells. -/
def escaped? (c : Cursor) : Option (Option Char × Cursor) := do
  let (width, bits) ← leading? (← octet? c)
  let (code, c) ← continue? (width - 1) bits (c.skip 3)
  return (charOf? width code, c)

/-- The characters of a URI, in reverse before `acc`. -/
def takeUri (verbatim : Bool) : Nat → Cursor → Uri → Option (Uri × Cursor)
  | 0, _, _ => none
  | n + 1, c, acc =>
    if c.peek == '%' then do
      let (x, c) ← escaped? c
      takeUri verbatim n c (x :: acc)
    else if isUri verbatim c.peek then takeUri verbatim n (c.skip 1) (some c.peek :: acc)
    else some (acc, c)

/-- A URI that goes on from `head`, from which a leading mark is dropped. Head and rest may not both
be empty. The character NUL ends the URI, whatever follows. -/
def scanUri (verbatim : Bool) (head : List Char) (c : Cursor) : Option (Uri × Cursor) := do
  let (u, c') ← takeUri verbatim (c.left + 1) c []
  if head.isEmpty && c'.index == c.index then none
  else return ((head.drop 1).map some ++ u.reverse.takeWhile (· ≠ some '\x00'), c')

/-- A handle: a mark, word characters and perhaps another mark. -/
def scanHandle (c : Cursor) : Option (List Char × Cursor) :=
  if c.peek == '!' then
    let (word, c) := (c.skip 1).takeWhile isWord
    if c.peek == '!' then some ('!' :: (word ++ ['!']), c.skip 1) else some ('!' :: word, c)
  else none

/-- A complete handle ends in a mark that is not its first. -/
def isHandle (cs : List Char) : Bool :=
  2 ≤ cs.length && cs.getLast? == some '!'

/-- A tag property. -/
def scan (flow : Bool) (c : Cursor) : Option (String × Uri × Cursor) := do
  let (handle, suffix, c) ←
    if c.ahead 1 == '<' then do
      let (suffix, c) ← scanUri true [] (c.skip 2)
      if c.peek == '>' then some ("", suffix, c.skip 1) else none
    else do
      let (handle, c) ← scanHandle c
      if isHandle handle then
        let (suffix, c) ← scanUri false [] c
        some (String.ofList handle, suffix, c)
      else
        let (suffix, c) ← scanUri false handle c
        if suffix.isEmpty then some ("", [some '!'], c) else some ("!", suffix, c)
  if isSpace c.peek || (flow && c.peek == ',') then return (handle, suffix, c) else none

/-- The name of an anchor or an alias, after its indicator. -/
def scanAnchor (c : Cursor) : Option (String × Cursor) :=
  let (name, c) := (c.skip 1).takeWhile isWord
  if name.isEmpty then none
  else if isSpace c.peek || "?:,]\x7d%@`".toList.contains c.peek then
    some (String.ofList name, c)
  else none

end ApiOperations.Yaml.Tag
