import ApiOperations.Json.Value
import ApiOperations.Decimal.Layout

/-!
Writing JSON values. The compact form has no blanks; the indented form puts every item and member on
a line of its own, two spaces deeper than its container.
-/

namespace ApiOperations.Json

/-- Floating-point numbers are positional while the exponent of their first digit is from -5 to 15,
and a positive exponent is signed. -/
def floatLayout : Decimal.Layout := ⟨-5, 15, true⟩

/-- A character inside of a string. -/
def stringChar (c : Char) : List Char :=
  match c with
  | '"' => ['\\', '"']
  | '\\' => ['\\', '\\']
  | '\x08' => ['\\', 'b']
  | '\x0c' => ['\\', 'f']
  | '\n' => ['\\', 'n']
  | '\r' => ['\\', 'r']
  | '\t' => ['\\', 't']
  | c =>
    if c.toNat < 0x20 then
      '\\' :: 'u' :: '0' :: '0' :: Nat.digitChar (c.toNat / 16) :: [Nat.digitChar (c.toNat % 16)]
    else [c]

/-- A text in quotes. -/
def writeString (s : String) : List Char :=
  '"' :: (s.toList.flatMap stringChar ++ ['"'])

def writeInt (n : Int) : List Char :=
  if n < 0 then '-' :: Nat.toDigits 10 n.natAbs else Nat.toDigits 10 n.natAbs

def writeNumber : Number → List Char
  | .int n => writeInt n
  | .float x => Decimal.render floatLayout x

def writeBool (b : Bool) : List Char :=
  if b then ['t', 'r', 'u', 'e'] else ['f', 'a', 'l', 's', 'e']

mutual

/-- The compact form of a value. -/
def compact : Value → List Char
  | .null => ['n', 'u', 'l', 'l']
  | .bool b => writeBool b
  | .number n => writeNumber n
  | .string s => writeString s
  | .array items => '[' :: (compactItems items ++ [']'])
  | .object members => '{' :: (compactMembers members ++ ['}'])

def compactItems : List Value → List Char
  | [] => []
  | [v] => compact v
  | v :: w :: rest => compact v ++ ',' :: compactItems (w :: rest)

def compactMembers : List (String × Value) → List Char
  | [] => []
  | [(k, v)] => writeString k ++ ':' :: compact v
  | (k, v) :: m :: rest => writeString k ++ ':' :: (compact v ++ ',' :: compactMembers (m :: rest))

end

/-- A line break and the blanks before a line at the given depth. -/
def breakLine (depth : Nat) : List Char :=
  '\n' :: List.replicate (2 * depth) ' '

mutual

/-- The indented form of a value that starts at the given depth. -/
def indented (depth : Nat) : Value → List Char
  | .array [] => ['[', ']']
  | .array (v :: vs) =>
    '[' :: (indentedItems (depth + 1) (v :: vs) ++ breakLine depth ++ [']'])
  | .object [] => ['{', '}']
  | .object (m :: ms) =>
    '{' :: (indentedMembers (depth + 1) (m :: ms) ++ breakLine depth ++ ['}'])
  | .null => ['n', 'u', 'l', 'l']
  | .bool b => writeBool b
  | .number n => writeNumber n
  | .string s => writeString s

def indentedItems (depth : Nat) : List Value → List Char
  | [] => []
  | [v] => breakLine depth ++ indented depth v
  | v :: w :: rest => breakLine depth ++ (indented depth v ++ ',' :: indentedItems depth (w :: rest))

def indentedMembers (depth : Nat) : List (String × Value) → List Char
  | [] => []
  | [(k, v)] => breakLine depth ++ (writeString k ++ ':' :: ' ' :: indented depth v)
  | (k, v) :: m :: rest =>
    breakLine depth ++
      (writeString k ++ ':' :: ' ' :: (indented depth v ++ ',' :: indentedMembers depth (m :: rest)))

end

/-- The compact text of a value. -/
def Value.toCompact (v : Value) : String :=
  String.ofList (compact v)

/-- The indented text of a value. -/
def Value.toIndented (v : Value) : String :=
  String.ofList (indented 0 v)

end ApiOperations.Json
