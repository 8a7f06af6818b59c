import ApiOperations.Decimal.Layout
import ApiOperations.Json.Writer
import ApiOperations.Yaml.Scalar.Presentation

/-!
Writing values as YAML in block style. A list below a key starts at the column of the key, every other
collection is two columns deeper than what it is in, and empty collections are written in brackets. A
key that is long or has several lines is marked by a question mark.
-/

namespace ApiOperations.Yaml

open ApiOperations.Json (Value)
open ApiOperations.Yaml.Presentation (pad)

/-- Floating-point numbers are positional while the exponent of their first digit is from -5 to 15. -/
def floatLayout : Decimal.Layout := ⟨-5, 15, false⟩

def writeNumber : Json.Number → List Char
  | .int n => Json.writeInt n
  | .float x => Decimal.render floatLayout x

/-- The length in bytes up to which a key needs no mark. -/
def maxSimpleKey : Nat := 128

/-- A key that stands before its colon without a mark. -/
def isSimpleKey (k : String) : Bool :=
  k.utf8ByteSize ≤ maxSimpleKey && !k.toList.any isBreak

mutual

/-- A value that starts behind the mark of an entry at the given column, and the end of its line. -/
def writeInline (column : Nat) : Value → List Char
  | .null => " null\n".toList
  | .bool b => ' ' :: (Json.writeBool b ++ ['\n'])
  | .number n => ' ' :: (writeNumber n ++ ['\n'])
  | .string s => ' ' :: Presentation.line (column + 2) s
  | .array [] => " []\n".toList
  | .array (v :: vs) => ' ' :: writeItems (column + 2) (v :: vs)
  | .object [] => " \x7b\x7d\n".toList
  | .object (m :: ms) => ' ' :: writeMembers (column + 2) (m :: ms)

/-- A value below or beside an unmarked key at the given column. -/
def writeBelow (column : Nat) : Value → List Char
  | .array (v :: vs) => '\n' :: (pad column ++ writeItems column (v :: vs))
  | .object (m :: ms) => '\n' :: (pad (column + 2) ++ writeMembers (column + 2) (m :: ms))
  | .null => writeInline column .null
  | .bool b => writeInline column (.bool b)
  | .number n => writeInline column (.number n)
  | .string s => writeInline column (.string s)
  | .array [] => writeInline column (.array [])
  | .object [] => writeInline column (.object [])

/-- The items of a list; the first one stands where the list starts. -/
def writeItems (column : Nat) : List Value → List Char
  | [] => []
  | [v] => '-' :: writeInline column v
  | v :: w :: vs => '-' :: (writeInline column v ++ pad column ++ writeItems column (w :: vs))

/-- One member of an object. -/
def writeMember (column : Nat) : String × Value → List Char
  | (k, v) =>
    if isSimpleKey k then Presentation.text (column + 2) k ++ ':' :: writeBelow column v
    else
      '?' :: ' ' :: (Presentation.line (column + 2) k ++ pad column ++ ':' :: writeInline column v)

/-- The members of an object; the first one stands where the object starts. -/
def writeMembers (column : Nat) : List (String × Value) → List Char
  | [] => []
  | [m] => writeMember column m
  | m :: n :: ms => writeMember column m ++ pad column ++ writeMembers column (n :: ms)

end

/-- A whole document. -/
def document : Value → List Char
  | .array (v :: vs) => writeItems 0 (v :: vs)
  | .object (m :: ms) => writeMembers 0 (m :: ms)
  | .null => "null\n".toList
  | .bool b => Json.writeBool b ++ ['\n']
  | .number n => writeNumber n ++ ['\n']
  | .string s => Presentation.line 2 s
  | .array [] => "[]\n".toList
  | .object [] => "\x7b\x7d\n".toList

end ApiOperations.Yaml

namespace ApiOperations

/-- The text of a value as a YAML document. -/
def Json.Value.toYaml (v : Json.Value) : String :=
  String.ofList (Yaml.document v)

end ApiOperations
