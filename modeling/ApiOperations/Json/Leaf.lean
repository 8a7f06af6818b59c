import ApiOperations.Tree.Basic
import ApiOperations.Json.Number

/-!
The leaves of JSON texts. A numeral keeps its spelling until a number is wanted, and a string whose
escapes spell a lone surrogate is no text, so a value that nobody looks at may hold either.
-/

namespace ApiOperations.Json

inductive Leaf where
  | null
  | bool (b : Bool)
  | number (numeral : Numeral)
  | string (text : Option String)

namespace Leaf

def text? : Leaf → Option String
  | string text => text
  | _ => none

def natural? : Leaf → Option Nat
  | number numeral =>
    match numeral.number? with
    | some (.int n) => if 0 ≤ n then some n.toNat else none
    | _ => none
  | _ => none

/-- The leaf with its type settled. -/
def atom? : Leaf → Option Atom
  | null => some .null
  | bool b => some (.bool b)
  | number numeral => numeral.number?.map .number
  | string text => text.map .string

instance : Dialect Leaf where
  text? := text?
  flag?
    | bool b => some b
    | _ => none
  natural? := natural?
  absent?
    | null => some true
    | _ => some false
  isNull
    | null => true
    | _ => false
  isEmpty _ := false
  key? leaf := (text? leaf).map Key.name
  atom? := atom?
  positional := true
  variantRecords := true

end Leaf

end ApiOperations.Json
