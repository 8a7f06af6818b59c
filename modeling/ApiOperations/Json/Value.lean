import ApiOperations.Decimal.Binary64

/-!
JSON values as data. An integer that fits 64 bits, with or without a sign, stays an integer; every
other number is a binary number. The members of an object are a list in the order of writing.
-/

namespace ApiOperations.Json

inductive Number where
  | int (n : Int)
  | float (x : Binary64)
  deriving DecidableEq

/-- The integers from the least signed to the greatest unsigned one of 64 bits. -/
def fitsInteger (n : Int) : Bool :=
  -(Nat.pow 2 63 : Int) ≤ n && n < Nat.pow 2 64

inductive Value where
  | null
  | bool (b : Bool)
  | number (n : Number)
  | string (s : String)
  | array (items : List Value)
  | object (members : List (String × Value))

namespace Value

def nat (n : Nat) : Value :=
  .number (.int n)

/-- A text, or null in its absence. -/
def ofText? : Option String → Value
  | none => .null
  | some s => .string s

/-- The text of a string value. -/
def text? : Value → Option String
  | .string s => some s
  | _ => none

/-- Put a member into a list sorted by key; an equal key takes the new value. -/
def insertMember (k : String) (v : Value) : List (String × Value) → List (String × Value)
  | [] => [(k, v)]
  | (l, w) :: rest =>
    if k < l then (k, v) :: (l, w) :: rest
    else if k = l then (k, v) :: rest
    else (l, w) :: insertMember k v rest

/-- An object with its members sorted by key; of equal keys the last one counts. -/
def sortedObject (members : List (String × Value)) : Value :=
  .object (members.foldl (fun acc m => insertMember m.1 m.2 acc) [])

end Value

end ApiOperations.Json
