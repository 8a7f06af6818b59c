import ApiOperations.Json.Value

/-!
Leaves whose type is settled. Such a leaf answers only to its own type: a number is not a text, and a
text is not a truth value.
-/

namespace ApiOperations

inductive Atom where
  | null
  | bool (b : Bool)
  | number (n : Json.Number)
  /-- The integer zero with a minus sign: as a value it is zero, but it is no position. -/
  | negativeZero
  /-- An infinity, or not a number. -/
  | nonFinite
  | string (s : String)

end ApiOperations
