import ApiOperations.Reference.Pointer

/-!
What can be wrong with a node of a description, and how it is said.
-/

namespace ApiOperations

/-- The cause that makes a node unusable. -/
inductive Fault where
  /-- A chain of references met this pointer twice. -/
  | circular (pointer : String)
  /-- No pointer of a known form. -/
  | badPointer (pointer : String)
  /-- A pointer into another section than the one that is wanted. -/
  | wrongSection (wanted : Section) (pointer : String)
  /-- The section has no such entry. -/
  | notFound (pointer : String)
  | missingField (field : String)
  /-- No status is spelled like this. -/
  | badStatus (key : String)
  deriving DecidableEq

namespace Fault

def message : Fault → String
  | circular p => "circular reference detected: " ++ p
  | badPointer p => "invalid reference format: " ++ p
  | wrongSection s p =>
    "invalid reference format: expected a " ++ s.title ++ " reference, got " ++ p
  | notFound p => "reference target not found: " ++ p
  | missingField f => "missing required field: " ++ f
  | badStatus k => "invalid status code: " ++ k

end Fault

end ApiOperations
