/-!
The parts of a document that its reader looks at. Below a record shape only the named fields are
looked at, below `whole` everything is.
-/

namespace ApiOperations

inductive Shape where
  | whole
  | list (item : Shape)
  | table (value : Shape)
  | record (fields : List (String × Shape))

namespace Shape

/-- The names of the fields of a record shape, in order. -/
def names : Shape → List String
  | record fields => fields.map Prod.fst
  | _ => []

/-- The shape of a field, if the record shape has it. -/
def field? (name : String) : Shape → Option Shape
  | record fields => fields.lookup name
  | _ => none

end Shape

end ApiOperations
