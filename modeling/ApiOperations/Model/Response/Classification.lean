import ApiOperations.Model.Parameter.Resolution
import ApiOperations.Model.Status

/-!
Splitting the responses of an operation. Every response is typed, whether it counts as an error or not;
errors keep their status and text only. Results and errors are each sorted by status, and entries of
one status keep the order of declaration.
-/

namespace ApiOperations

/-- A response that is not an error. -/
structure Outcome where
  status : Status
  /-- `void` if the response has no content. -/
  type : DataType
  mediaType : Option String
  description : Option String
  dependencies : List String
  /-- The first header that the response declares. -/
  header : Option String

/-- A response that is an error. -/
structure ErrorResponse where
  status : Status
  description : Option String
  deriving DecidableEq

structure Classified where
  results : List Outcome
  errors : List ErrorResponse

namespace Responses

open ApiOperations.Description (Document)

variable (d : Document)

/-- The type and the media type of a response: its own schema, or the preferred content. -/
def contentType (r : Description.Response) : Except Fault (DataType × Option String) :=
  match r.schema with
  | some s => (DataType.ofNode d s).map (·, none)
  | none =>
    match Parameters.preferred? r.content with
    | none => .ok (.void, none)
    | some (mediaType, media) =>
      match media.schema with
      | some s => (DataType.ofNode d s).map (·, some mediaType)
      | none => .ok (.any, some mediaType)

/-- The outcome that one entry of a response table describes. -/
def ofEntry (key : String) (node : Node Description.Response) : Except Fault Outcome := do
  let status ←
    match Status.ofKey? key with
    | some s => pure s
    | none => throw (.badStatus key)
  let r ← d.response node
  let (type, mediaType) ← contentType d r
  return {
    status
    type
    mediaType
    description := r.description.bind Text.documentation
    dependencies := type.dependencies
    header := r.headers.head?.map Prod.fst }

/-- The outcomes of a response table in the order of declaration. -/
def outcomes : Table (Node Description.Response) → Except Malformed (List Outcome)
  | [] => .ok []
  | (key, node) :: rest =>
    match ofEntry d key node with
    | .error f => .error (.response key f)
    | .ok o => do return o :: (← outcomes rest)

/-- Outcomes split by a test of their status. -/
def split (isError : Status → Bool) (os : List Outcome) : Classified where
  results := (os.filter fun o => !isError o.status).mergeSort fun a b => a.status.le b.status
  errors :=
    ((os.filter fun o => isError o.status).map fun o => ⟨o.status, o.description⟩).mergeSort
      fun a b => a.status.le b.status

/-- The results and the errors of a response table. -/
def classify (isError : Status → Bool) (t : Table (Node Description.Response)) :
    Except Malformed Classified :=
  (outcomes d t).map (split isError)

end Responses

end ApiOperations
