import ApiOperations.Json.Value
import ApiOperations.Model.DataType
import ApiOperations.Model.Name
import ApiOperations.Table

/-!
Parameters of an operation and the table that holds them. A table keeps its parameters by key in the
order of insertion. A parameter that is inserted removes the one under its key, in whatever location,
and a body removes every other body.
-/

namespace ApiOperations

/-- Where a parameter is sent. -/
inductive Location where
  | path
  | query
  | header
  | cookie
  | form
  | body
  deriving DecidableEq

def Location.word : Location → String
  | path => "path"
  | query => "query"
  | header => "header"
  | cookie => "cookie"
  | form => "form"
  | body => "body"

/-- A parameter with its type; a request body is one too. -/
structure Parameter where
  name : Name
  originalName : String
  location : Location
  type : DataType
  required : Bool
  default : Option Json.Value
  description : Option String
  mediaType : Option String

namespace Parameter

/-- What tells a parameter from the others of an operation. -/
def key (p : Parameter) : String :=
  p.name.camel

def isBody (p : Parameter) : Bool :=
  p.location == .body

end Parameter

/-- Parameters by key, in the order of insertion. -/
structure ParameterTable where
  slots : Table Parameter

namespace ParameterTable

def empty : ParameterTable := ⟨[]⟩

/-- The parameters of a table in order. -/
def entries (t : ParameterTable) : List Parameter :=
  t.slots.map Prod.snd

/-- Put a parameter at the end. A body removes the bodies under other keys, and then whatever stands
under the key of the parameter goes. -/
def insert (t : ParameterTable) (p : Parameter) : ParameterTable :=
  let others := if p.isBody then t.slots.filter fun e => !e.2.isBody || e.1 == p.key else t.slots
  ⟨others.filter (·.1 != p.key) ++ [(p.key, p)]⟩

/-- Insert every entry of another table, in order. -/
def merge (t u : ParameterTable) : ParameterTable :=
  u.entries.foldl insert t

/-- The table of a list of parameters. -/
def ofList (ps : List Parameter) : ParameterTable :=
  ps.foldl insert empty

/-- The parameter under the given key. -/
def get? (t : ParameterTable) (key : String) : Option Parameter :=
  t.slots.lookup key

/-- The entries in one location, in order. -/
def located (t : ParameterTable) (l : Location) : List Parameter :=
  t.entries.filter (·.location == l)

/-- The body. -/
def body? (t : ParameterTable) : Option Parameter :=
  t.entries.find? (·.isBody)

/-- The named schemas that the entries refer to. -/
def dependencies (t : ParameterTable) : List String :=
  firstOccurrences (t.entries.flatMap (·.type.dependencies))

end ParameterTable

end ApiOperations
