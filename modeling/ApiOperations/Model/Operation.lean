import ApiOperations.Model.Response.Classification
import ApiOperations.Model.Route
import ApiOperations.Model.Settings

/-!
Building the model of one operation from its declaration, the parameters that its path hands down and
the options. The parameters of the operation override those of the path, and the request body comes
last.
-/

namespace ApiOperations

structure Operation where
  service : Name
  name : Name
  summary : Option String
  description : Option String
  deprecated : Bool
  method : Method
  /-- The path with its placeholders in camelCase. -/
  path : String
  parameters : ParameterTable
  /-- Named schemas of the parameters, then of each result. -/
  dependencies : List String
  errors : List ErrorResponse
  results : List Outcome
  /-- The header that the results agree on. -/
  responseHeader : Option String

/-- The failure of one operation. -/
structure OperationFailure where
  method : Method
  path : String
  cause : Malformed
  deriving DecidableEq

def OperationFailure.message (e : OperationFailure) : String :=
  e.method.verb ++ " " ++ e.path ++ ": " ++ e.cause.message

namespace Operation

open ApiOperations.Description (Document)

/-- The name of an operation before aliases and spelling. -/
def rawName (o : Options) (path : String) (method : Method) (op : Description.Operation) : String :=
  match o.naming with
  | .operationId => Name.rawOfId op.operationId method (Name.ofService op.tags o.defaultService)
  | .route => Route.operationName method.verb path

/-- The name of an operation: the alias of its raw name, or the raw name. -/
def nameOf (o : Options) (raw : String) : Name :=
  Name.ofString ((o.aliases.lookup raw).getD raw)

/-- The header that the results name. If they do not agree, the policy decides. -/
def selectHeader (policy : HeaderPolicy) (results : List Outcome) : Option String :=
  match results.filterMap (·.header) with
  | [] => none
  | first :: rest =>
    if rest.all (· == first) then some first
    else
      match policy with
      | .firstWins => some first
      | .requireUnique => none

/-- The parameter that a declared request body becomes. -/
def bodyOf (d : Document) (op : Description.Operation) : Except Malformed (Option Parameter) :=
  match op.requestBody with
  | none => .ok none
  | some node => Parameters.ofBody d node

/-- The parts of an operation that may be malformed, in the order in which they are looked at: its own
parameters, its body and its responses. -/
structure Resolved where
  own : ParameterTable
  body : Option Parameter
  outcomes : List Outcome

def resolve (d : Document) (ignored : List String) (op : Description.Operation) :
    Except Malformed Resolved := do
  let own ← Parameters.resolve d ignored op.parameters
  let body ← bodyOf d op
  let outcomes ← Responses.outcomes d op.responses
  return ⟨own, body, outcomes⟩

/-- The parameters of an operation: inherited ones, overridden by its own, overridden by its body. -/
def allParameters (inherited : ParameterTable) (r : Resolved) : ParameterTable :=
  match r.body with
  | none => inherited.merge r.own
  | some b => (inherited.merge r.own).insert b

/-- The model of an operation whose parts are resolved. -/
def assemble (o : Options) (isError : Status → Bool) (path : String) (method : Method)
    (op : Description.Operation) (inherited : ParameterTable) (r : Resolved) : Operation :=
  let parameters := allParameters inherited r
  let classified := Responses.split isError r.outcomes
  { service := Name.ofService op.tags o.defaultService
    name := nameOf o (rawName o path method op)
    summary := op.summary.bind Text.documentation
    description := op.description.bind Text.documentation
    deprecated := op.deprecated.getD false
    method
    path := Route.normalize path
    parameters
    dependencies := parameters.dependencies ++ classified.results.flatMap (·.dependencies)
    errors := classified.errors
    results := classified.results
    responseHeader := selectHeader o.headerPolicy classified.results }

/-- The model of an operation, with the given test for errors. -/
def buildWith (d : Document) (o : Options) (isError : Status → Bool) (path : String)
    (method : Method) (op : Description.Operation) (inherited : ParameterTable) :
    Except OperationFailure Operation :=
  match resolve d o.ignored op with
  | .error m => .error ⟨method, path, m⟩
  | .ok r => .ok (assemble o isError path method op inherited r)

/-- The model of an operation, with errors told by the threshold of the options. -/
def build (d : Document) (o : Options) (path : String) (method : Method)
    (op : Description.Operation) (inherited : ParameterTable) : Except OperationFailure Operation :=
  buildWith d o o.threshold.isError path method op inherited

end Operation

end ApiOperations
