import ApiOperations.Model.Status
import ApiOperations.Table
import ApiOperations.Tree.Reading
import ApiOperations.Tree.Shape

/-!
Settings: how names are derived, which parameters are ignored, where errors begin and what happens to
an operation that cannot be built. Every setting has a default.
-/

namespace ApiOperations

/-- Where the names of operations come from. -/
inductive Naming where
  | operationId
  | route
  deriving DecidableEq

/-- What to do when results name different headers. -/
inductive HeaderPolicy where
  | firstWins
  | requireUnique
  deriving DecidableEq

/-- What to do with an operation that cannot be built. -/
inductive FailurePolicy where
  | abort
  | skip
  deriving DecidableEq

/-- The settings as a file gives them. -/
structure Settings where
  input : String
  naming : Naming
  defaultService : String
  aliases : Table String
  ignored : List String
  errorFloor : Nat
  defaultIsError : Bool
  headerPolicy : HeaderPolicy
  onError : FailurePolicy

/-- The settings as the model uses them. -/
structure Options where
  naming : Naming
  aliases : Table String
  defaultService : String
  ignored : List String
  threshold : Status.Threshold
  headerPolicy : HeaderPolicy
  onError : FailurePolicy

namespace Settings

/-- The service of operations without a usable tag, if nothing else is set. -/
def serviceName : String := "Service"

def default : Settings where
  input := "openapi.yaml"
  naming := .operationId
  defaultService := serviceName
  aliases := []
  ignored := ["api-version"]
  errorFloor := 400
  defaultIsError := false
  headerPolicy := .firstWins
  onError := .abort

/-- A service name without content gives way to the usual one. -/
def effectiveService (s : Settings) : String :=
  if Text.isAllBlank s.defaultService then serviceName else s.defaultService

def toOptions (s : Settings) : Options where
  naming := s.naming
  aliases := s.aliases
  defaultService := s.effectiveService
  ignored := s.ignored
  threshold := ⟨s.errorFloor, s.defaultIsError⟩
  headerPolicy := s.headerPolicy
  onError := s.onError

/-! ### Reading -/

def namings : List (String × Naming) :=
  [("use_operation_id", .operationId), ("use_route_based", .route)]

def headerPolicies : List (String × HeaderPolicy) :=
  [("first_wins", .firstWins), ("require_unique", .requireUnique)]

def failurePolicies : List (String × FailurePolicy) :=
  [("abort", .abort), ("skip", .skip)]

def namingShape : Shape :=
  .record [("strategy", .whole), ("default_service", .whole), ("aliases", .table .whole)]

def parametersShape : Shape :=
  .record [("ignore", .list .whole)]

def responsesShape : Shape :=
  .record [("error_status_floor", .whole), ("default_is_error", .whole), ("header_policy", .whole)]

def shape : Shape :=
  .record [("input", .whole), ("naming", namingShape), ("parameters", parametersShape),
    ("responses", responsesShape), ("on_error", .whole)]

section Reading

variable {σ : Type} [Dialect σ]

def readNaming (s : Settings) : Reading σ Settings := fun n t => do
  let f ← Reading.openRecord namingShape.names n t
  let naming ← f.defaulted "strategy" (Reading.variant namings) s.naming
  let defaultService ← f.defaulted "default_service" Reading.text s.defaultService
  let aliases ← f.defaulted "aliases" (Reading.table Reading.text) s.aliases
  return { s with naming, defaultService, aliases }

def readParameters (s : Settings) : Reading σ Settings := fun n t => do
  let f ← Reading.openRecord parametersShape.names n t
  let ignored ← f.defaulted "ignore" (Reading.list Reading.text) s.ignored
  return { s with ignored }

def readResponses (s : Settings) : Reading σ Settings := fun n t => do
  let f ← Reading.openRecord responsesShape.names n t
  let errorFloor ← f.defaulted "error_status_floor" Reading.natural16 s.errorFloor
  let defaultIsError ← f.defaulted "default_is_error" Reading.flag s.defaultIsError
  let headerPolicy ← f.defaulted "header_policy" (Reading.variant headerPolicies) s.headerPolicy
  return { s with errorFloor, defaultIsError, headerPolicy }

/-- Settings from a tree; what it does not say keeps its default. -/
def read : Reading σ Settings := fun n t => do
  let f ← Reading.openRecord shape.names n t
  let input ← f.defaulted "input" Reading.text default.input
  let s ← f.defaulted "naming" (readNaming { default with input }) { default with input }
  let s ← f.defaulted "parameters" (readParameters s) s
  let s ← f.defaulted "responses" (readResponses s) s
  let onError ← f.defaulted "on_error" (Reading.variant failurePolicies) s.onError
  return { s with onError }

end Reading

/-- The settings file that a new project gets. -/
def template : String :=
  "# opmodel configuration\n" ++
  "input: openapi.yaml\n" ++
  "\n" ++
  "naming:\n" ++
  "  strategy: use_operation_id  # use_operation_id | use_route_based\n" ++
  "  default_service: Service    # service for operations without tags\n" ++
  "  aliases: \x7b\x7d\n" ++
  "    # getPetById: fetchPet    # raw operation name → custom name\n" ++
  "\n" ++
  "parameters:\n" ++
  "  ignore:\n" ++
  "    - api-version\n" ++
  "\n" ++
  "responses:\n" ++
  "  error_status_floor: 400     # codes at or above this are errors\n" ++
  "  default_is_error: false\n" ++
  "  header_policy: first_wins   # first_wins | require_unique\n" ++
  "\n" ++
  "on_error: abort               # abort | skip\n"

end Settings

end ApiOperations
