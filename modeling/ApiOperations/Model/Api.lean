import ApiOperations.Model.Operation

/-!
The model of a whole document. A pass over its paths, and over the methods of each, gathers the
operations that can be built; a path whose own parameters are malformed fails each of its operations.
Under the policy that aborts the first failure ends the pass, under the other one failures are gathered
beside the operations.
-/

namespace ApiOperations

/-- Operations that go together, by their places in the list of all operations. -/
structure Group where
  name : Name
  members : List Nat
  deriving DecidableEq

/-- The model of a document. -/
structure Api where
  info : Description.Info
  servers : List Description.Server
  operations : List Operation
  /-- The operations by service. -/
  modules : List Group
  /-- What was left out when failures are skipped. -/
  failures : List OperationFailure

namespace Api

open ApiOperations.Description (Document PathItem)

/-! ### The pass over the paths -/

/-- The model of a declared pair of a path and a method, or why it has none. -/
abbrev Built := Except OperationFailure Operation

/-- The model of an operation of a path, given the parameters that the path hands down. -/
def buildUnder (d : Document) (o : Options) (path : String)
    (inherited : Except Malformed ParameterTable) (method : Method) (op : Description.Operation) :
    Built :=
  match inherited with
  | .ok t => Operation.build d o path method op t
  | .error e => .error ⟨method, path, e⟩

/-- What a pass has gathered so far. -/
structure Gathered where
  operations : List Operation
  failures : List OperationFailure

/-- Take in what was built, or the failure as the policy wants it. -/
def Gathered.add (policy : FailurePolicy) (g : Gathered) : Built → Except OperationFailure Gathered
  | .ok op => .ok { g with operations := g.operations ++ [op] }
  | .error e =>
    match policy with
    | .abort => .error e
    | .skip => .ok { g with failures := g.failures ++ [e] }

/-- The pass over the operations of one path. The parameters of the path are resolved once. -/
def gatherPath (d : Document) (o : Options) (g : Gathered) (entry : String × PathItem) :
    Except OperationFailure Gathered :=
  let (path, item) := entry
  let inherited := Parameters.resolve d o.ignored item.parameters
  item.operations.foldlM (fun g (m, op) => g.add o.onError (buildUnder d o path inherited m op)) g

/-- The pass over all paths. -/
def gather (d : Document) (o : Options) : Except OperationFailure Gathered :=
  d.paths.foldlM (gatherPath d o) ⟨[], []⟩

/-! ### Services -/

/-- Put the place of an operation into the group of its service, in a list sorted by the PascalCase
name. The first operation of a service names the group. -/
def addToService (service : Name) (i : Nat) : List Group → List Group
  | [] => [⟨service, [i]⟩]
  | g :: gs =>
    if service.pascal < g.name.pascal then ⟨service, [i]⟩ :: g :: gs
    else if service.pascal = g.name.pascal then ⟨g.name, g.members ++ [i]⟩ :: gs
    else g :: addToService service i gs

/-- The operations by service. -/
def services (ops : List Operation) : List Group :=
  ops.zipIdx.foldl (fun gs (op, i) => addToService op.service i gs) []

/-! ### Servers -/

/-- The servers of a document. Swagger 2.0 puts one together from scheme, host and base path. -/
def serversOf (d : Document) : List Description.Server :=
  if !d.servers.isEmpty then d.servers
  else
    let base := d.basePath.getD ""
    match d.host with
    | some host => [⟨d.schemes.head?.getD "https" ++ "://" ++ host ++ base, none⟩]
    | none => if base = "" then [] else [⟨base, none⟩]

/-! ### The model -/

/-- The model of a document, or the failure that the policy does not skip. -/
def ofDocument (d : Document) (o : Options) : Except OperationFailure Api := do
  let g ← gather d o
  return {
    info := d.info
    servers := serversOf d
    operations := g.operations
    modules := services g.operations
    failures := g.failures }

end Api

end ApiOperations
