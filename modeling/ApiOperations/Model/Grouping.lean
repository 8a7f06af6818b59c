import ApiOperations.Model.Api

/-!
Three ways to group the operations of a model: by service, each on its own, or by the first literal
segment of the path.
-/

namespace ApiOperations

inductive Grouping where
  | service
  | operation
  | route
  deriving DecidableEq

namespace Grouping

/-- The first segment of a path that is neither empty nor starts with a placeholder. -/
def routeKey (path : String) : String :=
  match (path.toList.splitOn '/').find? fun s => !s.isEmpty && s.head? != some '{' with
  | some s => String.ofList s
  | none => "default"

/-- Put the place of an operation into the group of its key, in a list in the order of first
appearance. -/
def addToRoute (key : String) (i : Nat) : Table (List Nat) → Table (List Nat)
  | [] => [(key, [i])]
  | (k, is) :: rest => if k = key then (k, is ++ [i]) :: rest else (k, is) :: addToRoute key i rest

/-- The places of the operations by route key. -/
def routes (ops : List Operation) : Table (List Nat) :=
  ops.zipIdx.foldl (fun table (op, i) => addToRoute (routeKey op.path) i table) []

/-- The groups of a model. -/
def groups (api : Api) : Grouping → List Group
  | service => api.modules
  | operation => api.operations.zipIdx.map fun (op, i) => ⟨op.name, [i]⟩
  | route => (routes api.operations).map fun (key, is) => ⟨Name.ofString key, is⟩

end Grouping

end ApiOperations
