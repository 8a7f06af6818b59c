import ApiOperations.Description.Source
import ApiOperations.Model.Api

/-!
From files to models: a document is read from its file and then modelled, and either step may fail.
-/

namespace ApiOperations

/-- Why there is no model. -/
inductive ModelFault where
  | document (fault : DocumentFault)
  | operation (failure : OperationFailure)
  deriving DecidableEq

namespace Malformed

/-- The message and that of the fault behind it. -/
def causes (m : Malformed) : List String :=
  [m.message, m.fault.message]

end Malformed

namespace OperationFailure

/-- The message and those of the causes behind it. -/
def causes (e : OperationFailure) : List String :=
  e.message :: e.cause.causes

end OperationFailure

namespace ModelFault

def message : ModelFault → String
  | document fault => "parse error: " ++ fault.message
  | operation failure => "operation failed: " ++ failure.message

/-- The message and those of the causes behind it. -/
def causes (e : ModelFault) : List String :=
  match e with
  | document fault => e.message :: fault.causes
  | operation failure => e.message :: failure.causes

end ModelFault

namespace Api

/-- The model of the document in a file. -/
def ofFile (folder : Folder) (path : String) (o : Options) : Except ModelFault Api :=
  match Description.Document.ofFile folder path with
  | .error fault => .error (.document fault)
  | .ok d => (ofDocument d o).mapError .operation

end Api

end ApiOperations
