import Mathlib.Data.List.Basic
import ApiOperations.Model.Api
import ApiOperations.Proofs.DataType.Related

/-!
What the model of an operation reads of a document.

Types, parameters, bodies and responses are built from their own declarations; of the document only
the reusable definitions are looked at. So two documents with the same definitions build an
operation alike, whatever paths, servers or titles they have.
-/

namespace ApiOperations

open ApiOperations.Description

/-- The two documents have the same reusable definitions. -/
structure Description.Document.SameDefinitions (d e : Document) : Prop where
  schemas : d.schemaTable = e.schemaTable
  parameters : d.parameterTable = e.parameterTable
  responses : d.responseTable = e.responseTable
  requestBodies : d.requestBodyTable = e.requestBodyTable

/-- Paths are no reusable definitions. -/
lemma Description.Document.sameDefinitions_paths (d : Document) (paths : Table PathItem) :
    ({ d with paths } : Document).SameDefinitions d :=
  ⟨rfl, rfl, rfl, rfl⟩

variable {d e : Document}

namespace Description.Document.SameDefinitions

variable (h : d.SameDefinitions e)
include h

/-! ### Types -/

lemma schemaName_eq : d.schemaName = e.schemaName := by
  funext p
  rw [schemaName, schemaName, h.schemas]

lemma relatedPointers : DataType.RelatedPointers (fun _ => Eq) d e where
  congruence := Except.congruence_eq
  pointer p := by rw [DataType.ofPointer, DataType.ofPointer, h.schemaName_eq]

lemma ofNode_eq (s : Node Schema) : DataType.ofNode d s = DataType.ofNode e s :=
  DataType.related_ofNode h.relatedPointers s

lemma ofSchema_eq (s : Schema) : DataType.ofSchema d s = DataType.ofSchema e s :=
  DataType.related_ofSchema h.relatedPointers s

/-! ### Parameters and bodies -/

lemma parameter_eq (node : Node Description.Parameter) : d.parameter node = e.parameter node := by
  rw [parameter, parameter, h.parameters]

lemma response_eq (node : Node Description.Response) : d.response node = e.response node := by
  rw [response, response, h.responses]

lemma requestBody_eq (node : Node Description.RequestBody) :
    d.requestBody node = e.requestBody node := by
  rw [requestBody, requestBody, h.requestBodies]

lemma typeOf_eq (p : Description.Parameter) (l : Location) :
    Parameters.typeOf d p l = Parameters.typeOf e p l := by
  simp only [Parameters.typeOf, h.ofNode_eq, h.ofSchema_eq]

lemma ofDeclaration_eq (name : String) (p : Description.Parameter) :
    Parameters.ofDeclaration d name p = Parameters.ofDeclaration e name p := by
  simp only [Parameters.ofDeclaration, h.typeOf_eq]

lemma declared_eq (ignored : List String) (nodes : List (Node Description.Parameter)) (i : Nat) :
    Parameters.declared d ignored i nodes = Parameters.declared e ignored i nodes := by
  have hnode : ∀ node, Parameters.ofNode d ignored node = Parameters.ofNode e ignored node := by
    intro node
    simp only [Parameters.ofNode, h.parameter_eq, h.ofDeclaration_eq]
  induction nodes generalizing i with
  | nil => rfl
  | cons node nodes ih => simp only [Parameters.declared, hnode, ih]

lemma resolve_eq (ignored : List String) (nodes : List (Node Description.Parameter)) :
    Parameters.resolve d ignored nodes = Parameters.resolve e ignored nodes := by
  rw [Parameters.resolve, Parameters.resolve, h.declared_eq]

lemma ofBody_eq (node : Node Description.RequestBody) :
    Parameters.ofBody d node = Parameters.ofBody e node := by
  simp only [Parameters.ofBody, h.requestBody_eq, h.ofNode_eq]

/-! ### Responses and operations -/

lemma outcomes_eq (t : Table (Node Description.Response)) :
    Responses.outcomes d t = Responses.outcomes e t := by
  have hentry : ∀ key node, Responses.ofEntry d key node = Responses.ofEntry e key node := by
    intro key node
    simp only [Responses.ofEntry, h.response_eq, Responses.contentType, h.ofNode_eq]
  induction t with
  | nil => rfl
  | cons r rest ih => simp only [Responses.outcomes, hentry, ih]

lemma resolveOperation_eq (ignored : List String) (op : Description.Operation) :
    Operation.resolve d ignored op = Operation.resolve e ignored op := by
  simp only [Operation.resolve, Operation.bodyOf, h.resolve_eq, h.ofBody_eq, h.outcomes_eq]

/-- Documents with the same definitions build an operation alike. -/
theorem buildWith_eq (o : Options) (isError : Status → Bool) (path : String) (method : Method)
    (op : Description.Operation) (inherited : ParameterTable) :
    Operation.buildWith d o isError path method op inherited =
      Operation.buildWith e o isError path method op inherited := by
  rw [Operation.buildWith, Operation.buildWith, h.resolveOperation_eq]

end Description.Document.SameDefinitions

end ApiOperations
