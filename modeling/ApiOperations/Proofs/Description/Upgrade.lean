import Mathlib.Data.List.Basic
import ApiOperations.Description.Fault

/-!
Swagger 2.0 descriptions in the layout of OpenAPI 3.

The reusable definitions move from the top of the document into its components, and pointers follow
them. A parameter that carries its own type gets a schema of that type, unless it is a body, and the
schema of a response becomes its only content. All else stays as it is. Free values, such as defaults
and headers, hold no pointers.
-/

namespace ApiOperations

/-- The node with its pointer or its inline definition changed. -/
def Node.map {α β : Type} (pointer : String → String) (inline : α → β) : Node α → Node β
  | .ref p => .ref (pointer p)
  | .inline x => .inline (inline x)

/-- The table with its values changed. -/
def Table.mapValues {α β : Type} (f : α → β) (t : Table α) : Table β :=
  t.map fun e => (e.1, f e.2)

lemma Table.lookup_mapValues {α β : Type} (f : α → β) (t : Table α) (name : String) :
    (t.mapValues f).lookup name = (t.lookup name).map f := by
  induction t with
  | nil => rfl
  | cons e t ih =>
    obtain ⟨k, v⟩ := e
    simp only [mapValues, List.map_cons, List.lookup_cons] at ih ⊢
    cases name == k <;> simp [ih]

namespace Pointer

/-- How pointers into the top of a Swagger 2.0 document start, and how OpenAPI 3 starts them. -/
def moves : List (String × String) :=
  [("#/definitions/", "#/components/schemas/"), ("#/parameters/", "#/components/parameters/"),
    ("#/responses/", "#/components/responses/")]

/-- The pointer after the move; any other pointer stays. -/
def upgrade (pointer : String) : String :=
  match moves.findSome? fun (before, after) =>
      (before.toList.isPrefixOf? pointer.toList).map (after.toList ++ ·) with
  | some cs => String.ofList cs
  | none => pointer

end Pointer

namespace Description

/-! ### Schemas -/

namespace Schema

mutual

/-- The schema with its pointers moved. -/
def upgrade : Schema → Schema
  | ⟨type, format, description, default, nullable, properties, required, additional, items, allOf,
      oneOf, anyOf, enum, const⟩ =>
    ⟨type, format, description, default, nullable, upgradeProperties properties, required,
      upgradeAdditional additional, upgradeItems items, upgradeNodes allOf, upgradeNodes oneOf,
      upgradeNodes anyOf, enum, const⟩

def upgradeNode : Node Schema → Node Schema
  | .ref p => .ref (Pointer.upgrade p)
  | .inline s => .inline (upgrade s)

def upgradeNodes : List (Node Schema) → List (Node Schema)
  | [] => []
  | s :: ss => upgradeNode s :: upgradeNodes ss

def upgradeProperties : List (String × Node Schema) → List (String × Node Schema)
  | [] => []
  | (name, s) :: rest => (name, upgradeNode s) :: upgradeProperties rest

def upgradeAdditional : Option (Additional (Node Schema)) → Option (Additional (Node Schema))
  | none => none
  | some (.allowed b) => some (.allowed b)
  | some (.each s) => some (.each (upgradeNode s))

def upgradeItems : Option (Node Schema) → Option (Node Schema)
  | none => none
  | some s => some (upgradeNode s)

end

end Schema

/-! ### Parameters, bodies and responses -/

/-- The schema made of the type that a parameter carries itself. -/
def Parameter.ownSchema (p : Parameter) : Schema :=
  { Schema.empty with
    type := p.type.map .single
    format := p.format
    items := Schema.upgradeItems p.items
    enum := p.enum
    default := p.default }

def Parameter.upgrade (p : Parameter) : Parameter :=
  { p with
    schema :=
      match p.schema, p.type with
      | some s, _ => some (Schema.upgradeNode s)
      | none, some _ => if p.place = some .body then none else some (.inline p.ownSchema)
      | none, none => none
    items := Schema.upgradeItems p.items }

def MediaType.upgrade (m : MediaType) : MediaType :=
  ⟨m.schema.map Schema.upgradeNode⟩

def RequestBody.upgrade (b : RequestBody) : RequestBody :=
  { b with content := b.content.mapValues MediaType.upgrade }

def Response.upgrade (r : Response) : Response :=
  { r with
    schema := none
    content :=
      match r.schema with
      | some s => [("application/json", ⟨some (Schema.upgradeNode s)⟩)]
      | none => r.content.mapValues MediaType.upgrade }

/-! ### Operations and documents -/

def upgradeParameter : Node Parameter → Node Parameter :=
  Node.map Pointer.upgrade Parameter.upgrade

def upgradeRequestBody : Node RequestBody → Node RequestBody :=
  Node.map Pointer.upgrade RequestBody.upgrade

def upgradeResponse : Node Response → Node Response :=
  Node.map Pointer.upgrade Response.upgrade

def Operation.upgrade (op : Operation) : Operation :=
  { op with
    parameters := op.parameters.map upgradeParameter
    requestBody := op.requestBody.map upgradeRequestBody
    responses := op.responses.mapValues upgradeResponse }

def PathItem.upgrade (item : PathItem) : PathItem where
  parameters := item.parameters.map upgradeParameter
  get := item.get.map Operation.upgrade
  post := item.post.map Operation.upgrade
  put := item.put.map Operation.upgrade
  delete := item.delete.map Operation.upgrade
  patch := item.patch.map Operation.upgrade
  options := item.options.map Operation.upgrade
  head := item.head.map Operation.upgrade
  trace := item.trace.map Operation.upgrade

/-- A Swagger 2.0 document without components, as a document of the given OpenAPI version. -/
def Document.upgrade (version : String) (d : Document) : Document :=
  { d with
    openapi := some version
    swagger := none
    paths := d.paths.mapValues PathItem.upgrade
    components := some {
      schemas := d.definitions.mapValues Schema.upgradeNode
      responses := d.responses.mapValues upgradeResponse
      parameters := d.parameters.mapValues upgradeParameter
      requestBodies := [] }
    definitions := []
    parameters := []
    responses := [] }

/-- The document is accepted if its version is one of OpenAPI 3. -/
lemma Document.checkVersion_upgrade {version : String} (d : Document)
    (hv : "3.".toList.isPrefixOf version.toList) :
    (d.upgrade version).checkVersion = .ok (d.upgrade version) := by
  simp only [checkVersion, Document.upgrade, hv, if_true]

end Description

end ApiOperations
