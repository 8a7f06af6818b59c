import ApiOperations.Model.DataType.OfSchema
import ApiOperations.Model.Parameter.Table
import ApiOperations.Text.Documentation

/-!
Turning declared parameters into those of the model. A declaration is followed to its inline form,
its name decides whether it is ignored, and then it needs a location and a usable type. The request
body of OpenAPI 3 becomes one more parameter.
-/

namespace ApiOperations

/-- A node of a description that cannot be used, by the name or key it goes by. -/
inductive Malformed where
  | parameter (name : String) (fault : Fault)
  | response (key : String) (fault : Fault)
  deriving DecidableEq

namespace Malformed

def fault : Malformed → Fault
  | parameter _ f => f
  | response _ f => f

def message : Malformed → String
  | parameter n f => "malformed parameter `" ++ n ++ "`: " ++ f.message
  | response k f => "malformed response `" ++ k ++ "`: " ++ f.message

end Malformed

open ApiOperations.Description (Document Schema)

namespace Parameters

/-- The media type of a body whose fields are sent as a form, without regard to its parameters. -/
def isFormMediaType (mediaType : String) : Bool :=
  let essence := Text.trim (mediaType.toList.takeWhile (· ≠ ';'))
  ["multipart/form-data", "application/x-www-form-urlencoded"].any fun form =>
    Text.sameIgnoringAsciiCase form.toList essence

/-- The entry of a content table that counts: that of `application/json`, or the first one. -/
def preferred? {α : Type} (content : Table α) : Option (String × α) :=
  (content.find? (·.1 == "application/json")).or content.head?

/-- The location that a declaration names. -/
def locationOf : Description.Place → Location
  | .query => .query
  | .header => .header
  | .path => .path
  | .cookie => .cookie
  | .formData => .form
  | .body => .body

/-- The schema made of the type that a declaration carries itself. -/
def inlineSchema (p : Description.Parameter) : Schema :=
  { Schema.empty with
    type := p.type.map .single
    format := p.format
    items := p.items
    enum := p.enum
    default := p.default }

/-- The default value of an inline schema. -/
def schemaDefault? : Node Schema → Option Json.Value
  | .inline s => s.default
  | .ref _ => none

/-- The name by which a declaration is reported: its own, its pointer, or its place in the list. -/
def declaredName (node : Node Description.Parameter) (index : Nat) : String :=
  match node with
  | .ref p => p
  | .inline p => p.name.getD ("parameters[" ++ String.ofList (Nat.toDigits 10 index) ++ "]")

variable (d : Document)

/-- The type of a declaration at a location. -/
def typeOf (p : Description.Parameter) (l : Location) : Except Fault DataType :=
  match p.schema, p.type with
  | some s, _ => DataType.ofNode d s
  | none, some _ =>
    if l = .body then .error (.missingField "schema") else DataType.ofSchema d (inlineSchema p)
  | none, none => if l = .body then .error (.missingField "schema") else .ok .any

/-- The parameter that an inline declaration with a name describes. -/
def ofDeclaration (name : String) (p : Description.Parameter) : Except Fault Parameter :=
  match p.place with
  | none => .error (.missingField "in")
  | some place => do
    let location := locationOf place
    let type ← typeOf d p location
    return {
      name := Name.ofString name
      originalName := name
      location
      type
      required := p.required
      default := p.default.or (p.schema.bind schemaDefault?)
      description := p.description.bind Text.documentation
      mediaType := none }

/-- The parameter of one node; nothing if its name is ignored. -/
def ofNode (ignored : List String) (node : Node Description.Parameter) :
    Except Fault (Option Parameter) := do
  let p ← d.parameter node
  match p.name with
  | none => throw (.missingField "name")
  | some name => if ignored.contains name then return none else return some (← ofDeclaration d name p)

/-- The parameters of a list of nodes that starts at the given index, ignored ones left out. -/
def declared (ignored : List String) :
    Nat → List (Node Description.Parameter) → Except Malformed (List Parameter)
  | _, [] => .ok []
  | index, node :: nodes =>
    match ofNode d ignored node with
    | .error f => .error (.parameter (declaredName node index) f)
    | .ok p => do
      let ps ← declared ignored (index + 1) nodes
      return p.toList ++ ps

/-- The table of a list of nodes. -/
def resolve (ignored : List String) (nodes : List (Node Description.Parameter)) :
    Except Malformed ParameterTable :=
  (declared d ignored 0 nodes).map ParameterTable.ofList

/-- The name of a body: the one it asks for, or one by its media type. -/
def bodyName (requested : Option String) (mediaType : String) : String :=
  requested.getD (if isFormMediaType mediaType then "formData" else "requestBody")

/-- The parameter of a request body; nothing if it has no content. -/
def ofBody (node : Node Description.RequestBody) : Except Malformed (Option Parameter) :=
  match d.requestBody node with
  | .error f => .error (.parameter "requestBody" f)
  | .ok b =>
    match preferred? b.content with
    | none => .ok none
    | some (mediaType, media) =>
      let name := bodyName b.bodyName mediaType
      let type : Except Fault DataType :=
        match media.schema with
        | none => .ok .any
        | some s => DataType.ofNode d s
      match type with
      | .error f => .error (.parameter name f)
      | .ok type =>
        .ok <| some {
          name := Name.ofString name
          originalName := name
          location := .body
          type
          required := b.required
          default := media.schema.bind schemaDefault?
          description := b.description.bind Text.documentation
          mediaType := some mediaType }

end Parameters

end ApiOperations
