import ApiOperations.Description.Basic
import ApiOperations.Description.Shape
import ApiOperations.Tree.Reading

/-!
Reading API descriptions from trees. The frame of a document, from its top down to operations, is read
as written. A parameter, body, response or schema is read from settled leaves: it is a reference if it
is a record with one text under `$ref`, whatever else stands beside it, and inline otherwise.
-/

namespace ApiOperations.Description

open ApiOperations (Reading)

/-! ### Free values -/

/-- The members of a free record; every key is a text. -/
def memberKey? : Tree Atom → Option String
  | .leaf (.string k) => some k
  | _ => none

/-- A JSON value without a type of its own. Records are sorted by key, and a number that is not
finite counts as null. -/
def readValue : Nat → Tree Atom → Option Json.Value
  | _, .leaf s =>
    some <| match s with
      | .null => .null
      | .bool b => .bool b
      | .number n => .number n
      | .negativeZero => .nat 0
      | .nonFinite => .null
      | .string s => .string s
  | n + 1, .list items => (items.mapM (readValue n)).map .array
  | n + 1, .record entries =>
    (entries.mapM fun (e : Tree Atom × Tree Atom) => do
      return (← memberKey? e.1, ← readValue n e.2)).map .sortedObject
  | _, _ => none

/-! ### References -/

/-- The pointer of a reference. -/
def pointer? : Reading Atom String := fun n t => do
  (← Reading.openNamed ["$ref"] n t).required "$ref" Reading.text

/-- A reference, or else an inline object. -/
def readNode {α : Type} (inline : Reading Atom α) : Reading Atom (Node α) := fun n t =>
  match pointer? n t with
  | some p => some (.ref p)
  | none => (inline n t).map .inline

/-! ### Schemas -/

def typeKeywords : List (String × TypeKeyword) :=
  [("string", .string), ("number", .number), ("integer", .integer), ("boolean", .boolean),
    ("array", .array), ("object", .object), ("null", .null), ("file", .file)]

def readTypeKeyword : Reading Atom TypeKeyword :=
  Reading.variant typeKeywords

def readTypeSet : Reading Atom TypeSet := fun n t =>
  match readTypeKeyword n t with
  | some k => some (.single k)
  | none => (Reading.list readTypeKeyword n t).map .several

/-- A truth value, or else what every further property is. -/
def readAdditional {α : Type} (r : Reading Atom α) : Reading Atom (Additional α) := fun n t =>
  match Reading.flag n t with
  | some b => some (.allowed b)
  | none => (r n t).map .each

/-- The fields of a schema, given how the schemas inside of it are read. -/
def readSchemaFields (node : Reading Atom (Node Schema)) (f : Fields Atom) : Option Schema := do
  let type ← f.optional "type" readTypeSet
  let format ← f.optional "format" Reading.text
  let description ← f.optional "description" Reading.text
  let default ← f.optional "default" readValue
  let nullable ← f.optional "nullable" Reading.flag
  let properties ← f.defaulted "properties" (Reading.table node) []
  let required ← f.defaulted "required" (Reading.list Reading.text) []
  let additional ← f.optional "additionalProperties" (readAdditional node)
  let items ← f.optional "items" node
  let allOf ← f.defaulted "allOf" (Reading.list node) []
  let oneOf ← f.defaulted "oneOf" (Reading.list node) []
  let anyOf ← f.defaulted "anyOf" (Reading.list node) []
  let enum ← f.defaulted "enum" (Reading.list readValue) []
  let const ← f.optional "const" readValue
  return ⟨type, format, description, default, nullable, properties, required, additional, items,
    allOf, oneOf, anyOf, enum, const⟩

def readSchema : Nat → Tree Atom → Option Schema
  | 0, _ => none
  | n + 1, t => do
    let f ← Reading.openRecord schemaFields (n + 1) t
    readSchemaFields (fun m t => readNode (fun _ t => readSchema n t) m t) f

def readSchemaNode : Reading Atom (Node Schema) :=
  readNode readSchema

/-! ### Parameters, bodies and responses -/

def places : List (String × Place) :=
  [("query", .query), ("header", .header), ("path", .path), ("cookie", .cookie),
    ("formData", .formData), ("body", .body)]

def readParameter : Reading Atom Parameter := fun n t => do
  let f ← Reading.openRecord parameterFields n t
  let name ← f.optional "name" Reading.text
  let place ← f.optional "in" (Reading.variant places)
  let description ← f.optional "description" Reading.text
  let required ← f.defaulted "required" Reading.flag false
  let schema ← f.optional "schema" readSchemaNode
  let type ← f.optional "type" readTypeKeyword
  let format ← f.optional "format" Reading.text
  let items ← f.optional "items" readSchemaNode
  let enum ← f.defaulted "enum" (Reading.list readValue) []
  let default ← f.optional "default" readValue
  return ⟨name, place, description, required, schema, type, format, items, enum, default⟩

def readMediaType : Reading Atom MediaType := fun n t => do
  let f ← Reading.openRecord mediaTypeFields n t
  return ⟨← f.optional "schema" readSchemaNode⟩

def readRequestBody : Reading Atom RequestBody := fun n t => do
  let f ← Reading.openRecord requestBodyFields n t
  let description ← f.optional "description" Reading.text
  let content ← f.defaulted "content" (Reading.table readMediaType) []
  let required ← f.defaulted "required" Reading.flag false
  let bodyName ← f.optional "x-body-name" Reading.text
  return ⟨description, content, required, bodyName⟩

def readResponse : Reading Atom Response := fun n t => do
  let f ← Reading.openRecord responseFields n t
  let description ← f.optional "description" Reading.text
  let schema ← f.optional "schema" readSchemaNode
  let content ← f.defaulted "content" (Reading.table readMediaType) []
  let headers ← f.defaulted "headers" (Reading.table readValue) []
  return ⟨description, schema, content, headers⟩

/-! ### The frame -/

section Frame

variable {σ : Type} [Dialect σ]

def frameSchema : Reading σ (Node Schema) :=
  Reading.settled readSchemaNode

def frameParameter : Reading σ (Node Parameter) :=
  Reading.settled (readNode readParameter)

def frameRequestBody : Reading σ (Node RequestBody) :=
  Reading.settled (readNode readRequestBody)

def frameResponse : Reading σ (Node Response) :=
  Reading.settled (readNode readResponse)

def readParameters : Reading σ (List (Node Parameter)) :=
  Reading.list frameParameter

def readResponses : Reading σ (Table (Node Response)) :=
  Reading.table frameResponse

def readOperation : Reading σ Operation := fun n t => do
  let f ← Reading.openRecord operationShape.names n t
  let operationId ← f.optional "operationId" Reading.text
  let summary ← f.optional "summary" Reading.text
  let description ← f.optional "description" Reading.text
  let tags ← f.defaulted "tags" (Reading.list Reading.text) []
  let parameters ← f.defaulted "parameters" readParameters []
  let requestBody ← f.optional "requestBody" frameRequestBody
  let responses ← f.defaulted "responses" readResponses []
  let deprecated ← f.optional "deprecated" Reading.flag
  return ⟨operationId, summary, description, tags, parameters, requestBody, responses, deprecated⟩

def readPathItem : Reading σ PathItem := fun n t => do
  let f ← Reading.openRecord pathItemShape.names n t
  let parameters ← f.defaulted "parameters" readParameters []
  let get ← f.optional "get" readOperation
  let post ← f.optional "post" readOperation
  let put ← f.optional "put" readOperation
  let delete ← f.optional "delete" readOperation
  let patch ← f.optional "patch" readOperation
  let options ← f.optional "options" readOperation
  let head ← f.optional "head" readOperation
  let trace ← f.optional "trace" readOperation
  return ⟨parameters, get, post, put, delete, patch, options, head, trace⟩

def readInfo : Reading σ Info := fun n t => do
  let f ← Reading.openRecord infoShape.names n t
  let title ← f.required "title" Reading.text
  let description ← f.optional "description" Reading.text
  let version ← f.required "version" Reading.text
  return ⟨title, description, version⟩

def readServer : Reading σ Server := fun n t => do
  let f ← Reading.openRecord serverShape.names n t
  let url ← f.required "url" Reading.text
  let description ← f.optional "description" Reading.text
  return ⟨url, description⟩

def readComponents : Reading σ Components := fun n t => do
  let f ← Reading.openRecord componentsShape.names n t
  let schemas ← f.defaulted "schemas" (Reading.table frameSchema) []
  let responses ← f.defaulted "responses" readResponses []
  let parameters ← f.defaulted "parameters" (Reading.table frameParameter) []
  let requestBodies ← f.defaulted "requestBodies" (Reading.table frameRequestBody) []
  return ⟨schemas, responses, parameters, requestBodies⟩

def readDocument : Reading σ Document := fun n t => do
  let f ← Reading.openRecord documentShape.names n t
  let openapi ← f.optional "openapi" Reading.text
  let swagger ← f.optional "swagger" Reading.text
  let info ← f.required "info" readInfo
  let servers ← f.defaulted "servers" (Reading.list readServer) []
  let paths ← f.defaulted "paths" (Reading.table readPathItem) []
  let components ← f.optional "components" readComponents
  let host ← f.optional "host" Reading.text
  let basePath ← f.optional "basePath" Reading.text
  let schemes ← f.defaulted "schemes" (Reading.list Reading.text) []
  let definitions ← f.defaulted "definitions" (Reading.table frameSchema) []
  let parameters ← f.defaulted "parameters" (Reading.table frameParameter) []
  let responses ← f.defaulted "responses" readResponses []
  return ⟨openapi, swagger, info, servers, paths, components, host, basePath, schemes, definitions,
    parameters, responses⟩

end Frame

end ApiOperations.Description
