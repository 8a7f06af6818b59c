import ApiOperations.Description.Basic

/-!
Writing API descriptions as JSON values. Members stand in the order of declaration; absent fields and
empty lists and tables are left out, but whether a parameter or body is required and the content of a
body are always there.
-/

namespace ApiOperations.Description

open ApiOperations.Json (Value)

/-! ### Members -/

/-- The members of an object, of which some may be left out. -/
abbrev Members := List (String × Value)

def member (name : String) (v : Value) : Members :=
  [(name, v)]

/-- A member that is left out when absent. -/
def memberOpt (name : String) : Option Value → Members
  | none => []
  | some v => [(name, v)]

def memberText (name : String) (s : Option String) : Members :=
  memberOpt name (s.map .string)

/-- A list that is left out when empty. -/
def memberList (name : String) : List Value → Members
  | [] => []
  | vs => [(name, .array vs)]

/-- A table that is left out when empty. -/
def memberTable (name : String) : Members → Members
  | [] => []
  | ms => [(name, .object ms)]

/-- The names of a list, as a list that is left out when empty. -/
def memberTexts (name : String) (ss : List String) : Members :=
  memberList name (ss.map .string)

def refValue (pointer : String) : Value :=
  .object [("$ref", .string pointer)]

/-! ### Schemas -/

def TypeKeyword.word : TypeKeyword → String
  | string => "string"
  | number => "number"
  | integer => "integer"
  | boolean => "boolean"
  | array => "array"
  | object => "object"
  | null => "null"
  | file => "file"

def TypeSet.toJson : TypeSet → Value
  | single k => .string k.word
  | several ks => .array (ks.map fun k => .string k.word)

mutual

def Schema.toJson : Schema → Value
  | ⟨type, format, description, default, nullable, properties, required, additional, items, allOf,
      oneOf, anyOf, enum, const⟩ =>
    .object <|
      memberOpt "type" (type.map TypeSet.toJson) ++ memberText "format" format ++
      memberText "description" description ++ memberOpt "default" default ++
      memberOpt "nullable" (nullable.map .bool) ++
      memberTable "properties" (schemaMembers properties) ++ memberTexts "required" required ++
      additionalMember additional ++ itemsMember items ++
      memberList "allOf" (schemaValues allOf) ++ memberList "oneOf" (schemaValues oneOf) ++
      memberList "anyOf" (schemaValues anyOf) ++ memberList "enum" enum ++
      memberOpt "const" const

def schemaValue : Node Schema → Value
  | .ref p => refValue p
  | .inline s => s.toJson

def schemaValues : List (Node Schema) → List Value
  | [] => []
  | s :: ss => schemaValue s :: schemaValues ss

def schemaMembers : List (String × Node Schema) → Members
  | [] => []
  | (k, s) :: rest => (k, schemaValue s) :: schemaMembers rest

def additionalMember : Option (Additional (Node Schema)) → Members
  | none => []
  | some (.allowed b) => [("additionalProperties", .bool b)]
  | some (.each s) => [("additionalProperties", schemaValue s)]

def itemsMember : Option (Node Schema) → Members
  | none => []
  | some s => [("items", schemaValue s)]

end

/-! ### Parameters, bodies and responses -/

/-- A reference, or the form of what stands inline. -/
def nodeValue {α : Type} (inline : α → Value) : Node α → Value
  | .ref p => refValue p
  | .inline x => inline x

/-- A table as the members of an object. -/
def tableMembers {α : Type} (f : α → Value) (t : Table α) : Members :=
  t.map fun e => (e.1, f e.2)

def Place.word : Place → String
  | query => "query"
  | header => "header"
  | path => "path"
  | cookie => "cookie"
  | formData => "formData"
  | body => "body"

def Parameter.toJson (p : Parameter) : Value :=
  .object <|
    memberText "name" p.name ++ memberText "in" (p.place.map Place.word) ++
    memberText "description" p.description ++ member "required" (.bool p.required) ++
    memberOpt "schema" (p.schema.map schemaValue) ++
    memberText "type" (p.type.map TypeKeyword.word) ++ memberText "format" p.format ++
    itemsMember p.items ++ memberList "enum" p.enum ++ memberOpt "default" p.default

def MediaType.toJson (m : MediaType) : Value :=
  .object (memberOpt "schema" (m.schema.map schemaValue))

def RequestBody.toJson (b : RequestBody) : Value :=
  .object <|
    memberText "description" b.description ++
    member "content" (.object (tableMembers MediaType.toJson b.content)) ++
    member "required" (.bool b.required) ++ memberText "x-body-name" b.bodyName

def Response.toJson (r : Response) : Value :=
  .object <|
    memberText "description" r.description ++ memberOpt "schema" (r.schema.map schemaValue) ++
    memberTable "content" (tableMembers MediaType.toJson r.content) ++
    memberTable "headers" r.headers

/-! ### Operations and documents -/

def parameterValues (ps : List (Node Parameter)) : List Value :=
  ps.map (nodeValue Parameter.toJson)

def responseMembers (rs : Table (Node Response)) : Members :=
  tableMembers (nodeValue Response.toJson) rs

def Operation.toJson (o : Operation) : Value :=
  .object <|
    memberText "operationId" o.operationId ++ memberText "summary" o.summary ++
    memberText "description" o.description ++ memberTexts "tags" o.tags ++
    memberList "parameters" (parameterValues o.parameters) ++
    memberOpt "requestBody" (o.requestBody.map (nodeValue RequestBody.toJson)) ++
    memberTable "responses" (responseMembers o.responses) ++
    memberOpt "deprecated" (o.deprecated.map .bool)

def PathItem.toJson (p : PathItem) : Value :=
  .object <|
    memberList "parameters" (parameterValues p.parameters) ++
    memberOpt "get" (p.get.map Operation.toJson) ++ memberOpt "post" (p.post.map Operation.toJson) ++
    memberOpt "put" (p.put.map Operation.toJson) ++
    memberOpt "delete" (p.delete.map Operation.toJson) ++
    memberOpt "patch" (p.patch.map Operation.toJson) ++
    memberOpt "options" (p.options.map Operation.toJson) ++
    memberOpt "head" (p.head.map Operation.toJson) ++
    memberOpt "trace" (p.trace.map Operation.toJson)

def Info.toJson (i : Info) : Value :=
  .object <|
    member "title" (.string i.title) ++ memberText "description" i.description ++
    member "version" (.string i.version)

def Server.toJson (s : Server) : Value :=
  .object (member "url" (.string s.url) ++ memberText "description" s.description)

def Components.toJson (c : Components) : Value :=
  .object <|
    memberTable "schemas" (schemaMembers c.schemas) ++
    memberTable "responses" (responseMembers c.responses) ++
    memberTable "parameters" (tableMembers (nodeValue Parameter.toJson) c.parameters) ++
    memberTable "requestBodies" (tableMembers (nodeValue RequestBody.toJson) c.requestBodies)

def Document.toJson (d : Document) : Value :=
  .object <|
    memberText "openapi" d.openapi ++ memberText "swagger" d.swagger ++
    member "info" d.info.toJson ++ memberList "servers" (d.servers.map Server.toJson) ++
    memberTable "paths" (tableMembers PathItem.toJson d.paths) ++
    memberOpt "components" (d.components.map Components.toJson) ++
    memberText "host" d.host ++ memberText "basePath" d.basePath ++
    memberTexts "schemes" d.schemes ++
    memberTable "definitions" (schemaMembers d.definitions) ++
    memberTable "parameters" (tableMembers (nodeValue Parameter.toJson) d.parameters) ++
    memberTable "responses" (responseMembers d.responses)

end ApiOperations.Description
