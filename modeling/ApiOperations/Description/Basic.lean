import ApiOperations.Json.Value
import ApiOperations.Table

/-!
API descriptions: documents of Swagger 2.0 and OpenAPI 3, cut down to what the operations of an API
depend on. Where the formats allow a reference in place of an object, the object is a `Node`.
-/

namespace ApiOperations

/-- A reference to a reusable definition, or the definition itself. -/
inductive Node (α : Type) where
  | ref (pointer : String)
  | inline (body : α)

namespace Description

/-! ### Schemas -/

/-- A type keyword; `file` belongs to Swagger 2.0. -/
inductive TypeKeyword where
  | string
  | number
  | integer
  | boolean
  | array
  | object
  | null
  | file
  deriving DecidableEq

/-- The value of `type`: one keyword or a list of them. -/
inductive TypeSet where
  | single (keyword : TypeKeyword)
  | several (keywords : List TypeKeyword)
  deriving DecidableEq

/-- What `additionalProperties` says: a plain yes or no, or what each one is. -/
inductive Additional (α : Type) where
  | allowed (b : Bool)
  | each (value : α)

/-- The part of a JSON schema that affects types. -/
structure Schema where
  type : Option TypeSet
  format : Option String
  description : Option String
  default : Option Json.Value
  nullable : Option Bool
  properties : List (String × Node Schema)
  required : List String
  additional : Option (Additional (Node Schema))
  items : Option (Node Schema)
  allOf : List (Node Schema)
  oneOf : List (Node Schema)
  anyOf : List (Node Schema)
  enum : List Json.Value
  const : Option Json.Value

/-- The schema without any keyword. -/
def Schema.empty : Schema :=
  ⟨none, none, none, none, none, [], [], none, none, [], [], [], [], none⟩

/-! ### Parameters, bodies and responses -/

/-- The value of `in`; `formData` and `body` belong to Swagger 2.0. -/
inductive Place where
  | query
  | header
  | path
  | cookie
  | formData
  | body
  deriving DecidableEq

/-- A parameter. Swagger 2.0 puts the type of one that is not a body beside its name. -/
structure Parameter where
  name : Option String
  place : Option Place
  description : Option String
  required : Bool
  schema : Option (Node Schema)
  type : Option TypeKeyword
  format : Option String
  items : Option (Node Schema)
  enum : List Json.Value
  default : Option Json.Value

/-- A media type of a body or a response. -/
structure MediaType where
  schema : Option (Node Schema)

/-- A request body of OpenAPI 3. -/
structure RequestBody where
  description : Option String
  content : Table MediaType
  required : Bool
  bodyName : Option String

/-- A response, with a schema of its own in Swagger 2.0 and with content in OpenAPI 3. -/
structure Response where
  description : Option String
  schema : Option (Node Schema)
  content : Table MediaType
  headers : Table Json.Value

/-! ### Operations and documents -/

structure Operation where
  operationId : Option String
  summary : Option String
  description : Option String
  tags : List String
  parameters : List (Node Parameter)
  requestBody : Option (Node RequestBody)
  responses : Table (Node Response)
  deprecated : Option Bool

/-- The parameters shared by the operations of a path, and the operations by method. -/
structure PathItem where
  parameters : List (Node Parameter)
  get : Option Operation
  post : Option Operation
  put : Option Operation
  delete : Option Operation
  patch : Option Operation
  options : Option Operation
  head : Option Operation
  trace : Option Operation

structure Info where
  title : String
  description : Option String
  version : String

structure Server where
  url : String
  description : Option String

/-- The reusable definitions of OpenAPI 3. -/
structure Components where
  schemas : Table (Node Schema)
  responses : Table (Node Response)
  parameters : Table (Node Parameter)
  requestBodies : Table (Node RequestBody)

/-- A document. The fields after `components` belong to Swagger 2.0. -/
structure Document where
  openapi : Option String
  swagger : Option String
  info : Info
  servers : List Server
  paths : Table PathItem
  components : Option Components
  host : Option String
  basePath : Option String
  schemes : List String
  definitions : Table (Node Schema)
  parameters : Table (Node Parameter)
  responses : Table (Node Response)

namespace Document

/-- The version that the document declares, in whichever field. -/
def version (d : Document) : String :=
  (d.openapi.or d.swagger).getD ""

/-- The document follows Swagger 2.0. -/
def isSwagger (d : Document) : Bool :=
  d.swagger.isSome

end Document

end Description

end ApiOperations
