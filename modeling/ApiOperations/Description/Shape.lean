import ApiOperations.Tree.Shape

/-!
The fields of the objects in an API description, in their order of declaration. An object that may be
replaced by a reference is looked at as a whole.
-/

namespace ApiOperations.Description

def schemaFields : List String :=
  ["type", "format", "description", "default", "nullable", "properties", "required",
    "additionalProperties", "items", "allOf", "oneOf", "anyOf", "enum", "const"]

def parameterFields : List String :=
  ["name", "in", "description", "required", "schema", "type", "format", "items", "enum", "default"]

def mediaTypeFields : List String :=
  ["schema"]

def requestBodyFields : List String :=
  ["description", "content", "required", "x-body-name"]

def responseFields : List String :=
  ["description", "schema", "content", "headers"]

def operationShape : Shape :=
  .record [("operationId", .whole), ("summary", .whole), ("description", .whole),
    ("tags", .list .whole), ("parameters", .list .whole), ("requestBody", .whole),
    ("responses", .table .whole), ("deprecated", .whole)]

def pathItemShape : Shape :=
  .record [("parameters", .list .whole), ("get", operationShape), ("post", operationShape),
    ("put", operationShape), ("delete", operationShape), ("patch", operationShape),
    ("options", operationShape), ("head", operationShape), ("trace", operationShape)]

def infoShape : Shape :=
  .record [("title", .whole), ("description", .whole), ("version", .whole)]

def serverShape : Shape :=
  .record [("url", .whole), ("description", .whole)]

def componentsShape : Shape :=
  .record [("schemas", .table .whole), ("responses", .table .whole),
    ("parameters", .table .whole), ("requestBodies", .table .whole)]

def documentShape : Shape :=
  .record [("openapi", .whole), ("swagger", .whole), ("info", infoShape),
    ("servers", .list serverShape), ("paths", .table pathItemShape),
    ("components", componentsShape), ("host", .whole), ("basePath", .whole),
    ("schemes", .list .whole), ("definitions", .table .whole), ("parameters", .table .whole),
    ("responses", .table .whole)]

end ApiOperations.Description
