import ApiOperations.Json.Value
import ApiOperations.Model.Grouping

/-!
The summary of a model: its title, its servers, and under each group the operations with their
parameters by location, results and errors. Members are sorted by name.
-/

namespace ApiOperations.Summary

open ApiOperations.Json (Value)

/-- An object with sorted members. -/
def object (members : List (String × Value)) : Value :=
  .sortedObject members

def texts (ss : List String) : Value :=
  .array (ss.map .string)

def parameter (p : Parameter) : Value :=
  object [("name", .string p.key), ("original_name", .string p.originalName),
    ("type", .string p.type.label), ("required", .bool p.required),
    ("default", p.default.getD .null)]

/-- The parameters in each location; the body stands alone. -/
def parameters (t : ParameterTable) : Value :=
  let located (l : Location) : Value := .array ((t.located l).map parameter)
  object [("path", located .path), ("query", located .query), ("form", located .form),
    ("header", located .header), ("cookie", located .cookie),
    ("body", (t.body?.map parameter).getD .null)]

def result (r : Outcome) : Value :=
  object [("status", .string r.status.display), ("type", .string r.type.label),
    ("media_type", .ofText? r.mediaType)]

def error (e : ErrorResponse) : Value :=
  object [("status", .string e.status.display), ("description", .ofText? e.description)]

def operation (op : Operation) : Value :=
  object [("name", .string op.name.camel), ("service", .string op.service.pascal),
    ("method", .string op.method.verb), ("path", .string op.path),
    ("deprecated", .bool op.deprecated), ("summary", .ofText? op.summary),
    ("parameters", parameters op.parameters), ("results", .array (op.results.map result)),
    ("errors", .array (op.errors.map error)), ("response_header", .ofText? op.responseHeader),
    ("dependencies", texts op.dependencies)]

/-- The operations of a group; a place that does not exist is passed over. -/
def group (api : Api) (g : Group) : Value :=
  object [("name", .string g.name.pascal),
    ("operations", .array (g.members.filterMap fun i => api.operations[i]?.map operation))]

/-- The summary of a model under a grouping. -/
def ofApi (api : Api) (grouping : Grouping) : Value :=
  object [("info", object [("title", .string api.info.title), ("version", .string api.info.version)]),
    ("servers", texts (api.servers.map (·.url))),
    ("groups", .array ((grouping.groups api).map (group api))),
    ("failures", texts (api.failures.map (·.message)))]

end ApiOperations.Summary
