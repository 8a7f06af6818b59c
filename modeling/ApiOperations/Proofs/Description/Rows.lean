import ApiOperations.Description.Writing
import ApiOperations.Proofs.Tree.Record

/-!
Descriptions as rows. Every object of a description is written with the members of one row, which has
a place for each field in the order of declaration.
-/

namespace ApiOperations.Description

open Json (Value)

/-! ### Members -/

lemma members_cons (name : String) (v? : Option Value) (row : Row) :
    Row.members ((name, v?) :: row) = memberOpt name v? ++ Row.members row := by
  cases v? <;> rfl

lemma member_eq (name : String) (v : Value) : member name v = memberOpt name (some v) := rfl

lemma memberText_eq (name : String) (s : Option String) :
    memberText name s = memberOpt name (s.map .string) := rfl

lemma memberList_eq (name : String) (vs : List Value) :
    memberList name vs = memberOpt name (Row.ofList vs) := by
  cases vs <;> rfl

lemma memberTexts_eq (name : String) (ss : List String) :
    memberTexts name ss = memberOpt name (Row.ofList (ss.map .string)) :=
  memberList_eq name _

lemma memberTable_eq (name : String) (ms : Members) :
    memberTable name ms = memberOpt name (Row.ofTable ms) := by
  cases ms <;> rfl

/-! ### Schemas -/

/-- What `additionalProperties` says, as a value. -/
def additionalValue : Additional (Node Schema) → Value
  | .allowed b => .bool b
  | .each s => schemaValue s

lemma additionalMember_eq (additional : Option (Additional (Node Schema))) :
    additionalMember additional =
      memberOpt "additionalProperties" (additional.map additionalValue) := by
  rcases additional with _ | ⟨b⟩ | ⟨s⟩ <;> rfl

lemma itemsMember_eq (items : Option (Node Schema)) :
    itemsMember items = memberOpt "items" (items.map schemaValue) := by
  cases items <;> rfl

lemma schemaValues_eq (ss : List (Node Schema)) : schemaValues ss = ss.map schemaValue := by
  induction ss with
  | nil => rfl
  | cons s ss ih => rw [schemaValues, ih, List.map_cons]

lemma schemaMembers_eq (t : List (String × Node Schema)) :
    schemaMembers t = tableMembers schemaValue t := by
  induction t with
  | nil => rfl
  | cons e t ih => rw [schemaMembers, ih, tableMembers, tableMembers, List.map_cons]

lemma schemaValue_eq : schemaValue = nodeValue Schema.toJson := by
  funext s
  cases s <;> rfl

def Schema.row (s : Schema) : Row :=
  [("type", s.type.map TypeSet.toJson), ("format", s.format.map .string),
    ("description", s.description.map .string), ("default", s.default),
    ("nullable", s.nullable.map .bool),
    ("properties", Row.ofTable (tableMembers schemaValue s.properties)),
    ("required", Row.ofList (s.required.map .string)),
    ("additionalProperties", s.additional.map additionalValue), ("items", s.items.map schemaValue),
    ("allOf", Row.ofList (s.allOf.map schemaValue)), ("oneOf", Row.ofList (s.oneOf.map schemaValue)),
    ("anyOf", Row.ofList (s.anyOf.map schemaValue)), ("enum", Row.ofList s.enum), ("const", s.const)]

lemma Schema.toJson_eq (s : Schema) : s.toJson = .object s.row.members := by
  cases s
  simp only [toJson, row, members_cons, Row.members_nil, memberText_eq, memberTexts_eq,
    memberList_eq, memberTable_eq, additionalMember_eq, itemsMember_eq, schemaValues_eq,
    schemaMembers_eq, List.append_assoc, List.append_nil]

/-! ### Parameters, bodies and responses -/

def Parameter.row (p : Parameter) : Row :=
  [("name", p.name.map .string), ("in", p.place.map fun place => .string place.word),
    ("description", p.description.map .string), ("required", some (.bool p.required)),
    ("schema", p.schema.map schemaValue), ("type", p.type.map fun type => .string type.word),
    ("format", p.format.map .string), ("items", p.items.map schemaValue),
    ("enum", Row.ofList p.enum), ("default", p.default)]

lemma Parameter.toJson_eq (p : Parameter) : p.toJson = .object p.row.members := by
  simp only [toJson, row, members_cons, Row.members_nil, member_eq, memberText_eq, memberList_eq,
    itemsMember_eq, Option.map_map, Function.comp_def, List.append_assoc, List.append_nil]

def MediaType.row (m : MediaType) : Row :=
  [("schema", m.schema.map schemaValue)]

lemma MediaType.toJson_eq (m : MediaType) : m.toJson = .object m.row.members := by
  simp only [toJson, row, members_cons, Row.members_nil, List.append_nil]

def RequestBody.row (b : RequestBody) : Row :=
  [("description", b.description.map .string),
    ("content", some (.object (tableMembers MediaType.toJson b.content))),
    ("required", some (.bool b.required)), ("x-body-name", b.bodyName.map .string)]

lemma RequestBody.toJson_eq (b : RequestBody) : b.toJson = .object b.row.members := by
  simp only [toJson, row, members_cons, Row.members_nil, member_eq, memberText_eq, List.append_assoc,
    List.append_nil]

def Response.row (r : Response) : Row :=
  [("description", r.description.map .string), ("schema", r.schema.map schemaValue),
    ("content", Row.ofTable (tableMembers MediaType.toJson r.content)),
    ("headers", Row.ofTable r.headers)]

lemma Response.toJson_eq (r : Response) : r.toJson = .object r.row.members := by
  simp only [toJson, row, members_cons, Row.members_nil, memberText_eq, memberTable_eq,
    List.append_assoc, List.append_nil]

/-! ### Operations and documents -/

def Operation.row (o : Operation) : Row :=
  [("operationId", o.operationId.map .string), ("summary", o.summary.map .string),
    ("description", o.description.map .string), ("tags", Row.ofList (o.tags.map .string)),
    ("parameters", Row.ofList (parameterValues o.parameters)),
    ("requestBody", o.requestBody.map (nodeValue RequestBody.toJson)),
    ("responses", Row.ofTable (responseMembers o.responses)), ("deprecated", o.deprecated.map .bool)]

lemma Operation.toJson_eq (o : Operation) : o.toJson = .object o.row.members := by
  simp only [toJson, row, members_cons, Row.members_nil, memberText_eq, memberTexts_eq,
    memberList_eq, memberTable_eq, List.append_assoc, List.append_nil]

def PathItem.row (p : PathItem) : Row :=
  [("parameters", Row.ofList (parameterValues p.parameters)), ("get", p.get.map Operation.toJson),
    ("post", p.post.map Operation.toJson), ("put", p.put.map Operation.toJson),
    ("delete", p.delete.map Operation.toJson), ("patch", p.patch.map Operation.toJson),
    ("options", p.options.map Operation.toJson), ("head", p.head.map Operation.toJson),
    ("trace", p.trace.map Operation.toJson)]

lemma PathItem.toJson_eq (p : PathItem) : p.toJson = .object p.row.members := by
  simp only [toJson, row, members_cons, Row.members_nil, memberList_eq, List.append_assoc,
    List.append_nil]

def Info.row (i : Info) : Row :=
  [("title", some (.string i.title)), ("description", i.description.map .string),
    ("version", some (.string i.version))]

lemma Info.toJson_eq (i : Info) : i.toJson = .object i.row.members := by
  simp only [toJson, row, members_cons, Row.members_nil, member_eq, memberText_eq, List.append_assoc,
    List.append_nil]

def Server.row (s : Server) : Row :=
  [("url", some (.string s.url)), ("description", s.description.map .string)]

lemma Server.toJson_eq (s : Server) : s.toJson = .object s.row.members := by
  simp only [toJson, row, members_cons, Row.members_nil, member_eq, memberText_eq, List.append_nil]

def Components.row (c : Components) : Row :=
  [("schemas", Row.ofTable (tableMembers schemaValue c.schemas)),
    ("responses", Row.ofTable (responseMembers c.responses)),
    ("parameters", Row.ofTable (tableMembers (nodeValue Parameter.toJson) c.parameters)),
    ("requestBodies", Row.ofTable (tableMembers (nodeValue RequestBody.toJson) c.requestBodies))]

lemma Components.toJson_eq (c : Components) : c.toJson = .object c.row.members := by
  simp only [toJson, row, members_cons, Row.members_nil, memberTable_eq, schemaMembers_eq,
    List.append_assoc, List.append_nil]

def Document.row (d : Document) : Row :=
  [("openapi", d.openapi.map .string), ("swagger", d.swagger.map .string),
    ("info", some d.info.toJson), ("servers", Row.ofList (d.servers.map Server.toJson)),
    ("paths", Row.ofTable (tableMembers PathItem.toJson d.paths)),
    ("components", d.components.map Components.toJson), ("host", d.host.map .string),
    ("basePath", d.basePath.map .string), ("schemes", Row.ofList (d.schemes.map .string)),
    ("definitions", Row.ofTable (tableMembers schemaValue d.definitions)),
    ("parameters", Row.ofTable (tableMembers (nodeValue Parameter.toJson) d.parameters)),
    ("responses", Row.ofTable (responseMembers d.responses))]

lemma Document.toJson_eq (d : Document) : d.toJson = .object d.row.members := by
  simp only [toJson, row, members_cons, Row.members_nil, member_eq, memberText_eq, memberTexts_eq,
    memberList_eq, memberTable_eq, schemaMembers_eq, List.append_assoc, List.append_nil]

end ApiOperations.Description
