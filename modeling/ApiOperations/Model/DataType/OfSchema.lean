import ApiOperations.Model.DataType
import ApiOperations.Model.Name
import ApiOperations.Reference.Chain

/-!
The type that a schema describes. Composition comes first: alternatives make a union and common parts
an intersection. Then texts in `enum`, a text in `const` and the type keywords decide, and without any
of them properties or items do. A schema that may be null widens its type by null.
-/

namespace ApiOperations.DataType

open ApiOperations.Description

/-- The union with null, unless the type is null itself or holds every value. -/
def orNull : DataType → DataType
  | null => null
  | any => any
  | t => union [t, null]

/-- The literal types of the texts among some values. -/
def literals (values : List Json.Value) : List DataType :=
  values.filterMap fun v => v.text?.map literal

/-- The literal types of an enumeration as one type; nothing if it has no text. -/
def ofEnum? (values : List Json.Value) : Option DataType :=
  match literals values with
  | [] => none
  | [t] => some t
  | ts => some (union ts)

/-- The literal type of a text constant. -/
def ofConst? (value : Option Json.Value) : Option DataType :=
  (value.bind Json.Value.text?).map literal

/-- The type of a text with a format. -/
def ofFormat (format : Option String) : DataType :=
  match format with
  | some "date-time" => dateTime
  | some "date" => dateTime
  | some "binary" => binary
  | _ => string

/-- The reference to the schema behind a pointer. -/
def ofPointer (d : Document) (pointer : String) : Except Fault DataType :=
  (d.schemaName pointer).map fun name => ref (Name.ofString name).pascal

/-- The types of the parts of a schema, each of which may be unusable. -/
structure Parts where
  oneOf : Except Fault (List DataType)
  anyOf : Except Fault (List DataType)
  allOf : Except Fault (List DataType)
  /-- One field for each property. -/
  fields : Except Fault (List (ObjectField DataType))
  /-- The type of every further property, if it is described. -/
  value : Except Fault DataType
  /-- The type of the items of an array; anything if nothing is said of them. -/
  item : Except Fault DataType

namespace Parts

variable (p : Parts) (s : Schema)

/-- The type of an object: its fields if it has properties, else a map if further properties are
described or allowed. -/
def object : Except Fault DataType :=
  if !s.properties.isEmpty then p.fields.map .object
  else
    match s.additional with
    | some (.each _) => p.value.map map
    | some (.allowed true) => .ok (map any)
    | some (.allowed false) => .ok any
    | none => .ok any

/-- The type of one keyword. -/
def keyword : TypeKeyword → Except Fault DataType
  | .string => .ok (ofFormat s.format)
  | .number => .ok number
  | .integer => .ok integer
  | .boolean => .ok boolean
  | .null => .ok null
  | .file => .ok binary
  | .array => p.item.map array
  | .object => p.object s

/-- The type of a list of keywords: the union of the others, with null last if it is among them. -/
def keywords (ks : List TypeKeyword) : Except Fault DataType := do
  let variants ← (ks.filter (· ≠ .null)).mapM (p.keyword s)
  match variants, ks.contains .null with
  | [], true => return null
  | [], false => return any
  | [t], false => return t
  | ts, false => return union ts
  | ts, true => return union (ts ++ [null])

/-- The type without any keyword: an object or an array if the schema speaks of one. -/
def untyped : Except Fault DataType :=
  if !s.properties.isEmpty || s.additional.isSome then p.object s
  else if s.items.isSome then p.item.map array
  else .ok any

/-- The type of a schema before null is added to it. -/
def base : Except Fault DataType :=
  if !s.oneOf.isEmpty then p.oneOf.map union
  else if !s.anyOf.isEmpty then p.anyOf.map union
  else if !s.allOf.isEmpty then do
    match ← p.allOf with
    | [t] => return t
    | ts =>
      if s.properties.isEmpty then return intersection ts
      else return intersection (ts ++ [.object (← p.fields)])
  else
    match (ofEnum? s.enum).or (ofConst? s.const) with
    | some t => .ok t
    | none =>
      match s.type with
      | some (.single k) => p.keyword s k
      | some (.several ks) => p.keywords s ks
      | none => p.untyped s

end Parts

variable (d : Document)

mutual

/-- The type of an inline schema. -/
def ofSchema : Schema → Except Fault DataType
  | s@⟨_, _, _, _, nullable, properties, required, additional, items, allOf, oneOf, anyOf, _, _⟩ =>
    let parts : Parts :=
      ⟨ofNodes oneOf, ofNodes anyOf, ofNodes allOf, ofProperties required properties,
        ofAdditional additional, ofItems items⟩
    if nullable = some true then (parts.base s).map orNull else parts.base s

/-- The type of a reference or an inline schema. -/
def ofNode : Node Schema → Except Fault DataType
  | .ref p => ofPointer d p
  | .inline s => ofSchema s

def ofNodes : List (Node Schema) → Except Fault (List DataType)
  | [] => .ok []
  | s :: ss => do
    let t ← ofNode s
    return t :: (← ofNodes ss)

def ofItems : Option (Node Schema) → Except Fault DataType
  | none => .ok any
  | some s => ofNode s

def ofAdditional : Option (Additional (Node Schema)) → Except Fault DataType
  | some (.each s) => ofNode s
  | some (.allowed _) => .ok any
  | none => .ok any

/-- The fields of an object, one for each property. -/
def ofProperties (required : List String) :
    List (String × Node Schema) → Except Fault (List (ObjectField DataType))
  | [] => .ok []
  | (name, s) :: rest => do
    let t ← ofNode s
    return ⟨name, t, required.contains name⟩ :: (← ofProperties required rest)

end

end ApiOperations.DataType
