import ApiOperations.Text.Quoted

/-!
Types of values in the model, the named schemas that a type refers to, and the label that summaries
show for it.
-/

namespace ApiOperations

/-- A field of an inline object. -/
structure ObjectField (α : Type) where
  name : String
  type : α
  required : Bool

inductive DataType where
  | string
  | literal (s : String)
  | number
  | integer
  | boolean
  | null
  | array (item : DataType)
  | object (fields : List (ObjectField DataType))
  /-- Texts to values of one type. -/
  | map (value : DataType)
  /-- A named schema. -/
  | ref (name : String)
  | union (variants : List DataType)
  | intersection (parts : List DataType)
  | any
  | void
  | dateTime
  | binary

/-- The distinct members of a list, in the order of their first occurrence. -/
def firstOccurrences {α : Type} [BEq α] (xs : List α) : List α :=
  xs.foldl (fun seen x => if seen.contains x then seen else seen ++ [x]) []

namespace DataType

mutual

/-- The names of schemas in a type, from left to right with repetitions. -/
def refs : DataType → List String
  | array t => refs t
  | map t => refs t
  | object fs => fieldRefs fs
  | ref n => [n]
  | union ts => listRefs ts
  | intersection ts => listRefs ts
  | string | literal _ | number | integer | boolean | null | any | void | dateTime | binary => []

def listRefs : List DataType → List String
  | [] => []
  | t :: ts => refs t ++ listRefs ts

def fieldRefs : List (ObjectField DataType) → List String
  | [] => []
  | ⟨_, t, _⟩ :: fs => refs t ++ fieldRefs fs

end

/-- The named schemas that a type refers to. -/
def dependencies (t : DataType) : List String :=
  firstOccurrences t.refs

mutual

/-- The label of a type. -/
def labelChars : DataType → List Char
  | string => "string".toList
  | literal s => Text.quoted s.toList
  | number => "number".toList
  | integer => "integer".toList
  | boolean => "boolean".toList
  | null => "null".toList
  | array t => labelChars t ++ "[]".toList
  | object _ => "object".toList
  | map t => "map<".toList ++ labelChars t ++ ">".toList
  | ref n => n.toList
  | union ts => joinLabels " | ".toList ts
  | intersection ts => joinLabels " & ".toList ts
  | any => "any".toList
  | void => "void".toList
  | dateTime => "datetime".toList
  | binary => "binary".toList

/-- The labels of several types with a separator between them. -/
def joinLabels (separator : List Char) : List DataType → List Char
  | [] => []
  | [t] => labelChars t
  | t :: u :: ts => labelChars t ++ separator ++ joinLabels separator (u :: ts)

end

def label (t : DataType) : String :=
  String.ofList t.labelChars

end DataType

end ApiOperations
