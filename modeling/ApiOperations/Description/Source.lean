import ApiOperations.Description.Fault
import ApiOperations.Description.Reading
import ApiOperations.Json.Reader
import ApiOperations.Yaml.Reader

/-!
From texts and files to descriptions. JSON allows 127 open containers and YAML 128. A file is JSON if
its extension says so, and YAML otherwise.
-/

namespace ApiOperations

/-- The number of containers that may be open in a JSON text. -/
def Json.maxDepth : Nat := 127

/-- What a text says, by a reading that works for either format and the shape of what it looks at. -/
def TextFormat.read {α : Type} (format : TextFormat) (shape : Shape)
    (reading : ∀ {σ : Type} [Dialect σ], Reading σ α) (text : String) : Option α :=
  match format with
  | .json => (Json.read text).bind (reading Json.maxDepth)
  | .yaml => (Yaml.read shape text).bind (reading Yaml.maxDepth)

/-- The format of the file behind a path. -/
def TextFormat.ofPath (path : String) : TextFormat :=
  if Path.extension? path = some "json".toList then .json else .yaml

namespace Description.Document

/-- The document that a text describes. -/
def ofText (format : TextFormat) (text : String) : Except DocumentFault Document :=
  match format.read documentShape readDocument text with
  | none => .error (.malformed format)
  | some d => checkVersion d

/-- The document that the file behind a path describes. -/
def ofFile (folder : Folder) (path : String) : Except DocumentFault Document :=
  match folder path with
  | .error fault => .error (.unreadable path fault)
  | .ok text => ofText (.ofPath path) text

end Description.Document

end ApiOperations
