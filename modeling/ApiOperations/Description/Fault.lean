import ApiOperations.Description.Basic
import ApiOperations.Files

/-!
Documents that can be used, and why others cannot. A document must declare exactly one version, a
Swagger version 2 or an OpenAPI version 3.
-/

namespace ApiOperations

/-- What a text is written in. -/
inductive TextFormat where
  | json
  | yaml
  deriving DecidableEq

def TextFormat.title : TextFormat → String
  | json => "JSON"
  | yaml => "YAML"

/-- Why there is no document. -/
inductive DocumentFault where
  /-- The file behind the path cannot be read as text. -/
  | unreadable (path : String) (fault : ReadFault)
  /-- The text is not of the format, or not a description. -/
  | malformed (format : TextFormat)
  | unsupportedVersion (version : String)
  | missingField (field : String)
  deriving DecidableEq

namespace DocumentFault

/-- What is said of a text that is not of its format, or not a description. -/
def malformedWords : String := "the text is not well-formed or does not describe an API"

def message : DocumentFault → String
  | unreadable path fault => "failed to read " ++ path ++ ": " ++ fault.message
  | malformed format => "failed to parse " ++ format.title ++ ": " ++ malformedWords
  | unsupportedVersion version => "unsupported OpenAPI version: " ++ version
  | missingField field => "missing required field: " ++ field

/-- The message and those of the causes behind it. -/
def causes (e : DocumentFault) : List String :=
  match e with
  | unreadable _ fault => [e.message, fault.message]
  | malformed _ => [e.message, malformedWords]
  | unsupportedVersion _ => [e.message]
  | missingField _ => [e.message]

end DocumentFault

namespace Description.Document

/-- The document, if it declares exactly one version and a supported one. -/
def checkVersion (d : Document) : Except DocumentFault Document :=
  match d.swagger, d.openapi with
  | some v, none =>
    if "2.".toList.isPrefixOf v.toList then .ok d else .error (.unsupportedVersion d.version)
  | none, some v =>
    if "3.".toList.isPrefixOf v.toList then .ok d else .error (.unsupportedVersion d.version)
  | none, none => .error (.missingField "openapi")
  | some _, some _ => .error (.unsupportedVersion d.version)

end Description.Document

end ApiOperations
