/-!
The tokens of YAML texts. Indentation shows as start and end tokens of block collections, and the key
token stands before every key, whether the text marks it or not.
-/

namespace ApiOperations.Yaml

/-- The characters of a URI. Escaped octets that spell no character leave a gap. -/
abbrev Uri := List (Option Char)

namespace Uri

def ofString (s : String) : Uri := s.toList.map some

/-- The text of a URI without gaps. -/
def text? (u : Uri) : Option String := (u.mapM id).map String.ofList

end Uri

/-- How a scalar is written. -/
inductive Style where
  | plain
  | singleQuoted
  | doubleQuoted
  | literal
  | folded
  deriving DecidableEq

inductive Token where
  | versionDirective (major minor : Nat)
  | tagDirective (handle : String) (uri : Uri)
  | documentStart
  | documentEnd
  | blockSequenceStart
  | blockMappingStart
  | blockEnd
  | flowSequenceStart
  | flowSequenceEnd
  | flowMappingStart
  | flowMappingEnd
  | blockEntry
  | flowEntry
  | key
  | value
  | alias (name : String)
  | anchor (name : String)
  | tag (handle : String) (suffix : Uri)
  | scalar (text : String) (style : Style)
  deriving DecidableEq

end ApiOperations.Yaml
