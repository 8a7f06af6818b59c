import ApiOperations.Text.Blank
import ApiOperations.Text.Replace

/-!
Documentation text. Text without content counts as absent; other text is trimmed and its line breaks,
written as carriage return and line feed or as either alone, become line feeds.
-/

namespace ApiOperations.Text

/-- Every line break as one line feed. -/
def unifyBreaks (cs : List Char) : List Char :=
  (replacePair '\r' '\n' '\n' cs).map fun c => if c = '\r' then '\n' else c

/-- The documentation that a text carries, if any. -/
def documentation (text : String) : Option String :=
  match trim text.toList with
  | [] => none
  | cs => some (String.ofList (unifyBreaks cs))

end ApiOperations.Text
