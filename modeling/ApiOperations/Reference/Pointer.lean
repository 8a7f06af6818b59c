import ApiOperations.Text.Replace

/-!
Pointers to reusable definitions. A pointer names a section of the document and an entry of it, as
`#/components/<section>/<entry>` or in the older form `#/<section>/<entry>`; in an entry's name `~1`
stands for a slash and `~0` for a tilde.
-/

namespace ApiOperations

/-- A section of reusable definitions. -/
inductive Section where
  | schemas
  | parameters
  | responses
  | requestBodies
  deriving DecidableEq

namespace Section

/-- The section as it is named in messages. -/
def title : Section → String
  | schemas => "Schemas"
  | parameters => "Parameters"
  | responses => "Responses"
  | requestBodies => "RequestBodies"

/-- The section that a key of `components` names. -/
def ofComponent? (kind : List Char) : Option Section :=
  if kind = "schemas".toList then some schemas
  else if kind = "parameters".toList then some parameters
  else if kind = "responses".toList then some responses
  else if kind = "requestBodies".toList then some requestBodies
  else none

/-- The section that a key at the top of the document names. -/
def ofTopLevel? (head : List Char) : Option Section :=
  if head = "definitions".toList then some schemas
  else if head = "parameters".toList then some parameters
  else if head = "responses".toList then some responses
  else none

end Section

namespace Pointer

open ApiOperations.Text

/-- The name that an escaped token spells. -/
def unescape (token : List Char) : List Char :=
  replacePair '~' '0' '~' (replacePair '~' '1' '/' token)

/-- The characters before the first slash and those after it. -/
def splitSlash : List Char → Option (List Char × List Char)
  | [] => none
  | c :: cs => if c = '/' then some ([], cs) else (splitSlash cs).map fun r => (c :: r.1, r.2)

/-- The section and the token after `#/`. -/
def locate? (cs : List Char) : Option (Section × List Char) := do
  let (head, rest) ← splitSlash cs
  if head = "components".toList then
    let (kind, token) ← splitSlash rest
    return (← Section.ofComponent? kind, token)
  else
    return (← Section.ofTopLevel? head, rest)

/-- The section and the entry that a pointer names. -/
def parse? (pointer : String) : Option (Section × String) :=
  match pointer.toList with
  | '#' :: '/' :: cs =>
    match locate? cs with
    | some (s, token) =>
      if token = [] ∨ '/' ∈ token then none else some (s, String.ofList (unescape token))
    | none => none
  | _ => none

end Pointer

end ApiOperations
