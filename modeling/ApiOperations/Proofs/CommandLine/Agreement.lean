import ApiOperations.CommandLine.Run
import ApiOperations.Proofs.Api.Groups
import ApiOperations.Proofs.Description.RoundTrip

/-!
Validation and inspection agree. Both read the settings and the document and make the model, each in
its own way, and they report it differently: validation counts, inspection prints a summary. Yet one
succeeds exactly when the other does, and the numbers are those of what the summary shows.
-/

namespace ApiOperations.CommandLine

open ApiOperations.Description (Document)

/-! ### Arguments -/

variable {input : Option String}

/-- Validation has passed and inspection has the same model, that of the document; or both have
failed. -/
inductive Agree : Validation → Except Failure Api → Prop
  | passed {d : Document} {o : Options} {api : Api} (h : Api.ofDocument d o = .ok api) :
      Agree (.passed d api) (.ok api)
  | unread (e e' : Failure) : Agree (.unread e) (.error e')
  | unmodelled (d : Document) (e e' : Failure) : Agree (.unmodelled d e) (.error e')

/-- A summary shows numbers of operations and services, and what was skipped. -/
structure Shows (grouping : Grouping) (summary : Json.Value) (operations services : Nat)
    (skipped : List String) : Prop where
  operations : (Summary.entries summary).length = operations
  services : grouping = .service → (Summary.groupsIn summary).length = services
  skipped : Summary.failuresIn summary = skipped.map .string

namespace Agree

variable {v : Validation} {r : Except Failure Api} (h : Agree v r)
include h

end Agree

/-- A folder with nothing but a document. -/
def shelf (text : String) : Folder := fun path =>
  if path = "api.json" then .ok text else .error .missing

end ApiOperations.CommandLine
