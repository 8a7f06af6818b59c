import ApiOperations.Description.Basic

/-!
The methods of HTTP that a path may declare operations for.
-/

namespace ApiOperations

inductive Method where
  | get
  | post
  | put
  | delete
  | patch
  | options
  | head
  | trace
  deriving DecidableEq

namespace Method

/-- Every method, in the order in which the operations of a path are listed. -/
def all : List Method :=
  [get, post, put, delete, patch, options, head, trace]

/-- The method as a path item spells it. -/
def word : Method → String
  | get => "get"
  | post => "post"
  | put => "put"
  | delete => "delete"
  | patch => "patch"
  | options => "options"
  | head => "head"
  | trace => "trace"

/-- The method as a request spells it. -/
def verb : Method → String
  | get => "GET"
  | post => "POST"
  | put => "PUT"
  | delete => "DELETE"
  | patch => "PATCH"
  | options => "OPTIONS"
  | head => "HEAD"
  | trace => "TRACE"

/-- The method spelled by a word of a path item. -/
def ofWord? (s : String) : Option Method :=
  all.find? (·.word == s)

end Method

/-- The operation that a path item declares for a method. -/
def Description.PathItem.operation? (p : Description.PathItem) :
    Method → Option Description.Operation
  | .get => p.get
  | .post => p.post
  | .put => p.put
  | .delete => p.delete
  | .patch => p.patch
  | .options => p.options
  | .head => p.head
  | .trace => p.trace

/-- The operations of a path item with their methods, in order. -/
def Description.PathItem.operations (p : Description.PathItem) :
    List (Method × Description.Operation) :=
  Method.all.filterMap fun m => (p.operation? m).map (m, ·)

end ApiOperations
