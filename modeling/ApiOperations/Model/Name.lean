import ApiOperations.Text.Words
import ApiOperations.Model.Method

/-!
Names of the model. A name keeps its original text beside its two spellings, PascalCase and
camelCase. Spelling starts from an identifier: letters and numerals stay, every stretch of other
characters between them becomes one underscore, and a text without any is called `unnamed`.
-/

namespace ApiOperations

structure Name where
  original : String
  pascal : String
  camel : String
  deriving DecidableEq

namespace Name

open ApiOperations.Text

/-- Letters and numerals, with one underscore for each stretch of others before one of them. -/
def joinPieces (separated : Bool) : List Char → List Char
  | [] => []
  | c :: cs =>
    if isAlphanumeric c then
      if separated then '_' :: c :: joinPieces false cs else c :: joinPieces false cs
    else joinPieces true cs

/-- The identifier of a text. One that starts with an ASCII digit gets an underscore before it. -/
def identifier (cs : List Char) : List Char :=
  match cs.dropWhile fun c => !isAlphanumeric c with
  | [] => "unnamed".toList
  | body =>
    let joined := joinPieces false body
    match cs with
    | c :: _ => if c.isDigit then '_' :: joined else joined
    | [] => joined

/-- The name of a text. -/
def ofString (s : String) : Name :=
  let cs := identifier s.toList
  ⟨s, String.ofList (pascalCase cs), String.ofList (camelCase cs)⟩

/-- The text from its first letter on, if it has one. -/
def fromFirstLetter? (s : String) : Option String :=
  match s.toList.dropWhile fun c => !isAlphabetic c with
  | [] => none
  | cs => some (String.ofList cs)

/-- The service of an operation: its first tag from the first letter on, or the default. -/
def ofService (tags : List String) (default : String) : Name :=
  ofString ((tags.head?.bind fromFirstLetter?).getD default)

/-- The unspelled name of an operation with the given id: the id from its first letter on, or the
method followed by the service. -/
def rawOfId (id : Option String) (method : Method) (service : Name) : String :=
  (id.bind fromFirstLetter?).getD (method.word ++ service.pascal)

end Name

end ApiOperations
