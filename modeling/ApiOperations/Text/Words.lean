import ApiOperations.Text.Letters
import ApiOperations.Text.Casing

/-!
Words of an identifier, and the two spellings made from them. A text is first cut at everything that
is neither letter nor numeral. Inside such a piece a word ends after a lower-case letter that an
upper-case letter follows, and before the last upper-case letter of a run that a lower-case letter
follows; numerals and letters without case belong to the word that is open.
-/

namespace ApiOperations.Text

/-- The case that the word read so far ends in. -/
inductive WordEnd where
  | fresh
  | lower
  | upper
  deriving DecidableEq

/-- The end of the word once `c` belongs to it. -/
def WordEnd.after (e : WordEnd) (c : Char) : WordEnd :=
  if isLowercase c then .lower else if isUppercase c then .upper else e

/-- Put a character in front of the first word. -/
def consWord (c : Char) : List (List Char) → List (List Char)
  | [] => [[c]]
  | w :: ws => (c :: w) :: ws

/-- The words of one piece; the first is the rest of the word whose end is `e`. -/
def wordsFrom (e : WordEnd) : List Char → List (List Char)
  | [] => []
  | [c] => [[c]]
  | c :: d :: cs =>
    if e.after c = .lower ∧ isUppercase d then [c] :: wordsFrom .fresh (d :: cs)
    else if e = .upper ∧ isUppercase c ∧ isLowercase d then
      [] :: consWord c (wordsFrom .fresh (d :: cs))
    else consWord c (wordsFrom (e.after c) (d :: cs))

/-- The maximal stretches of letters and numerals. -/
def pieces (cs : List Char) : List (List Char) :=
  (cs.splitOnP fun c => !isAlphanumeric c).filter (!·.isEmpty)

/-- The words of a text. -/
def words (cs : List Char) : List (List Char) :=
  (pieces cs).flatMap (wordsFrom .fresh)

/-- The word in lower case; a sigma at its end takes its final form. -/
def lowerWord : List Char → List Char
  | [] => []
  | [c] => if c = 'Σ' then ['ς'] else toLowercase c
  | c :: d :: cs => toLowercase c ++ lowerWord (d :: cs)

/-- The word with its first letter in upper case and the others in lower case. -/
def capitalWord : List Char → List Char
  | [] => []
  | c :: cs => toUppercase c ++ lowerWord cs

/-- All words capitalised and joined. -/
def pascalCase (cs : List Char) : List Char :=
  (words cs).flatMap capitalWord

/-- All words but the first capitalised, and joined. -/
def camelCase (cs : List Char) : List Char :=
  match words cs with
  | [] => []
  | w :: ws => lowerWord w ++ ws.flatMap capitalWord

end ApiOperations.Text
