import Mathlib.Data.List.Basic
import ApiOperations.Model.Route
import ApiOperations.Proofs.Name.Identifier

/-!
Names of routes. The parts of a path go into the name of its operation as they stand, while a name is
spelled from an identifier of its text. Both come to the same, since an identifier keeps the stretches
of letters and numerals that words are cut from. Only a text without any is told apart: the name of it
is `Unnamed`, and as part of a path it leaves nothing.
-/

namespace ApiOperations.Route

open ApiOperations.Text

/-- The path ends in a placeholder, so that it leads to a single thing. -/
def leadsToSingle (path : String) : Bool :=
  ((parts path.toList).getLast?.map isPlaceholder).getD false

/-- The literal parts of the path; the last is singular if the path leads to a single thing. -/
def resources (path : String) : List (List Char) :=
  let literals := (parts path.toList).filter (!isPlaceholder ·)
  if leadsToSingle path then singularLast literals else literals

lemma operationName_eq (method path : String) : operationName method path =
    verb method (leadsToSingle path) ++ String.ofList ((resources path).flatMap pascalCase) :=
  rfl

/-- A part of a path with a letter or numeral goes into the name under its own name, another part not
at all. -/
lemma flatMap_pascalCase (ps : List (List Char)) :
    ps.flatMap pascalCase = (ps.filter (·.any isAlphanumeric)).flatMap fun part =>
      (Name.ofString (String.ofList part)).pascal.toList := by
  induction ps with
  | nil => rw [List.filter_nil, List.flatMap_nil, List.flatMap_nil]
  | cons part ps ih =>
    rw [List.flatMap_cons, ih]
    by_cases hpart : part.any isAlphanumeric
    · have hsome : ∃ c ∈ (String.ofList part).toList, isAlphanumeric c = true := by
        rw [String.toList_ofList]
        exact List.any_eq_true.mp hpart
      rw [List.filter_cons, if_pos hpart, List.flatMap_cons, Name.pascal_ofString hsome,
        String.toList_ofList, String.toList_ofList]
    · have hnone : ∀ c ∈ part, isAlphanumeric c = false := by simpa using hpart
      have hnil : pascalCase part = [] := by rw [pascalCase, words, pieces_eq_nil hnone]; rfl
      rw [List.filter_cons, if_neg hpart, hnil, List.nil_append]

/-- **Texts as they stand.** The identifier of a text with a letter or numeral has the stretches of
that text, however these are then cut into words; so the spellings of its name are those of the text
itself. Hence the name of a route is its verb and the names of those resources that have a letter or
numeral. -/
theorem spellings_of_raw_text {s : String} (h : ∃ c ∈ s.toList, isAlphanumeric c = true) :
    pieces (Name.identifier s.toList) = pieces s.toList ∧
    (Name.ofString s).pascal = String.ofList (pascalCase s.toList) ∧
    (Name.ofString s).camel = String.ofList (camelCase s.toList) ∧
    ∀ method path, operationName method path =
      verb method (leadsToSingle path) ++
        String.ofList (((resources path).filter (·.any isAlphanumeric)).flatMap fun part =>
          (Name.ofString (String.ofList part)).pascal.toList) := by
  refine ⟨Name.pieces_identifier h, Name.pascal_ofString h, Name.camel_ofString h, ?_⟩
  intro method path
  rw [operationName_eq, flatMap_pascalCase]

theorem spellings_of_raw_text_of_userIDs :
    let s := "2nd--user_IDs"
    (∃ c ∈ s.toList, isAlphanumeric c = true) ∧
    Name.identifier s.toList = "_2nd_user_IDs".toList ∧
    pieces (Name.identifier s.toList) = pieces s.toList ∧
    (Name.ofString s).pascal = "2ndUserIDs" ∧
    operationName "get" "/v1/--/2nd--user_IDs/{id}" = "getV12ndUserId" := by
  intro s
  have hsome : ∃ c ∈ s.toList, isAlphanumeric c = true := ⟨'2', by decide, by decide⟩
  obtain ⟨hpieces, hpascal, -, hroute⟩ := spellings_of_raw_text hsome
  refine ⟨hsome, by decide, hpieces, ?_, ?_⟩
  · rw [hpascal]
    decide
  · rw [hroute]
    decide

end ApiOperations.Route
