import Mathlib.Data.List.Basic
import ApiOperations.Model.Name
import ApiOperations.Proofs.Text.Casing
import ApiOperations.Proofs.Text.Words

/-!
Spellings of names. An identifier has a letter or numeral, also if the text it is made from has none, so
that no name is spelled by an empty text. In PascalCase no name starts with a small letter of ASCII, and
the only ASCII characters in it are letters and digits.
-/

namespace ApiOperations.Name

open ApiOperations.Text

lemma exists_mem_identifier (cs : List Char) : ∃ c ∈ identifier cs, isAlphanumeric c = true := by
  unfold identifier
  have hhead := List.head?_dropWhile_not (fun c => !isAlphanumeric c) cs
  cases hbody : cs.dropWhile fun c => !isAlphanumeric c with
  | nil => exact ⟨'u', List.mem_cons_self, by decide⟩
  | cons c body =>
    rw [hbody] at hhead
    have hc : isAlphanumeric c = true := by simpa using hhead
    have hmem : c ∈ joinPieces false (c :: body) := by simp [joinPieces, hc]
    refine ⟨c, ?_, hc⟩
    dsimp only
    split
    · split
      · exact List.mem_cons_of_mem _ hmem
      · exact hmem
    · exact hmem

lemma pascal_ne_empty (s : String) : (ofString s).pascal ≠ "" := by
  intro h
  have hnil := congrArg String.toList h
  rw [ofString, String.toList_ofList] at hnil
  exact pascalCase_ne_nil (exists_mem_identifier s.toList) hnil

lemma unmarked_of_mem_pascal {s : String} : ∀ c ∈ (ofString s).pascal.toList, Unmarked c := by
  rw [ofString, String.toList_ofList]
  exact unmarked_of_mem_pascalCase

lemma isLower_of_mem_head_pascal {s : String} :
    ∀ c ∈ (ofString s).pascal.toList.head?, c.isLower = false := by
  obtain ⟨c, w, ws, hwords, -⟩ := exists_words_eq (exists_mem_identifier s.toList)
  obtain ⟨a, as, hupper⟩ := List.exists_cons_of_ne_nil (toUppercase_ne_nil c)
  have hpascal : (ofString s).pascal.toList = a :: (as ++ lowerWord w ++ ws.flatMap capitalWord) := by
    rw [ofString, String.toList_ofList, pascalCase, hwords, List.flatMap_cons, capitalWord, hupper]
    rfl
  rw [hpascal]
  rintro d ⟨⟩
  exact isLower_of_mem_toUppercase (hupper ▸ List.mem_cons_self)

end ApiOperations.Name
