import Mathlib.Data.List.TakeWhile
import ApiOperations.Proofs.Name
import ApiOperations.Proofs.Text.Words

/-!
The words of an identifier. An identifier keeps the stretches of letters and numerals of its text:
what stands between two of them becomes one underscore, and what stands before the first or behind the
last goes. So a name is spelled with the words of its text, if there are any, and with those of
`unnamed` otherwise.
-/

namespace ApiOperations.Name

open ApiOperations.Text

/-- The stretches of what is joined. With a separator pending, the first of them stands behind an
underscore; without one it goes on with whatever was there before. -/
lemma splitOnP_joinPieces (cs : List Char) :
    (joinPieces true cs).splitOnP (fun c => !isAlphanumeric c) = [] :: pieces cs ∧
      ∀ first rest, cs.splitOnP (fun c => !isAlphanumeric c) = first :: rest →
        (joinPieces false cs).splitOnP (fun c => !isAlphanumeric c) =
          first :: rest.filter (!·.isEmpty) := by
  induction cs with
  | nil =>
    refine ⟨rfl, fun first rest h => ?_⟩
    rw [List.splitOnP_nil] at h
    cases h
    rfl
  | cons c cs ih =>
    obtain ⟨htrue, hfalse⟩ := ih
    by_cases hc : isAlphanumeric c
    · obtain ⟨first, rest, hsplit⟩ := List.exists_cons_of_ne_nil
        (List.splitOnP_ne_nil (fun c => !isAlphanumeric c) cs)
      have hcons : (c :: cs).splitOnP (fun c => !isAlphanumeric c) = (c :: first) :: rest := by
        rw [List.splitOnP_cons_eq_if_modifyHead, if_neg (by simpa using hc), hsplit]
        rfl
      have hjoined : (c :: joinPieces false cs).splitOnP (fun c => !isAlphanumeric c) =
          (c :: first) :: rest.filter (!·.isEmpty) := by
        rw [List.splitOnP_cons_eq_if_modifyHead, if_neg (by simpa using hc), hfalse first rest hsplit]
        rfl
      constructor
      · rw [joinPieces, if_pos hc, if_pos rfl, List.splitOnP_cons_eq_if_modifyHead,
          if_pos (by decide), hjoined, pieces, hcons]
        rfl
      · intro first' rest' h
        rw [hcons] at h
        cases h
        rw [joinPieces, if_pos hc, if_neg Bool.false_ne_true, hjoined]
    · have hcons : (c :: cs).splitOnP (fun c => !isAlphanumeric c) =
          [] :: cs.splitOnP (fun c => !isAlphanumeric c) := by
        rw [List.splitOnP_cons_eq_if_modifyHead, if_pos (by simpa using hc)]
      constructor
      · rw [joinPieces, if_neg hc, htrue, pieces_cons (by simpa using hc)]
      · intro first rest h
        rw [hcons] at h
        cases h
        rw [joinPieces, if_neg hc, htrue, pieces]

lemma pieces_joinPieces (cs : List Char) : pieces (joinPieces false cs) = pieces cs := by
  obtain ⟨first, rest, hsplit⟩ := List.exists_cons_of_ne_nil
    (List.splitOnP_ne_nil (fun c => !isAlphanumeric c) cs)
  have hjoined := (splitOnP_joinPieces cs).2 first rest hsplit
  rw [pieces, hjoined, pieces, hsplit, List.filter_cons, List.filter_cons, List.filter_filter]
  simp only [Bool.and_self]

lemma dropWhile_eq_nil_iff_of_letters {cs : List Char} :
    (cs.dropWhile fun c => !isAlphanumeric c) = [] ↔ ¬∃ c ∈ cs, isAlphanumeric c = true := by
  rw [List.dropWhile_eq_nil_iff]
  simp

/-- An identifier has the stretches of its text. -/
lemma pieces_identifier {cs : List Char} (h : ∃ c ∈ cs, isAlphanumeric c = true) :
    pieces (identifier cs) = pieces cs := by
  have hbody : pieces (joinPieces false (cs.dropWhile fun c => !isAlphanumeric c)) = pieces cs := by
    rw [pieces_joinPieces, pieces_dropWhile]
  unfold identifier
  split
  · rename_i hnil
    exact absurd h (dropWhile_eq_nil_iff_of_letters.mp hnil)
  · dsimp only
    split
    · split
      · rw [pieces_cons (by decide), hbody]
      · exact hbody
    · exact hbody

lemma words_identifier {cs : List Char} (h : ∃ c ∈ cs, isAlphanumeric c = true) :
    words (identifier cs) = words cs := by
  rw [words, words, pieces_identifier h]

lemma identifier_eq_unnamed {cs : List Char} (h : ¬∃ c ∈ cs, isAlphanumeric c = true) :
    identifier cs = "unnamed".toList := by
  rw [identifier, dropWhile_eq_nil_iff_of_letters.mpr h]

/-- A name is spelled with the words of its text. -/
lemma camel_ofString {s : String} (h : ∃ c ∈ s.toList, isAlphanumeric c = true) :
    (ofString s).camel = String.ofList (camelCase s.toList) := by
  simp only [ofString, camelCase, words_identifier h]

lemma pascal_ofString {s : String} (h : ∃ c ∈ s.toList, isAlphanumeric c = true) :
    (ofString s).pascal = String.ofList (pascalCase s.toList) := by
  simp only [ofString, pascalCase, words_identifier h]

end ApiOperations.Name
