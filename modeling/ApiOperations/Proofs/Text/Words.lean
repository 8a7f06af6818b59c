import Mathlib.Data.List.Basic
import ApiOperations.Proofs.Text.Spelling

/-!
Stretches of letters and numerals, and the first word of a text. Everything about stretches follows
from one equation: a character that is neither letter nor numeral cuts them.
-/

namespace ApiOperations.Text

variable {c : Char} {cs : List Char}

/-! ### Stretches -/

lemma pieces_append_cons (hc : isAlphanumeric c = false) (ds cs : List Char) :
    pieces (ds ++ c :: cs) = pieces ds ++ pieces cs := by
  unfold pieces
  rw [List.splitOnP_append_cons ds cs (by simpa using hc), List.filter_append]

lemma pieces_cons (hc : isAlphanumeric c = false) (cs : List Char) :
    pieces (c :: cs) = pieces cs := by
  have hsplit := pieces_append_cons hc [] cs
  simpa [pieces, List.splitOnP_nil] using hsplit

lemma pieces_dropWhile (cs : List Char) :
    pieces (cs.dropWhile fun c => !isAlphanumeric c) = pieces cs := by
  induction cs with
  | nil => rfl
  | cons c cs ih =>
    by_cases hc : isAlphanumeric c
    · rw [List.dropWhile_cons_of_neg (by simpa using hc)]
    · rw [List.dropWhile_cons_of_pos (by simpa using hc), ih, pieces_cons (by simpa using hc)]

lemma pieces_of_forall (hne : cs ≠ []) (h : ∀ c ∈ cs, isAlphanumeric c = true) :
    pieces cs = [cs] := by
  have hsplit : cs.splitOnP (fun c => !isAlphanumeric c) = [cs] :=
    List.splitOnP_eq_singleton fun c hc => by simp [h c hc]
  rw [pieces, hsplit]
  simpa using hne

lemma pieces_eq_nil (h : ∀ c ∈ cs, isAlphanumeric c = false) : pieces cs = [] := by
  induction cs with
  | nil => rfl
  | cons c cs ih =>
    obtain ⟨hc, hcs⟩ := List.forall_mem_cons.mp h
    rw [pieces_cons hc, ih hcs]

/-! ### Words -/

lemma words_append_cons (hc : isAlphanumeric c = false) (ds cs : List Char) :
    words (ds ++ c :: cs) = words ds ++ words cs := by
  rw [words, pieces_append_cons hc, List.flatMap_append, words, words]

lemma words_of_forall (hne : cs ≠ []) (h : ∀ c ∈ cs, isAlphanumeric c = true) :
    words cs = wordsFrom .fresh cs := by
  rw [words, pieces_of_forall hne h, List.flatMap_singleton]

/-- At the start of a piece no word ends before its first character. -/
lemma exists_wordsFrom_fresh (c : Char) (cs : List Char) :
    ∃ w ws, wordsFrom .fresh (c :: cs) = (c :: w) :: ws := by
  cases cs with
  | nil => exact ⟨[], [], rfl⟩
  | cons d ds =>
    rw [wordsFrom]
    split
    · exact ⟨[], _, rfl⟩
    · rw [if_neg (by simp)]
      cases wordsFrom (WordEnd.fresh.after c) (d :: ds) with
      | nil => exact ⟨[], [], rfl⟩
      | cons w ws => exact ⟨w, ws, rfl⟩

/-- The first word of a text starts with a letter or numeral. -/
lemma exists_words_eq (h : ∃ c ∈ cs, isAlphanumeric c = true) :
    ∃ c w ws, words cs = (c :: w) :: ws ∧ isAlphanumeric c = true := by
  cases hpieces : pieces cs with
  | nil =>
    -- without a stretch there would be no letter or numeral at all
    obtain ⟨c, hc, halpha⟩ := h
    have hmem : c ∈ (words cs).flatten := by
      rw [flatten_words]
      exact List.mem_filter.mpr ⟨hc, halpha⟩
    rw [words, hpieces] at hmem
    simp at hmem
  | cons piece rest =>
    have hpiece : piece ∈ pieces cs := hpieces ▸ List.mem_cons_self
    cases piece with
    | nil =>
      have hne := (List.mem_filter.mp hpiece).2
      simp at hne
    | cons c piece =>
      obtain ⟨w, ws, hwords⟩ := exists_wordsFrom_fresh c piece
      refine ⟨c, w, ws ++ rest.flatMap (wordsFrom .fresh), ?_, ?_⟩
      · rw [words, hpieces, List.flatMap_cons, hwords, List.cons_append]
      · exact isAlphanumeric_of_mem_pieces hpiece c List.mem_cons_self

end ApiOperations.Text
