import Mathlib.Data.List.Basic
import ApiOperations.Proofs.Text.Ascii
import ApiOperations.Text.Words

/-!
The characters of a spelling. Words consist of letters and numerals, and changing the case of a letter
or numeral gives letters and numerals, as far as ASCII is concerned. So no ASCII character but letters
and digits stands in a spelling, whatever text it is made from.
-/

namespace ApiOperations.Text

/-- Not one of the ASCII characters that are neither letters nor digits. -/
def Unmarked (c : Char) : Prop :=
  c.toNat < 0x80 → c.isAlphanum = true

instance (c : Char) : Decidable (Unmarked c) :=
  inferInstanceAs (Decidable (c.toNat < 0x80 → c.isAlphanum = true))

lemma unmarked_of_isAlphanumeric {c : Char} (h : isAlphanumeric c = true) : Unmarked c :=
  fun hc => isAlphanumeric_of_ascii hc ▸ h

/-! ### Letter case -/

/-- What holds of all characters in a map, and of `c`, holds of the images of `c`. -/
lemma of_mem_mapped {p : Char → Prop} {shifts : List Shift} {exceptions : List (Nat × List Nat)}
    (hs : ∀ s ∈ shifts, ∀ i ≤ s.run.last - s.run.first, p (Char.ofNat (s.target + i)))
    (he : ∀ e ∈ exceptions, ∀ n ∈ e.2, p (Char.ofNat n)) {c d : Char} (hc : p c)
    (hd : d ∈ mapped shifts exceptions c) : p d := by
  unfold mapped shiftBy at hd
  cases hshift : shifts.find? (·.run.contains c.toNat) with
  | some s =>
    simp only [hshift, Option.map_some, List.mem_singleton] at hd
    have hrun := List.find?_some hshift
    simp only [Run.contains, Bool.and_eq_true, decide_eq_true_eq] at hrun
    rw [hd]
    exact hs s (List.mem_of_find?_eq_some hshift) _ (Nat.sub_le_sub_right hrun.1.2 _)
  | none =>
    simp only [hshift, Option.map_none] at hd
    cases hmany : exceptions.lookup c.toNat with
    | some ns =>
      simp only [hmany, List.mem_map] at hd
      obtain ⟨n, hn, rfl⟩ := hd
      obtain ⟨l, l', rfl, -⟩ := List.lookup_eq_some_iff.mp hmany
      exact he _ (List.mem_append_right _ List.mem_cons_self) n hn
    | none =>
      simp only [hmany, List.mem_singleton] at hd
      exact hd ▸ hc

/-- Both case maps have this form, with their own map inside ASCII and their own tables outside. -/
lemma Unmarked.of_mem_cased {ascii : Char → Char} {shifts : List Shift}
    {exceptions : List (Nat × List Nat)}
    (ha : ∀ c, (ascii c).isAlphanum = c.isAlphanum)
    (hs : ∀ s ∈ shifts, ∀ i ≤ s.run.last - s.run.first, Unmarked (Char.ofNat (s.target + i)))
    (he : ∀ e ∈ exceptions, ∀ n ∈ e.2, Unmarked (Char.ofNat n)) {c d : Char} (h : Unmarked c)
    (hd : d ∈ if c.toNat < 0x80 then [ascii c] else mapped shifts exceptions c) : Unmarked d := by
  split at hd
  · rename_i hc
    rw [List.mem_singleton.mp hd]
    exact fun _ => (ha c).trans (h hc)
  · exact of_mem_mapped hs he h hd

lemma Unmarked.of_mem_toLowercase {c d : Char} (h : Unmarked c) (hd : d ∈ toLowercase c) :
    Unmarked d :=
  h.of_mem_cased isAlphanum_toLower (by decide +kernel) (by decide) hd

lemma Unmarked.of_mem_toUppercase {c d : Char} (h : Unmarked c) (hd : d ∈ toUppercase c) :
    Unmarked d :=
  h.of_mem_cased isAlphanum_toUpper (by decide +kernel) (by decide) hd

/-! ### Words -/

lemma eq_false_of_mem_splitOnP {p : Char → Bool} {cs piece : List Char}
    (h : piece ∈ cs.splitOnP p) : ∀ c ∈ piece, p c = false := by
  induction cs generalizing piece with
  | nil =>
    rw [List.splitOnP_nil] at h
    rw [List.mem_singleton.mp h]
    exact fun c hc => absurd hc List.not_mem_nil
  | cons d cs ih =>
    obtain ⟨first, rest, hsplit⟩ := List.exists_cons_of_ne_nil (List.splitOnP_ne_nil p cs)
    rw [List.splitOnP_cons_eq_if_modifyHead] at h
    rw [hsplit] at h ih
    split at h
    · rcases List.mem_cons.mp h with rfl | h
      · exact fun c hc => absurd hc List.not_mem_nil
      · exact ih h
    · rename_i hd
      rcases List.mem_cons.mp h with rfl | h
      · exact List.forall_mem_cons.mpr ⟨Bool.eq_false_iff.mpr hd, ih List.mem_cons_self⟩
      · exact ih (List.mem_cons_of_mem _ h)

lemma isAlphanumeric_of_mem_pieces {cs piece : List Char} (h : piece ∈ pieces cs) :
    ∀ c ∈ piece, isAlphanumeric c = true := by
  intro c hc
  have hpiece := eq_false_of_mem_splitOnP (List.mem_filter.mp h).1 c hc
  rwa [Bool.not_eq_false'] at hpiece

lemma flatten_consWord (c : Char) (ws : List (List Char)) :
    (consWord c ws).flatten = c :: ws.flatten := by
  cases ws <;> rfl

/-- A piece is cut into its words. -/
lemma flatten_wordsFrom (e : WordEnd) (cs : List Char) : (wordsFrom e cs).flatten = cs := by
  induction e, cs using wordsFrom.induct with
  | case1 => rfl
  | case2 => rfl
  | case3 e c d cs hlower ih =>
    rw [wordsFrom, if_pos hlower, List.flatten_cons, ih, List.singleton_append]
  | case4 e c d cs hlower hupper ih =>
    rw [wordsFrom, if_neg hlower, if_pos hupper, List.flatten_cons, flatten_consWord, ih,
      List.nil_append]
  | case5 e c d cs hlower hupper ih =>
    rw [wordsFrom, if_neg hlower, if_neg hupper, flatten_consWord, ih]

lemma isAlphanumeric_of_mem_words {cs w : List Char} (h : w ∈ words cs) :
    ∀ c ∈ w, isAlphanumeric c = true := by
  intro c hc
  obtain ⟨piece, hpiece, hw⟩ := List.mem_flatMap.mp h
  have hmem : c ∈ (wordsFrom .fresh piece).flatten := List.mem_flatten.mpr ⟨w, hw, hc⟩
  rw [flatten_wordsFrom] at hmem
  exact isAlphanumeric_of_mem_pieces hpiece c hmem

/-! ### Spellings -/

lemma unmarked_of_mem_lowerWord {w : List Char} (h : ∀ c ∈ w, Unmarked c) :
    ∀ c ∈ lowerWord w, Unmarked c := by
  induction w using lowerWord.induct with
  | case1 => exact h
  | case2 => exact List.forall_mem_singleton.mpr (by decide)
  | case3 c hsigma =>
    rw [lowerWord, if_neg hsigma]
    exact fun d hd => (h c List.mem_cons_self).of_mem_toLowercase hd
  | case4 c c' cs ih =>
    obtain ⟨hc, hcs⟩ := List.forall_mem_cons.mp h
    intro d hd
    rw [lowerWord, List.mem_append] at hd
    exact hd.elim hc.of_mem_toLowercase (ih hcs d)

lemma unmarked_of_mem_capitalWord {w : List Char} (h : ∀ c ∈ w, Unmarked c) :
    ∀ c ∈ capitalWord w, Unmarked c := by
  cases w with
  | nil => exact h
  | cons c cs =>
    obtain ⟨hc, hcs⟩ := List.forall_mem_cons.mp h
    intro d hd
    rw [capitalWord, List.mem_append] at hd
    exact hd.elim hc.of_mem_toUppercase (unmarked_of_mem_lowerWord hcs d)

lemma unmarked_of_mem_words {cs w : List Char} (h : w ∈ words cs) : ∀ c ∈ w, Unmarked c :=
  fun c hc => unmarked_of_isAlphanumeric (isAlphanumeric_of_mem_words h c hc)

lemma unmarked_of_mem_flatMap_capitalWord {ws : List (List Char)}
    (h : ∀ w ∈ ws, ∀ c ∈ w, Unmarked c) : ∀ c ∈ ws.flatMap capitalWord, Unmarked c := by
  intro c hc
  obtain ⟨w, hw, hc⟩ := List.mem_flatMap.mp hc
  exact unmarked_of_mem_capitalWord (h w hw) c hc

lemma unmarked_of_mem_pascalCase {cs : List Char} : ∀ c ∈ pascalCase cs, Unmarked c :=
  unmarked_of_mem_flatMap_capitalWord fun _ => unmarked_of_mem_words

lemma unmarked_of_mem_camelCase {cs : List Char} : ∀ c ∈ camelCase cs, Unmarked c := by
  have hwords : ∀ w ∈ words cs, ∀ c ∈ w, Unmarked c := fun _ => unmarked_of_mem_words
  intro c hc
  unfold camelCase at hc
  split at hc
  · cases hc
  · rename_i w ws hsplit
    rw [hsplit] at hwords
    obtain ⟨hw, hws⟩ := List.forall_mem_cons.mp hwords
    rcases List.mem_append.mp hc with hc | hc
    · exact unmarked_of_mem_lowerWord hw c hc
    · exact unmarked_of_mem_flatMap_capitalWord hws c hc

/-! ### What words keep -/

lemma flatten_splitOnP (p : Char → Bool) (cs : List Char) :
    (cs.splitOnP p).flatten = cs.filter (!p ·) := by
  induction cs with
  | nil => rfl
  | cons c cs ih =>
    obtain ⟨first, rest, hsplit⟩ := List.exists_cons_of_ne_nil (List.splitOnP_ne_nil p cs)
    rw [List.splitOnP_cons_eq_if_modifyHead]
    rw [hsplit] at ih ⊢
    cases hc : p c <;> simp [hc, ← ih]

/-- The words of a text hold its letters and numerals, in order. -/
lemma flatten_words (cs : List Char) : (words cs).flatten = cs.filter isAlphanumeric := by
  have hpieces : (pieces cs).flatten = cs.filter isAlphanumeric := by
    rw [pieces, List.flatten_filter_not_isEmpty, flatten_splitOnP]
    simp only [Bool.not_not]
  rw [words, List.flatMap_def, List.flatten_flatten, List.map_map, ← hpieces]
  congr 1
  exact List.map_id'' (flatten_wordsFrom .fresh) _

/-- No character disappears in a map, if none of the exceptions is empty. -/
lemma mapped_ne_nil {shifts : List Shift} {exceptions : List (Nat × List Nat)}
    (he : ∀ e ∈ exceptions, e.2 ≠ []) (c : Char) : mapped shifts exceptions c ≠ [] := by
  unfold mapped
  split
  · exact List.cons_ne_nil _ _
  · split
    · rename_i ns hns
      obtain ⟨l, l', rfl, -⟩ := List.lookup_eq_some_iff.mp hns
      exact fun h => he _ (List.mem_append_right _ List.mem_cons_self) (List.map_eq_nil_iff.mp h)
    · exact List.cons_ne_nil _ _

lemma toUppercase_ne_nil (c : Char) : toUppercase c ≠ [] := by
  unfold toUppercase
  split
  · exact List.cons_ne_nil _ _
  · exact mapped_ne_nil (by decide) c

lemma capitalWord_ne_nil {w : List Char} (h : w ≠ []) : capitalWord w ≠ [] := by
  cases w with
  | nil => exact absurd rfl h
  | cons c cs => exact List.append_ne_nil_of_left_ne_nil (toUppercase_ne_nil c) _

lemma pascalCase_ne_nil {cs : List Char} (h : ∃ c ∈ cs, isAlphanumeric c = true) :
    pascalCase cs ≠ [] := by
  obtain ⟨c, hc, hletter⟩ := h
  have hmem : c ∈ (words cs).flatten := by
    rw [flatten_words]
    exact List.mem_filter.mpr ⟨hc, hletter⟩
  obtain ⟨w, hw, hcw⟩ := List.mem_flatten.mp hmem
  intro hnil
  exact capitalWord_ne_nil (List.ne_nil_of_mem hcw) (List.flatMap_eq_nil_iff.mp hnil w hw)

end ApiOperations.Text
