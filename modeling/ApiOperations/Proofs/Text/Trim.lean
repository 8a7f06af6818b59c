import Mathlib.Data.List.TakeWhile
import ApiOperations.Text.Blank

/-!
Texts without white space around them. Every text is its trimmed form between two stretches of white
space, and there is only one way to see a text like that with a form that neither starts nor ends with
white space.
-/

namespace ApiOperations.Text

variable {cs t before after : List Char}

/-- The text is nothing but white space. -/
def Blank (cs : List Char) : Prop :=
  ∀ c ∈ cs, isBlank c = true

/-- The text neither starts nor ends with white space. -/
structure Trimmed (cs : List Char) : Prop where
  head : ∀ c ∈ cs.head?, isBlank c = false
  last : ∀ c ∈ cs.getLast?, isBlank c = false

lemma isAllBlank_iff {s : String} : isAllBlank s = true ↔ Blank s.toList := by
  rw [isAllBlank, List.all_eq_true]
  rfl

lemma Blank.reverse (h : Blank cs) : Blank cs.reverse :=
  fun c hc => h c (List.mem_reverse.mp hc)

lemma Trimmed.reverse (h : Trimmed cs) : Trimmed cs.reverse := by
  refine ⟨?_, ?_⟩
  · rw [List.head?_reverse]
    exact h.last
  · rw [List.getLast?_reverse]
    exact h.head

lemma trimmed_of_forall (h : ∀ c ∈ cs, isBlank c = false) : Trimmed cs :=
  ⟨fun c hc => h c (List.mem_of_mem_head? hc), fun c hc => h c (List.mem_of_mem_getLast? hc)⟩

/-! ### One end -/

lemma exists_blank_append_dropWhile (cs : List Char) :
    ∃ before, Blank before ∧ cs = before ++ cs.dropWhile isBlank :=
  ⟨cs.takeWhile isBlank, fun _ hc => List.mem_takeWhile_imp hc, List.takeWhile_append_dropWhile.symm⟩

lemma head_dropWhile (cs : List Char) : ∀ c ∈ (cs.dropWhile isBlank).head?, isBlank c = false := by
  intro c hc
  have hnot := List.head?_dropWhile_not isBlank cs
  rw [Option.mem_def.mp hc] at hnot
  exact hnot

lemma dropWhile_blank_append (hbefore : Blank before) (hhead : ∀ c ∈ t.head?, isBlank c = false) :
    (before ++ t).dropWhile isBlank = t := by
  rw [List.dropWhile_append_of_pos hbefore]
  cases t with
  | nil => rfl
  | cons c t => exact List.dropWhile_cons_of_neg (by simp [hhead c rfl])

/-! ### Both ends -/

lemma Trimmed.trim_eq (ht : Trimmed t) (hbefore : Blank before) (hafter : Blank after) :
    trim (before ++ t ++ after) = t := by
  cases t with
  | nil =>
    have hblank : Blank (before ++ after) :=
      List.forall_mem_append.mpr ⟨hbefore, hafter⟩
    have hdrop : (before ++ after).dropWhile isBlank = [] := List.dropWhile_eq_nil_iff.mpr hblank
    rw [List.append_nil, trim, hdrop]
    rfl
  | cons c t =>
    have hhead : ∀ d ∈ (c :: t ++ after).head?, isBlank d = false := ht.head
    rw [trim, List.append_assoc, dropWhile_blank_append hbefore hhead, List.reverse_append,
      dropWhile_blank_append hafter.reverse ht.reverse.head, List.reverse_reverse]

lemma exists_dropWhile_eq_trim_append (cs : List Char) :
    ∃ after, Blank after ∧ cs.dropWhile isBlank = trim cs ++ after := by
  obtain ⟨after, hafter, hreverse⟩ := exists_blank_append_dropWhile (cs.dropWhile isBlank).reverse
  have hback := congrArg List.reverse hreverse
  rw [List.reverse_reverse, List.reverse_append] at hback
  exact ⟨after.reverse, hafter.reverse, hback⟩

lemma exists_trim (cs : List Char) :
    ∃ before after, Blank before ∧ Blank after ∧ cs = before ++ trim cs ++ after := by
  obtain ⟨before, hbefore, hcs⟩ := exists_blank_append_dropWhile cs
  obtain ⟨after, hafter, hdrop⟩ := exists_dropWhile_eq_trim_append cs
  refine ⟨before, after, hbefore, hafter, ?_⟩
  rw [List.append_assoc, ← hdrop]
  exact hcs

lemma trimmed_trim (cs : List Char) : Trimmed (trim cs) := by
  refine ⟨?_, ?_⟩
  · -- what is dropped at the end leaves the first character, if there is one left
    obtain ⟨after, -, hdrop⟩ := exists_dropWhile_eq_trim_append cs
    intro c hc
    refine head_dropWhile cs c ?_
    rw [hdrop, List.head?_append, Option.mem_def.mp hc]
    rfl
  · rw [trim, List.getLast?_reverse]
    exact head_dropWhile _

/-- The trimmed form of a text is told by what it is: the text without white space around it. -/
lemma trim_eq_iff :
    trim cs = t ↔ Trimmed t ∧ ∃ before after, Blank before ∧ Blank after ∧ cs = before ++ t ++ after := by
  constructor
  · rintro rfl
    exact ⟨trimmed_trim cs, exists_trim cs⟩
  · rintro ⟨ht, before, after, hbefore, hafter, rfl⟩
    exact ht.trim_eq hbefore hafter

lemma Trimmed.trim_eq_self (h : Trimmed t) : trim t = t :=
  trim_eq_iff.mpr ⟨h, [], [], List.forall_mem_nil _, List.forall_mem_nil _, by simp⟩

lemma trim_eq_nil_iff : trim cs = [] ↔ Blank cs := by
  rw [trim_eq_iff]
  constructor
  · rintro ⟨-, before, after, hbefore, hafter, rfl⟩
    rw [List.append_nil]
    exact List.forall_mem_append.mpr ⟨hbefore, hafter⟩
  · intro h
    exact ⟨trimmed_of_forall (List.forall_mem_nil _), cs, [], h, List.forall_mem_nil _, by simp⟩

end ApiOperations.Text
