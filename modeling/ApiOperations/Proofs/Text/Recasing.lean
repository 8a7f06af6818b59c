import ApiOperations.Proofs.Text.Casing
import ApiOperations.Proofs.Text.Words

/-!
Texts that are their own camelCase. Spelling a text cuts it into words and changes the case of their
letters; it comes back unchanged exactly if it consists of letters and numerals and every letter already
has the case that its place in its word asks for. Which places these are can be told without cutting:
a word begins at an upper-case letter, but inside a run of such letters only at the last one, and only
if a lower-case letter follows.
-/

namespace ApiOperations.Text

variable {c : Char} {cs w xs ys : List Char} {ws : List (List Char)} {e : WordEnd}

/-! ### Words that keep their spelling -/

/-- Lower case changes nothing in the word. -/
def LowerKept (w : List Char) : Prop :=
  ∀ c ∈ w, toLowercase c = [c]

/-- Capitalising changes nothing in the word. -/
def CapitalKept : List Char → Prop
  | [] => True
  | c :: cs => toUppercase c = [c] ∧ LowerKept cs

/-- Joining the words in camelCase changes none of them. -/
def Kept : List (List Char) → Prop
  | [] => True
  | w :: ws => LowerKept w ∧ ∀ v ∈ ws, CapitalKept v

lemma append_eq_cons_iff_of_head (hne : xs ≠ []) (hhead : c ∈ xs.head? → xs = [c])
    {rest : List Char} : xs ++ ys = c :: rest ↔ xs = [c] ∧ ys = rest := by
  constructor
  · intro h
    have hc : c ∈ xs.head? := by
      rw [← List.head?_append_of_ne_nil xs hne, h]
      rfl
    have hxs := hhead hc
    rw [hxs] at h
    exact ⟨hxs, List.cons.inj h |>.2⟩
  · rintro ⟨rfl, rfl⟩
    rfl

lemma toLowercase_append_eq_iff : toLowercase c ++ xs = c :: ys ↔ toLowercase c = [c] ∧ xs = ys :=
  append_eq_cons_iff_of_head (toLowercase_ne_nil c) toLowercase_eq_of_head

lemma toUppercase_append_eq_iff : toUppercase c ++ xs = c :: ys ↔ toUppercase c = [c] ∧ xs = ys :=
  append_eq_cons_iff_of_head (toUppercase_ne_nil c) toUppercase_eq_of_head

lemma lowerWord_append_eq_iff : lowerWord w ++ xs = w ++ ys ↔ LowerKept w ∧ xs = ys := by
  induction w using lowerWord.induct with
  | case1 => simp [lowerWord, LowerKept]
  | case2 =>
    have hsigma : toLowercase 'Σ' ≠ ['Σ'] := by decide
    simp [lowerWord, LowerKept, hsigma]
  | case3 c hsigma =>
    rw [lowerWord, if_neg hsigma, List.singleton_append, toLowercase_append_eq_iff]
    simp [LowerKept]
  | case4 c d cs ih =>
    rw [lowerWord, List.append_assoc, List.cons_append, toLowercase_append_eq_iff, ih, ← and_assoc]
    simp [LowerKept]

lemma capitalWord_append_eq_iff : capitalWord w ++ xs = w ++ ys ↔ CapitalKept w ∧ xs = ys := by
  cases w with
  | nil => simp [capitalWord, CapitalKept]
  | cons c cs =>
    rw [capitalWord, List.append_assoc, List.cons_append, toUppercase_append_eq_iff,
      lowerWord_append_eq_iff, CapitalKept, and_assoc]

lemma flatMap_capitalWord_append_eq_iff :
    ws.flatMap capitalWord ++ xs = ws.flatten ++ ys ↔ (∀ w ∈ ws, CapitalKept w) ∧ xs = ys := by
  induction ws with
  | nil => simp
  | cons w ws ih =>
    rw [List.flatMap_cons, List.flatten_cons, List.append_assoc, List.append_assoc,
      capitalWord_append_eq_iff, ih, List.forall_mem_cons, and_assoc]

/-! ### Canonical texts -/

/-- The last cased letter is in upper case; numerals and letters without case do not count. -/
def EndsUpper (cs : List Char) : Prop :=
  ∃ c ∈ cs.reverse.find? fun c => isLowercase c || isUppercase c, isUppercase c = true

/-- A word begins at the upper-case letter `c`, unless the last cased letter before it is in upper case
too and no lower-case letter follows it directly. -/
def Begins (before : List Char) (c : Char) (after : List Char) : Prop :=
  isUppercase c = true ∧ (EndsUpper before → after.head?.any isLowercase = true)

/-- A text of letters and numerals in lower case, except at beginnings of words. -/
def Canonical (cs : List Char) : Prop :=
  ∀ before c after, cs = before ++ c :: after →
    isAlphanumeric c = true ∧ (Begins before c after ∨ toLowercase c = [c])

/-- The text, read behind a word that ends in `e`, is in lower case except at beginnings of words. -/
def Admits (e : WordEnd) : List Char → Prop
  | [] => True
  | c :: cs =>
    ((isUppercase c = true ∧ (e = .upper → cs.head?.any isLowercase = true)) ∨
      toLowercase c = [c]) ∧ Admits (e.after c) cs

lemma after_eq_upper_iff {before : List Char} (h : e = .upper ↔ EndsUpper before) :
    e.after c = .upper ↔ EndsUpper (before ++ [c]) := by
  unfold EndsUpper WordEnd.after
  rw [List.reverse_concat, List.find?_cons]
  by_cases hlower : isLowercase c = true
  · simp [hlower, isUppercase_eq_false hlower]
  · by_cases hupper : isUppercase c = true
    · simp [hlower, hupper]
    · simpa [hlower, hupper, EndsUpper] using h

/-- What is read of the text before is only the end of its last word. -/
lemma admits_iff {before : List Char} (h : e = .upper ↔ EndsUpper before) :
    Admits e cs ↔ ∀ a c b, cs = a ++ c :: b → Begins (before ++ a) c b ∨ toLowercase c = [c] := by
  induction cs generalizing e before with
  | nil => simp [Admits]
  | cons c cs ih =>
    rw [Admits, ih (after_eq_upper_iff h), h]
    constructor
    · rintro ⟨hc, hcs⟩ a d b heq
      cases a with
      | nil =>
        cases heq
        simpa [Begins] using hc
      | cons a₀ a =>
        cases heq
        simpa using hcs a d b rfl
    · intro hall
      refine ⟨by simpa [Begins] using hall [] c cs rfl, fun a d b heq => ?_⟩
      simpa using hall (c :: a) d b (by rw [heq, List.cons_append])

/-- Being canonical can be told in one pass over the text. -/
lemma canonical_iff :
    Canonical cs ↔ (∀ c ∈ cs, isAlphanumeric c = true) ∧ Admits .lower cs := by
  have hends : WordEnd.lower = .upper ↔ EndsUpper [] := by simp [EndsUpper]
  rw [admits_iff hends]
  constructor
  · intro h
    refine ⟨fun c hc => ?_, fun a c b heq => (h a c b heq).2⟩
    obtain ⟨a, b, heq⟩ := List.append_of_mem hc
    exact (h a c b heq).1
  · rintro ⟨hletters, hcase⟩ a c b heq
    exact ⟨hletters c (by simp [heq]), hcase a c b heq⟩

instance decidableAdmits : (e : WordEnd) → (cs : List Char) → Decidable (Admits e cs)
  | _, [] => .isTrue trivial
  | e, c :: cs =>
    have := decidableAdmits (e.after c) cs
    inferInstanceAs (Decidable (_ ∧ _))

instance (cs : List Char) : Decidable (Canonical cs) :=
  decidable_of_iff (cs.all isAlphanumeric = true ∧ Admits .lower cs) <| by
    rw [List.all_eq_true, canonical_iff]

example : Canonical "getPetStore".toList ∧ Canonical "getABar".toList ∧
    ¬Canonical "getAB".toList ∧ ¬Canonical "get_a".toList := by
  decide

/-! ### Scanning -/

lemma kept_consWord : Kept (consWord c ws) ↔ toLowercase c = [c] ∧ Kept ws := by
  cases ws with
  | nil => simp [consWord, Kept, LowerKept]
  | cons w ws => simp [consWord, Kept, LowerKept, and_assoc]

lemma capitalKept_consWord :
    (∀ w ∈ consWord c ws, CapitalKept w) ↔ toUppercase c = [c] ∧ Kept ws := by
  cases ws with
  | nil => simp [consWord, CapitalKept, Kept, LowerKept]
  | cons w ws => simp [consWord, CapitalKept, Kept, and_assoc]

/-- Behind a lower-case letter it does not matter what the word ended in before. -/
lemma wordsFrom_of_isLowercase (hc : isLowercase c = true) (e e' : WordEnd) (cs : List Char) :
    wordsFrom e (c :: cs) = wordsFrom e' (c :: cs) := by
  cases cs with
  | nil => rfl
  | cons d cs => simp [wordsFrom, WordEnd.after, hc, isUppercase_eq_false hc]

lemma wordsFrom_fresh_of_isUppercase (hc : isUppercase c = true) (cs : List Char) :
    wordsFrom .fresh (c :: cs) = consWord c (wordsFrom .upper cs) := by
  cases cs with
  | nil => rfl
  | cons d cs => simp [wordsFrom, WordEnd.after, hc, isLowercase_eq_false hc]

/-- A word that ends in `e` goes on with the first character of the text. -/
def GoesOn (e : WordEnd) (cs : List Char) : Prop :=
  e ≠ .fresh ∧ (e = .lower → ∀ c ∈ cs.head?, isUppercase c = false)

lemma goesOn_upper (cs : List Char) : GoesOn .upper cs :=
  ⟨by decide, fun h => absurd h (by decide)⟩

/-- Where a word goes on, nothing but the last capital before a lower-case letter begins the next. -/
lemma admits_cons_iff (h : GoesOn e (c :: cs))
    (hlast : ¬(e = .upper ∧ isUppercase c = true ∧ cs.head?.any isLowercase = true)) :
    Admits e (c :: cs) ↔ toLowercase c = [c] ∧ Admits (e.after c) cs := by
  rw [Admits]
  refine and_congr_left fun _ => or_iff_right ?_
  rintro ⟨hupper, hnext⟩
  cases e with
  | fresh => exact h.1 rfl
  | lower =>
    have hc := h.2 rfl c rfl
    rw [hupper] at hc
    cases hc
  | upper => exact hlast ⟨rfl, hupper, hnext rfl⟩

lemma admits_cons_of_last (hc : isUppercase c = true) (hd : cs.head?.any isLowercase = true) :
    Admits .upper (c :: cs) ↔ Admits .upper cs := by
  have hafter : WordEnd.upper.after c = .upper := by
    simp [WordEnd.after, hc, isLowercase_eq_false hc]
  rw [Admits, hafter]
  exact and_iff_right (.inl ⟨hc, fun _ => hd⟩)

/-- The words behind a word that ends in `e` are kept exactly if their capitals stand at beginnings of
words. The scan looks one character ahead, and a capital behind a lower-case letter is read in the same
step as that letter, so the recursion goes down by one character or by two. -/
lemma kept_wordsFrom_iff :
    ∀ (e : WordEnd) (cs : List Char), GoesOn e cs → (Kept (wordsFrom e cs) ↔ Admits e cs)
  | e, [], _ => by simp [wordsFrom, Kept, Admits]
  | e, [c], h => by
    rw [admits_cons_iff h (by simp)]
    simp [wordsFrom, Kept, LowerKept, Admits]
  | e, c :: d :: cs, h => by
    by_cases hboundary : e.after c = .lower ∧ isUppercase d = true
    · obtain ⟨hc, hd⟩ := hboundary
      have ih := kept_wordsFrom_iff .upper cs (goesOn_upper cs)
      have hlast : ¬(e = .upper ∧ isUppercase c = true ∧ isLowercase d = true) := by
        simp [isLowercase_eq_false hd]
      have hafter : WordEnd.lower.after d = .upper := by
        simp [WordEnd.after, hd, isLowercase_eq_false hd]
      rw [wordsFrom, if_pos ⟨hc, hd⟩, wordsFrom_fresh_of_isUppercase hd, Kept, capitalKept_consWord,
        admits_cons_iff h hlast, hc, Admits, hafter, ih]
      simp [LowerKept, hd, toUppercase_of_isUppercase hd]
    · by_cases hlast : e = .upper ∧ isUppercase c = true ∧ isLowercase d = true
      · obtain ⟨rfl, hc, hd⟩ := hlast
        have ih := kept_wordsFrom_iff .upper (d :: cs) (goesOn_upper _)
        have hnext : (d :: cs).head?.any isLowercase = true := hd
        rw [wordsFrom, if_neg hboundary, if_pos ⟨rfl, hc, hd⟩, Kept, capitalKept_consWord,
          wordsFrom_of_isLowercase hd .fresh .upper, ih, admits_cons_of_last hc hnext]
        simp [LowerKept, toUppercase_of_isUppercase hc]
      · have hgoes : GoesOn (e.after c) (d :: cs) := by
          refine ⟨?_, fun hafter => by simpa [hafter] using hboundary⟩
          unfold WordEnd.after
          split_ifs
          · decide
          · decide
          · exact h.1
        have ih := kept_wordsFrom_iff (e.after c) (d :: cs) hgoes
        rw [wordsFrom, if_neg hboundary, if_neg hlast, kept_consWord, ih,
          admits_cons_iff h hlast]

/-! ### Texts that camelCase keeps -/

lemma pascalCase_ne_cons (hc : isAlphanumeric c = false) : pascalCase xs ≠ c :: ys := by
  intro h
  by_cases hsome : ∃ d ∈ xs, isAlphanumeric d = true
  · obtain ⟨d, w, ws, hwords, hd⟩ := exists_words_eq hsome
    have hhead : c ∈ (toUppercase d).head? := by
      rw [pascalCase, hwords, List.flatMap_cons, capitalWord, List.append_assoc] at h
      rw [← List.head?_append_of_ne_nil _ (toUppercase_ne_nil d), h]
      rfl
    rw [isAlphanumeric_of_mem_head_toUppercase hd hhead] at hc
    cases hc
  · have hwords : ∀ w ∈ words xs, w = [] := by
      intro w hw
      refine List.eq_nil_iff_forall_not_mem.mpr fun d hd => hsome ⟨d, ?_⟩
      have hmem : d ∈ (words xs).flatten := List.mem_flatten.mpr ⟨w, hw, hd⟩
      rwa [flatten_words, List.mem_filter] at hmem
    have hnil : pascalCase xs = [] :=
      List.flatMap_eq_nil_iff.mpr fun w hw => by rw [hwords w hw, capitalWord]
    rw [hnil] at h
    cases h

/-- A spelling can be compared with a text word by word. -/
lemma camelCase_eq_append_iff {vs : List (List Char)} (h : words cs = ws ++ vs) (hne : ws ≠ [])
    (ys : List Char) : camelCase cs = ws.flatten ++ ys ↔ Kept ws ∧ vs.flatMap capitalWord = ys := by
  cases ws with
  | nil => exact absurd rfl hne
  | cons w ws =>
    rw [List.cons_append] at h
    simp only [camelCase, h]
    rw [List.flatten_cons, List.append_assoc, lowerWord_append_eq_iff, List.flatMap_append,
      flatMap_capitalWord_append_eq_iff, Kept, and_assoc]

/-- A text that starts with a lower-case letter and is its own camelCase has no other characters than
letters and numerals: the first other one would have to come from the capital of a letter or numeral. -/
lemma camelCase_ne_self {x : Char} {a b : List Char} (hx : isAlphanumeric x = false) (hne : a ≠ [])
    (ha : ∀ c ∈ a, isAlphanumeric c = true) : camelCase (a ++ x :: b) ≠ a ++ x :: b := by
  intro h
  have hflatten : (words a).flatten = a := by
    rw [flatten_words, List.filter_eq_self.mpr ha]
  have hwords : words a ≠ [] := by
    intro hnil
    rw [hnil] at hflatten
    exact hne hflatten.symm
  have hsplit := camelCase_eq_append_iff (words_append_cons hx a b) hwords (x :: b)
  rw [hflatten] at hsplit
  exact pascalCase_ne_cons hx (hsplit.mp h).2

lemma canonical_cons_iff (hc : isLowercase c = true) :
    Canonical (c :: cs) ↔
      (∀ d ∈ c :: cs, isAlphanumeric d = true) ∧ Kept (wordsFrom .fresh (c :: cs)) := by
  have hgoes : GoesOn .lower (c :: cs) := by
    refine ⟨by decide, fun _ d hd => ?_⟩
    rw [List.head?_cons, Option.mem_some_iff] at hd
    exact hd ▸ isUppercase_eq_false hc
  rw [canonical_iff, wordsFrom_of_isLowercase hc .fresh .lower, kept_wordsFrom_iff .lower _ hgoes]

/-- A text that starts with a lower-case letter is its own camelCase exactly if it is canonical. -/
lemma camelCase_eq_self_iff (hc : isLowercase c = true) (hletter : isAlphanumeric c = true) :
    camelCase (c :: cs) = c :: cs ↔ Canonical (c :: cs) := by
  rw [canonical_cons_iff hc]
  by_cases hall : ∀ d ∈ c :: cs, isAlphanumeric d = true
  · have hwords : words (c :: cs) = wordsFrom .fresh (c :: cs) ++ [] := by
      rw [words_of_forall (List.cons_ne_nil c cs) hall, List.append_nil]
    have hne : wordsFrom .fresh (c :: cs) ≠ [] := by
      obtain ⟨w, ws, hfresh⟩ := exists_wordsFrom_fresh c cs
      rw [hfresh]
      exact List.cons_ne_nil _ _
    have hsplit := camelCase_eq_append_iff hwords hne []
    rw [flatten_wordsFrom, List.append_nil] at hsplit
    rw [hsplit]
    simp only [List.flatMap_nil, and_true, true_and, eq_true hall]
  · have hother : ((c :: cs).find? fun d => !isAlphanumeric d) ≠ none :=
      fun hnone => hall fun d hd => by simpa using List.find?_eq_none.mp hnone d hd
    obtain ⟨x, hx⟩ := Option.ne_none_iff_exists'.mp hother
    obtain ⟨hx, a, b, heq, ha⟩ := List.find?_eq_some_iff_append.mp hx
    simp only [Bool.not_eq_true', Bool.not_not] at hx ha
    have hne : a ≠ [] := by
      rintro rfl
      rw [List.nil_append, List.cons.injEq] at heq
      rw [heq.1, hx] at hletter
      cases hletter
    rw [heq] at hall ⊢
    exact iff_of_false (camelCase_ne_self hx hne ha) fun h => hall h.1

end ApiOperations.Text
