import ApiOperations.Proofs.Text.Trim
import ApiOperations.Text.Documentation

/-!
Documentation and its lines.

Line breaks are unified in two passes, first the pairs of carriage return and line feed and then what
is left of carriage returns. The two come to one pass from the left that ends a line at each break,
whichever of the three it is. The white space around a text is gone before that, so a text that is
documentation already is left alone.
-/

namespace ApiOperations.Text

variable {c : Char} {cs : List Char}

/-! ### Two passes and one -/

/-- The lines of a text. A carriage return with a line feed after it ends a line, and so does either of
them alone. -/
def lines : List Char → List (List Char)
  | [] => [[]]
  | '\r' :: '\n' :: cs => [] :: lines cs
  | c :: cs => if c = '\r' ∨ c = '\n' then [] :: lines cs else (lines cs).modifyHead (c :: ·)

lemma unifyBreaks_pair (cs : List Char) :
    unifyBreaks ('\r' :: '\n' :: cs) = '\n' :: unifyBreaks cs := by
  simp [unifyBreaks]

lemma unifyBreaks_cons_of_ne (h : c ≠ '\r') (cs : List Char) :
    unifyBreaks (c :: cs) = c :: unifyBreaks cs := by
  simp [unifyBreaks, replacePair_cons_of_ne '\n' '\n' h, h]

/-- A break that is no pair. -/
lemma unifyBreaks_break (hpair : ∀ ds, c = '\r' → cs = '\n' :: ds → False)
    (hbreak : c = '\r' ∨ c = '\n') : unifyBreaks (c :: cs) = '\n' :: unifyBreaks cs := by
  rcases hbreak with rfl | rfl
  · have hhead : cs.head? ≠ some '\n' := by
      intro hhead
      obtain ⟨ds, hds⟩ := List.head?_eq_some_iff.mp hhead
      exact hpair ds rfl hds
    simp [unifyBreaks, replacePair_cons_of_head?_ne '\n' hhead]
  · exact unifyBreaks_cons_of_ne (by decide) cs

lemma splitOn_break (cs : List Char) : ('\n' :: cs).splitOn '\n' = [] :: cs.splitOn '\n' := by
  simp [List.splitOn_eq_splitOnP, List.splitOnP_cons_eq_if_modifyHead]

lemma splitOn_cons_of_ne (h : c ≠ '\n') (cs : List Char) :
    (c :: cs).splitOn '\n' = (cs.splitOn '\n').modifyHead (c :: ·) := by
  simp [List.splitOn_eq_splitOnP, List.splitOnP_cons_eq_if_modifyHead, h]

/-- The lines of a text with unified breaks are those of the text. -/
lemma splitOn_unifyBreaks (cs : List Char) : (unifyBreaks cs).splitOn '\n' = lines cs := by
  induction cs using lines.induct with
  | case1 => rfl
  | case2 cs ih => rw [unifyBreaks_pair, splitOn_break, ih, lines]
  | case3 c cs hpair hbreak ih =>
    rw [unifyBreaks_break hpair hbreak, splitOn_break, ih, lines, if_pos hbreak]
    exact hpair
  | case4 c cs hpair hbreak ih =>
    obtain ⟨hreturn, hfeed⟩ := not_or.mp hbreak
    rw [unifyBreaks_cons_of_ne hreturn, splitOn_cons_of_ne hfeed, ih, lines, if_neg hbreak]
    exact hpair

/-! ### What is left of a text -/

lemma return_not_mem_unifyBreaks (cs : List Char) : '\r' ∉ unifyBreaks cs := by
  intro h
  obtain ⟨c, -, hc⟩ := List.mem_map.mp h
  split at hc
  · exact absurd hc (by decide)
  · rename_i hne
    exact hne hc

lemma unifyBreaks_of_not_mem (h : '\r' ∉ cs) : unifyBreaks cs = cs := by
  induction cs with
  | nil => rfl
  | cons c cs ih =>
    have hc : c ≠ '\r' := fun hc => h (hc ▸ List.mem_cons_self)
    have hcs : '\r' ∉ cs := fun hcs => h (List.mem_cons_of_mem c hcs)
    rw [unifyBreaks_cons_of_ne hc, ih hcs]

lemma unifyBreaks_concat (hreturn : c ≠ '\r') (hfeed : c ≠ '\n') (cs : List Char) :
    unifyBreaks (cs ++ [c]) = unifyBreaks cs ++ [c] := by
  induction cs using lines.induct with
  | case1 => exact unifyBreaks_cons_of_ne hreturn []
  | case2 cs ih =>
    rw [List.cons_append, List.cons_append, unifyBreaks_pair, unifyBreaks_pair, ih, List.cons_append]
  | case3 b cs hpair hbreak ih =>
    -- the character at the end is no line feed, so it makes no pair of the break
    have hstill : ∀ ds, b = '\r' → cs ++ [c] = '\n' :: ds → False := by
      intro ds hb hcs
      cases cs with
      | nil => exact hfeed (List.cons.inj hcs).1
      | cons d cs => exact hpair cs hb (by rw [(List.cons.inj hcs).1])
    rw [List.cons_append, unifyBreaks_break hstill hbreak, unifyBreaks_break hpair hbreak, ih,
      List.cons_append]
  | case4 b cs hpair hbreak ih =>
    have hb : b ≠ '\r' := (not_or.mp hbreak).1
    rw [List.cons_append, unifyBreaks_cons_of_ne hb, unifyBreaks_cons_of_ne hb, ih, List.cons_append]

lemma ne_breaks_of_isBlank (h : isBlank c = false) : c ≠ '\r' ∧ c ≠ '\n' := by
  constructor
  · rintro rfl
    exact absurd h (by decide)
  · rintro rfl
    exact absurd h (by decide)

lemma Trimmed.unifyBreaks (h : Trimmed cs) : Trimmed (unifyBreaks cs) := by
  refine ⟨?_, ?_⟩
  · cases cs with
    | nil => exact h.head
    | cons c cs =>
      have hc := h.head c rfl
      rw [unifyBreaks_cons_of_ne (ne_breaks_of_isBlank hc).1]
      exact h.head
  · rcases List.eq_nil_or_concat cs with rfl | ⟨cs, c, rfl⟩
    · exact h.last
    · rw [List.concat_eq_append] at h ⊢
      have hlast := h.last
      rw [List.getLast?_concat] at hlast
      have hc := ne_breaks_of_isBlank (hlast c rfl)
      rw [unifyBreaks_concat hc.1 hc.2, List.getLast?_concat]
      exact hlast

lemma unifyBreaks_eq_nil_iff : unifyBreaks cs = [] ↔ cs = [] := by
  rw [Text.unifyBreaks, List.map_eq_nil_iff]
  cases cs with
  | nil => simp
  | cons c cs =>
    cases cs with
    | nil => simp [replacePair]
    | cons d cs =>
      rw [replacePair]
      split <;> simp

/-! ### Documentation -/

variable {text doc : String}

lemma documentation_eq_none_iff : documentation text = none ↔ isAllBlank text = true := by
  rw [isAllBlank_iff, ← trim_eq_nil_iff]
  unfold documentation
  split
  · rename_i hnil
    simp [hnil]
  · rename_i hne
    simpa using hne

lemma documentation_eq_some_iff : documentation text = some doc ↔
    trim text.toList ≠ [] ∧ doc.toList = unifyBreaks (trim text.toList) := by
  unfold documentation
  split
  · rename_i hnil
    simp [hnil]
  · rename_i hne
    rw [Option.some.injEq, ← String.toList_inj, String.toList_ofList, eq_comm]
    exact ⟨fun h => ⟨hne, h⟩, And.right⟩

/-- **Documentation.** A text is no documentation if and only if it is white space. The documentation
that another text carries is not empty, has no carriage returns and no white space around it, and it
carries itself; its lines are those of the trimmed text, however these are broken. -/
theorem documentation_lines (text : String) :
    (documentation text = none ↔ isAllBlank text = true) ∧
    ∀ doc, documentation text = some doc →
      doc ≠ "" ∧ '\r' ∉ doc.toList ∧ Trimmed doc.toList ∧ documentation doc = some doc ∧
        doc.toList.splitOn '\n' = lines (trim text.toList) := by
  refine ⟨documentation_eq_none_iff, fun doc h => ?_⟩
  obtain ⟨hne, hdoc⟩ := documentation_eq_some_iff.mp h
  have hreturn : '\r' ∉ doc.toList := hdoc ▸ return_not_mem_unifyBreaks _
  have htrimmed : Trimmed doc.toList := hdoc ▸ (trimmed_trim text.toList).unifyBreaks
  have hnil : doc.toList ≠ [] := by rwa [hdoc, Ne, unifyBreaks_eq_nil_iff]
  refine ⟨fun hempty => hnil (by rw [hempty]; rfl), hreturn, htrimmed, ?_, ?_⟩
  · rw [documentation_eq_some_iff, htrimmed.trim_eq_self, unifyBreaks_of_not_mem hreturn]
    exact ⟨hnil, rfl⟩
  · rw [hdoc, splitOn_unifyBreaks]

/-- Breaks of all three kinds beside one another, with white space around the text. -/
theorem documentation_lines_of_mixed :
    let text := "\u2028\r\nOne\r\r\nTwo\n\rThree\t\r"
    documentation text = some "One\n\nTwo\n\nThree" ∧
      Trimmed "One\n\nTwo\n\nThree".toList ∧
      documentation "One\n\nTwo\n\nThree" = some "One\n\nTwo\n\nThree" ∧
      (lines (trim text.toList)).map String.ofList = ["One", "", "Two", "", "Three"] := by
  intro text
  have htext : documentation text = some "One\n\nTwo\n\nThree" := by decide +kernel
  obtain ⟨-, -, htrimmed, hagain, hlines⟩ := (documentation_lines text).2 _ htext
  refine ⟨htext, htrimmed, hagain, ?_⟩
  rw [← hlines]
  decide +kernel

end ApiOperations.Text
