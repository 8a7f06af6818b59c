import Mathlib.Data.List.Basic
import ApiOperations.Proofs.Name.Identifier
import ApiOperations.Proofs.Parameter.Spelling
import ApiOperations.Proofs.Text.Ascii

/-!
Spellings of ASCII texts. A spelling holds the letters and digits of its text, in order and each once;
all that it changes is their case, and of the two spellings only the first character differs. A text
without letters and digits is spelled as if it were `unnamed`. So parameters get into one another's way
only if their names have the same letters and digits, up to case and up to `unnamed`, or if they are
bodies.
-/

namespace ApiOperations

namespace Text

/-- The text consists of ASCII characters. -/
def Ascii (cs : List Char) : Prop :=
  ∀ c ∈ cs, c.toNat < 0x80

instance (cs : List Char) : Decidable (Ascii cs) :=
  List.decidableBAll (fun c : Char => c.toNat < 0x80) cs

variable {c : Char} {w : List Char} {ws : List (List Char)}

/-! ### Words of ASCII characters -/

lemma lowerWord_of_ascii (h : Ascii w) : lowerWord w = w.map Char.toLower := by
  induction w using lowerWord.induct with
  | case1 => rfl
  | case2 => exact absurd (h 'Σ' List.mem_cons_self) (by decide)
  | case3 c hsigma =>
    rw [lowerWord, if_neg hsigma, toLowercase_of_ascii (h c List.mem_cons_self)]
    rfl
  | case4 c d cs ih =>
    obtain ⟨hc, hcs⟩ := List.forall_mem_cons.mp h
    rw [lowerWord, toLowercase_of_ascii hc, ih hcs]
    rfl

lemma capitalWord_of_ascii (h : Ascii (c :: w)) :
    capitalWord (c :: w) = c.toUpper :: w.map Char.toLower := by
  obtain ⟨hc, hw⟩ := List.forall_mem_cons.mp h
  rw [capitalWord, toUppercase_of_ascii hc, lowerWord_of_ascii hw]
  rfl

lemma map_toLower_map_toLower (w : List Char) :
    (w.map Char.toLower).map Char.toLower = w.map Char.toLower := by
  rw [List.map_map]
  exact List.map_congr_left fun c _ => toLower_toLower c

lemma map_toLower_capitalWord (h : Ascii w) :
    (capitalWord w).map Char.toLower = w.map Char.toLower := by
  cases w with
  | nil => rfl
  | cons c w =>
    rw [capitalWord_of_ascii h, List.map_cons, toLower_toUpper, map_toLower_map_toLower,
      List.map_cons]

lemma map_toLower_flatMap_capitalWord (h : ∀ w ∈ ws, Ascii w) :
    (ws.flatMap capitalWord).map Char.toLower = ws.flatten.map Char.toLower := by
  induction ws with
  | nil => rfl
  | cons w ws ih =>
    obtain ⟨hw, hws⟩ := List.forall_mem_cons.mp h
    rw [List.flatMap_cons, List.map_append, map_toLower_capitalWord hw, ih hws, List.flatten_cons,
      List.map_append]

lemma isAlphanum_of_map_toLower_eq {cs ds : List Char}
    (h : cs.map Char.toLower = ds.map Char.toLower) (hds : ∀ d ∈ ds, d.isAlphanum = true) :
    ∀ c ∈ cs, c.isAlphanum = true := by
  intro c hc
  have hmem : c.toLower ∈ ds.map Char.toLower := h ▸ List.mem_map_of_mem hc
  obtain ⟨d, hd, hcd⟩ := List.mem_map.mp hmem
  rw [← isAlphanum_toLower, ← hcd, isAlphanum_toLower]
  exact hds d hd

end Text

namespace Name

open ApiOperations.Text

variable {s t : String}

/-! ### Letters and digits -/

/-- The letters and digits of a text, in lower case. -/
def letters (s : String) : List Char :=
  (s.toList.filter Char.isAlphanum).map Char.toLower

/-- The letters and digits that a text is spelled with: its own, or those of `unnamed`. -/
def stem (s : String) : List Char :=
  if letters s = [] then "unnamed".toList else letters s

lemma letters_ne_nil_iff (hs : Ascii s.toList) :
    letters s ≠ [] ↔ ∃ c ∈ s.toList, isAlphanumeric c = true := by
  rw [letters, Ne, List.map_eq_nil_iff, List.filter_eq_nil_iff]
  push Not
  refine exists_congr fun c => and_congr_right fun hc => ?_
  rw [isAlphanumeric_of_ascii (hs c hc)]

/-- The two spellings of a text differ in the case of their first character. -/
structure Spells (s : String) (c : Char) (rest : List Char) : Prop where
  camel : (ofString s).camel.toList = c.toLower :: rest
  pascal : (ofString s).pascal.toList = c.toUpper :: rest
  letters : (c :: rest).map Char.toLower = stem s

lemma exists_spells (hs : Ascii s.toList) : ∃ c rest, Spells s c rest := by
  by_cases hletters : letters s = []
  · have hnone : ¬∃ c ∈ s.toList, isAlphanumeric c = true := by
      rw [← letters_ne_nil_iff hs]
      exact not_not.mpr hletters
    refine ⟨'u', "nnamed".toList, ?_, ?_, ?_⟩
    · simp only [ofString, identifier_eq_unnamed hnone, String.toList_ofList]
      decide +kernel
    · simp only [ofString, identifier_eq_unnamed hnone, String.toList_ofList]
      decide +kernel
    · rw [stem, if_pos hletters]
      decide
  · have hsome := (letters_ne_nil_iff hs).mp hletters
    obtain ⟨c, w, ws, hwords, -⟩ := exists_words_eq hsome
    have hflatten : (c :: w) ++ ws.flatten = s.toList.filter isAlphanumeric := by
      rw [← flatten_words, hwords, List.flatten_cons]
    have hascii : Ascii ((c :: w) ++ ws.flatten) := by
      rw [hflatten]
      exact fun d hd => hs d (List.mem_filter.mp hd).1
    have hfirst : Ascii (c :: w) := fun d hd => hascii d (List.mem_append_left _ hd)
    have hothers : ∀ v ∈ ws, Ascii v := fun v hv d hd =>
      hascii d (List.mem_append_right _ (List.mem_flatten.mpr ⟨v, hv, hd⟩))
    refine ⟨c, w.map Char.toLower ++ ws.flatMap capitalWord, ?_, ?_, ?_⟩
    · simp only [camel_ofString hsome, String.toList_ofList, camelCase, hwords,
        lowerWord_of_ascii hfirst, List.map_cons, List.cons_append]
    · rw [pascal_ofString hsome, String.toList_ofList, pascalCase, hwords, List.flatMap_cons,
        capitalWord_of_ascii hfirst]
      rfl
    · have hfilter : s.toList.filter isAlphanumeric = s.toList.filter Char.isAlphanum :=
        List.filter_congr fun d hd => isAlphanumeric_of_ascii (hs d hd)
      rw [stem, if_neg hletters, letters, ← hfilter, ← hflatten, List.map_cons, List.map_append,
        map_toLower_map_toLower, map_toLower_flatMap_capitalWord hothers, List.map_append,
        List.map_cons, List.cons_append]

namespace Spells

variable {c d : Char} {rest rest' : List Char}

lemma map_toLower_camel (h : Spells s c rest) :
    (ofString s).camel.toList.map Char.toLower = stem s := by
  rw [h.camel, ← h.letters, List.map_cons, List.map_cons, toLower_toLower]

lemma map_toLower_pascal (h : Spells s c rest) :
    (ofString s).pascal.toList.map Char.toLower = stem s := by
  rw [h.pascal, ← h.letters, List.map_cons, List.map_cons, toLower_toUpper]

lemma pascal_eq (h : Spells s c rest) :
    (ofString s).pascal.toList = (ofString s).camel.toList.modifyHead Char.toUpper := by
  rw [h.pascal, h.camel, List.modifyHead_cons, toUpper_toLower]

lemma isUpper_head (h : Spells s c rest) :
    ∀ d ∈ (ofString s).camel.toList.head?, d.isUpper = false := by
  rw [h.camel]
  rintro d ⟨⟩
  exact isUpper_toLower c

/-- The first characters agree in upper case exactly if they agree in lower case. -/
lemma camel_eq_iff (h : Spells s c rest) (h' : Spells t d rest') :
    (ofString s).camel = (ofString t).camel ↔ (ofString s).pascal = (ofString t).pascal := by
  rw [← String.toList_inj, ← String.toList_inj, h.camel, h.pascal, h'.camel, h'.pascal,
    List.cons.injEq, List.cons.injEq]
  refine and_congr_left fun _ => ⟨fun hcd => ?_, fun hcd => ?_⟩
  · rw [← toUpper_toLower c, hcd, toUpper_toLower]
  · rw [← toLower_toUpper c, hcd, toLower_toUpper]

end Spells

/-! ### Parameters in one another's way -/

/-- A parameter that drives out another one is a body like the other, or their names are spelled with
the same letters and digits. -/
lemma stem_eq_of_driven_out {t : ParameterTable} {p q : Parameter} (ht : t.Reachable)
    (hp : p.Spelled) (hq : q.Spelled) (hpascii : Ascii p.originalName.toList)
    (hqascii : Ascii q.originalName.toList) (hmem : q ∈ t.entries)
    (hgone : q ∉ (t.insert p).entries) :
    (p.isBody ∧ q.isBody) ∨ stem p.originalName = stem q.originalName := by
  rw [ParameterTable.entries_insert ht.sound.keyed, List.mem_append, List.mem_filter] at hgone
  have hevicts : p.evicts q = true := by
    by_contra hspared
    exact hgone (.inl ⟨hmem, by simpa using hspared⟩)
  rcases Parameter.evicts_iff.mp hevicts with hkey | hbodies
  · obtain ⟨c, rest, hpspells⟩ := exists_spells hpascii
    obtain ⟨d, rest', hqspells⟩ := exists_spells hqascii
    rw [hp.key_eq, hq.key_eq] at hkey
    rw [← hpspells.map_toLower_camel, ← hqspells.map_toLower_camel, hkey]
    exact .inr rfl
  · exact .inl hbodies

/-- **Spellings.** The spellings of an ASCII text hold its letters and digits and nothing else, up to
case, if it has any; otherwise they are those of `unnamed`. PascalCase is camelCase with the first
character in upper case, and camelCase never starts so; hence two texts agree in one exactly if they
agree in the other. A parameter of an operation drives out another one only if both are bodies or
their names are spelled with the same letters and digits, up to case. -/
theorem spellings_of_ascii (hs : Ascii s.toList) :
    (letters s ≠ [] → ∀ spelling ∈ [(ofString s).camel, (ofString s).pascal],
      spelling ≠ "" ∧ (∀ c ∈ spelling.toList, c.isAlphanum = true) ∧
        spelling.toList.map Char.toLower = letters s) ∧
    (letters s = [] → (ofString s).camel = "unnamed" ∧ (ofString s).pascal = "Unnamed") ∧
    (ofString s).pascal.toList = (ofString s).camel.toList.modifyHead Char.toUpper ∧
    (∀ c ∈ (ofString s).camel.toList.head?, c.isUpper = false) ∧
    (∀ t : String, Ascii t.toList →
      ((ofString s).camel = (ofString t).camel ↔ (ofString s).pascal = (ofString t).pascal)) ∧
    ∀ (t : ParameterTable) (p q : Parameter), t.Reachable → p.Spelled → q.Spelled →
      p.originalName = s → Ascii q.originalName.toList → q ∈ t.entries →
      q ∉ (t.insert p).entries → (p.isBody ∧ q.isBody) ∨ stem s = stem q.originalName := by
  obtain ⟨c, rest, hspells⟩ := exists_spells hs
  refine ⟨fun hletters => ?_, fun hnone => ?_, hspells.pascal_eq, hspells.isUpper_head,
    fun t ht => ?_, ?_⟩
  · have hstem : stem s = letters s := if_neg hletters
    have hspelling : ∀ spelling : String, spelling.toList.map Char.toLower = letters s →
        spelling ≠ "" ∧ (∀ c ∈ spelling.toList, c.isAlphanum = true) ∧
          spelling.toList.map Char.toLower = letters s := by
      intro spelling h
      refine ⟨?_, ?_, h⟩
      · rintro rfl
        exact hletters h.symm
      · exact isAlphanum_of_map_toLower_eq h fun d hd => (List.mem_filter.mp hd).2
    have hcamel := hspelling _ (hspells.map_toLower_camel.trans hstem)
    have hpascal := hspelling _ (hspells.map_toLower_pascal.trans hstem)
    simpa using ⟨hcamel, hpascal⟩
  · have hletters : ¬∃ c ∈ s.toList, isAlphanumeric c = true := by
      rw [← letters_ne_nil_iff hs]
      exact not_not.mpr hnone
    simp only [ofString, identifier_eq_unnamed hletters]
    decide +kernel
  · obtain ⟨d, rest', hspells'⟩ := exists_spells ht
    exact hspells.camel_eq_iff hspells'
  · rintro t p q ht hp hq rfl hqascii hmem hgone
    exact stem_eq_of_driven_out ht hp hq hs hqascii hmem hgone

/-- A parameter of which nothing but its name and location is known. -/
def unsaid (name : String) (l : Location) : Parameter :=
  ⟨ofString name, name, l, .any, false, none, none, none⟩

theorem spellings_of_ascii_of_userId :
    let s := "2nd user-ID"
    let p := unsaid s .query
    let q := unsaid "2nd_userId" .header
    let t := ParameterTable.empty.insert q
    Ascii s.toList ∧ (ofString s).camel = "2ndUserId" ∧
    (ofString s).camel.toList.map Char.toLower = letters s ∧
    (ofString s).pascal.toList = (ofString s).camel.toList.modifyHead Char.toUpper ∧
    (ofString s).pascal = (ofString "2nd_userId").pascal ∧
    q ∈ t.entries ∧ q ∉ (t.insert p).entries ∧
    ((p.isBody ∧ q.isBody) ∨ stem s = stem q.originalName) := by
  intro s p q t
  have hs : Ascii s.toList := by decide
  have hq : Ascii q.originalName.toList := by decide
  have hmem : q ∈ t.entries := List.mem_singleton.mpr rfl
  have hgone : q ∉ (t.insert p).entries := by
    intro h
    have hlocation : Location.header ∈ (t.insert p).entries.map (·.location) :=
      List.mem_map_of_mem h
    revert hlocation
    decide +kernel
  obtain ⟨hletters, -, hpascal, -, hagree, hdriven⟩ := spellings_of_ascii hs
  refine ⟨hs, by decide +kernel, ?_, hpascal, ?_, hmem, hgone, ?_⟩
  · exact (hletters (by decide +kernel) _ List.mem_cons_self).2.2
  · exact (hagree "2nd_userId" hq).mp (by decide +kernel)
  · exact hdriven t p q (.insert .empty q) rfl rfl rfl hq hmem hgone

/-- A body of any type. -/
def body (name : String) : Node Description.Parameter :=
  .inline ⟨some name, some .body, none, false, some (.inline .empty), none, none, none, [], none⟩

/-- Names may have no letter or digit in common: one that has none is kept under `unnamed`, and the
parameter of that name drives it out; and of two bodies the second drives out the first. -/
theorem driven_out_by_unlike_name :
    (∃ t, Parameters.resolve Operation.bare []
        [Operation.plain "-" .query, Operation.plain "unnamed" .header] = .ok t ∧
      t.entries.map (·.originalName) = ["unnamed"] ∧ t.entries.map (·.isBody) = [false] ∧
      letters "-" ≠ letters "unnamed") ∧
    ∃ t, Parameters.resolve Operation.bare []
        [body "pet", body "toy"] = .ok t ∧
      t.entries.map (·.originalName) = ["toy"] ∧ letters "pet" ≠ letters "toy" := by
  exact ⟨⟨_, rfl, by decide +kernel, by decide +kernel, by decide⟩,
    ⟨_, rfl, by decide +kernel, by decide⟩⟩

end Name

end ApiOperations
