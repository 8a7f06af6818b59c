import ApiOperations.Model.Route
import ApiOperations.Proofs.Text.Spelling

/-!
Paths that become one path. A path is cut at its placeholders into literals and names. Writing the
names in camelCase puts no brace into a path, so the path that comes out is cut at the same places.
Hence two paths come out the same only if they have the same literals, and names of the same spelling.
-/

namespace ApiOperations.Route

open ApiOperations.Text

/-! ### Cutting -/

lemma splitAtFirst_eq_none {c : Char} {cs : List Char} (h : splitAtFirst c cs = none) : c ∉ cs := by
  induction cs with
  | nil => exact List.not_mem_nil
  | cons d ds ih =>
    rw [splitAtFirst] at h
    split at h
    · cases h
    · rename_i hd
      exact List.not_mem_cons_of_ne_of_not_mem (Ne.symm hd) (ih (Option.map_eq_none_iff.mp h))

lemma splitAtFirst_append {c : Char} {a : List Char} (h : c ∉ a) (b : List Char) :
    splitAtFirst c (a ++ c :: b) = some (a, b) := by
  induction a with
  | nil => simp [splitAtFirst]
  | cons d ds ih =>
    obtain ⟨hd, hds⟩ := List.ne_and_not_mem_of_not_mem_cons h
    rw [List.cons_append, splitAtFirst, if_neg (Ne.symm hd), ih hds, Option.map_some]

variable {cs literal afterOpen name rest : List Char}

lemma segments_of_literal (h : splitAtFirst '{' cs = none) : segments cs = ([], cs) := by
  rw [segments]
  split
  · rfl
  · rename_i h'
    cases h.symm.trans h'

lemma segments_of_unclosed (hopen : splitAtFirst '{' cs = some (literal, afterOpen))
    (hclose : splitAtFirst '}' afterOpen = none) : segments cs = ([], cs) := by
  rw [segments]
  split
  · rfl
  · rename_i hopen'
    cases hopen.symm.trans hopen'
    split
    · rfl
    · rename_i hclose'
      cases hclose.symm.trans hclose'

lemma segments_of_placeholder (hopen : splitAtFirst '{' cs = some (literal, afterOpen))
    (hclose : splitAtFirst '}' afterOpen = some (name, rest)) :
    segments cs = ((literal, name) :: (segments rest).1, (segments rest).2) := by
  rw [segments]
  split
  · rename_i hopen'
    cases hopen.symm.trans hopen'
  · rename_i hopen'
    cases hopen.symm.trans hopen'
    split
    · rename_i hclose'
      cases hclose.symm.trans hclose'
    · rename_i hclose'
      cases hclose.symm.trans hclose'
      rfl

/-! ### Proper cuts -/

/-- No literal before a name has an opening brace, no name has a closing one, and the last literal
has no opening brace with a closing one after it. -/
structure Proper (c : List (List Char × List Char) × List Char) : Prop where
  literal : ∀ s ∈ c.1, '{' ∉ s.1
  name : ∀ s ∈ c.1, '}' ∉ s.2
  last : ∀ a b, c.2 = a ++ '{' :: b → '}' ∉ b

/-- What comes after a brace comes after the first brace. -/
lemma mem_of_append_eq {c d : Char} {a b a' b' : List Char} (h : a ++ c :: b = a' ++ c :: b')
    (ha : c ∉ a) (hd : d ∈ b') : d ∈ b := by
  rcases List.append_eq_append_iff.mp h with ⟨l, rfl, hb⟩ | ⟨l, rfl, hb⟩
  · rcases List.cons_eq_append_iff.mp hb with ⟨-, hb⟩ | ⟨l', -, rfl⟩
    · cases hb
      exact hd
    · exact List.mem_append_right _ (List.mem_cons_of_mem _ hd)
  · rcases List.cons_eq_append_iff.mp hb with ⟨-, hb⟩ | ⟨l', rfl, -⟩
    · cases hb
      exact hd
    · exact absurd (List.mem_append_right _ List.mem_cons_self) ha

lemma proper_segments (cs : List Char) : Proper (segments cs) := by
  induction cs using segments.induct with
  | case1 cs hopen =>
    rw [segments_of_literal hopen]
    refine ⟨fun _ h => absurd h List.not_mem_nil, fun _ h => absurd h List.not_mem_nil, ?_⟩
    rintro a b rfl
    exact absurd (List.mem_append_right _ List.mem_cons_self) (splitAtFirst_eq_none hopen)
  | case2 cs literal afterOpen hopen hclose =>
    rw [segments_of_unclosed hopen hclose]
    refine ⟨fun _ h => absurd h List.not_mem_nil, fun _ h => absurd h List.not_mem_nil, ?_⟩
    intro a b hcs hb
    obtain ⟨hsplit, hliteral⟩ := splitAtFirst_eq hopen
    exact splitAtFirst_eq_none hclose (mem_of_append_eq (hsplit.symm.trans hcs) hliteral hb)
  | case3 cs literal afterOpen hopen name rest hclose segs last hrest ih =>
    rw [segments_of_placeholder hopen hclose]
    exact ⟨List.forall_mem_cons.mpr ⟨(splitAtFirst_eq hopen).2, ih.literal⟩,
      List.forall_mem_cons.mpr ⟨(splitAtFirst_eq hclose).2, ih.name⟩, ih.last⟩

/-- A path that is made of a proper cut is cut that way. -/
lemma segments_assemble {c : List (List Char × List Char) × List Char} (h : Proper c) :
    segments (assemble c) = c := by
  obtain ⟨segs, last⟩ := c
  induction segs with
  | nil =>
    rw [assemble]
    cases hopen : splitAtFirst '{' last with
    | none => exact segments_of_literal hopen
    | some r =>
      cases hclose : splitAtFirst '}' r.2 with
      | none => exact segments_of_unclosed hopen hclose
      | some r' =>
        refine absurd ?_ (h.last _ _ (splitAtFirst_eq hopen).1)
        rw [(splitAtFirst_eq hclose).1]
        exact List.mem_append_right _ List.mem_cons_self
  | cons s segs ih =>
    obtain ⟨hliteral, hliterals⟩ := List.forall_mem_cons.mp h.literal
    obtain ⟨hname, hnames⟩ := List.forall_mem_cons.mp h.name
    rw [assemble, segments_of_placeholder (splitAtFirst_append hliteral _)
      (splitAtFirst_append hname _), ih ⟨hliterals, hnames, h.last⟩]

/-! ### Renaming -/

/-- The cut of a path, with the names in camelCase. -/
def shape (path : String) : List (List Char × List Char) × List Char :=
  ((segments path.toList).1.map fun s => (s.1, camelName s.2), (segments path.toList).2)

/-- The paths have the same literals, and the names between them have the same spelling. -/
def Alike (p q : String) : Prop :=
  shape p = shape q

lemma normalize_eq (path : String) : normalize path = String.ofList (assemble (shape path)) :=
  rfl

lemma not_mem_camelName (name : List Char) : '}' ∉ camelName name := by
  intro h
  rw [camelName, Name.ofString, String.toList_ofList] at h
  exact absurd (unmarked_of_mem_camelCase _ h) (by decide)

/-- Renaming moves no cut. -/
lemma Proper.map {segs : List (List Char × List Char)} {last : List Char} (h : Proper (segs, last))
    {f : List Char → List Char} (hf : ∀ name, '}' ∉ f name) :
    Proper (segs.map fun s => (s.1, f s.2), last) :=
  ⟨List.forall_mem_map.mpr h.literal, List.forall_mem_map.mpr fun s _ => hf s.2, h.last⟩

lemma proper_shape (path : String) : Proper (shape path) :=
  (proper_segments path.toList).map not_mem_camelName

/-- Paths become one path exactly if they are alike. -/
lemma normalize_eq_iff {p q : String} : normalize p = normalize q ↔ Alike p q := by
  rw [normalize_eq, normalize_eq, String.ofList_inj]
  constructor
  · intro h
    rw [Alike, ← segments_assemble (proper_shape p), h, segments_assemble (proper_shape q)]
  · exact congrArg assemble

/-- A path that ends in its only placeholder is cut there. -/
lemma shape_of_placeholder {literal name : List Char} (hl : '{' ∉ literal) (hn : '}' ∉ name) :
    shape (String.ofList (literal ++ '{' :: (name ++ ['}']))) =
      ([(literal, camelName name)], []) := by
  have hproper : Proper ([(literal, name)], []) :=
    ⟨List.forall_mem_singleton.mpr hl, List.forall_mem_singleton.mpr hn, by simp⟩
  have hcut := segments_assemble hproper
  rw [assemble, assemble] at hcut
  rw [shape, String.toList_ofList, hcut]
  rfl

/-- Such paths with the same literal are alike exactly if the names have the same spelling. -/
lemma alike_of_placeholder_iff (literal name name' : List Char) (hl : '{' ∉ literal)
    (hn : '}' ∉ name) (hn' : '}' ∉ name') :
    Alike (String.ofList (literal ++ '{' :: (name ++ ['}'])))
        (String.ofList (literal ++ '{' :: (name' ++ ['}']))) ↔
      camelName name = camelName name' := by
  rw [Alike, shape_of_placeholder hl hn, shape_of_placeholder hl hn']
  simp

example : Alike "/pets/{pet_id}" "/pets/{petId}" :=
  (alike_of_placeholder_iff "/pets/".toList "pet_id".toList "petId".toList
    (by decide) (by decide) (by decide)).mpr (by decide +kernel)
end ApiOperations.Route
