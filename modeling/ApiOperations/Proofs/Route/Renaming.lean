import Mathlib.Data.List.Basic
import ApiOperations.Proofs.Parameter.Spelling
import ApiOperations.Proofs.Route.Placeholders

/-!
What renaming does to a path. Every path has exactly one proper cut into literals and the names of its
placeholders. Renaming writes each name in camelCase and keeps the literals, and what comes out has
just this cut again. So a placeholder shows the key of the parameter that it is named after, and from
a brace that is never closed nothing changes.
-/

namespace ApiOperations.Route

open ApiOperations.Text
open ApiOperations.Description (Document)

/-- Literals with the names behind them, and the last literal. -/
abbrev Cut : Type :=
  List (List Char × List Char) × List Char

variable {cs : List Char} {cut : Cut}

/-! ### The one cut of a path -/

lemma assemble_segments (cs : List Char) : assemble (segments cs) = cs := by
  induction cs using segments.induct with
  | case1 cs hopen => rw [segments_of_literal hopen, assemble]
  | case2 cs literal afterOpen hopen hclose => rw [segments_of_unclosed hopen hclose, assemble]
  | case3 cs literal afterOpen hopen name rest hclose segs last hrest ih =>
    rw [segments_of_placeholder hopen hclose, assemble, ih, (splitAtFirst_eq hopen).1,
      (splitAtFirst_eq hclose).1]

lemma proper_and_assemble_iff : Proper cut ∧ assemble cut = cs ↔ cut = segments cs := by
  constructor
  · rintro ⟨hproper, rfl⟩
    exact (segments_assemble hproper).symm
  · rintro rfl
    exact ⟨proper_segments cs, assemble_segments cs⟩

/-- The cut with the names in camelCase. -/
def renamed (cut : Cut) : Cut :=
  (cut.1.map fun s => (s.1, camelName s.2), cut.2)

lemma Proper.renamed (h : Proper cut) : Proper (renamed cut) :=
  h.map not_mem_camelName

lemma toList_normalize {path : String} (hproper : Proper cut) (hcut : assemble cut = path.toList) :
    (normalize path).toList = assemble (renamed cut) := by
  obtain rfl := proper_and_assemble_iff.mp ⟨hproper, hcut⟩
  rw [normalize_eq, String.toList_ofList]
  rfl

/-! ### Braces that are never closed -/

lemma assemble_append (segs : List (List Char × List Char)) (last tail : List Char) :
    assemble (segs, last ++ tail) = assemble (segs, last) ++ tail := by
  induction segs with
  | nil => rw [assemble, assemble]
  | cons s segs ih => rw [assemble, assemble, ih]; simp

/-- A brace that is never closed, with all behind it, goes into the last literal. -/
lemma Proper.append {segs : List (List Char × List Char)} {last tail : List Char}
    (h : Proper (segs, last)) (htail : '}' ∉ tail) : Proper (segs, last ++ '{' :: tail) := by
  refine ⟨h.literal, h.name, fun a b hab => ?_⟩
  rcases List.append_eq_append_iff.mp hab with ⟨l, -, hl⟩ | ⟨l, hlast, hl⟩
  · -- the brace in question is the first one or stands behind it
    rcases List.cons_eq_append_iff.mp hl with ⟨-, hb⟩ | ⟨l', -, rfl⟩
    · cases hb
      exact htail
    · exact fun hb => htail (List.mem_append_right _ (List.mem_cons_of_mem _ hb))
  · rcases List.cons_eq_append_iff.mp hl with ⟨-, hb⟩ | ⟨l', rfl, rfl⟩
    · cases hb
      exact htail
    · have hl' : '}' ∉ l' := h.last a l' hlast
      have hbrace : '}' ≠ '{' := by decide
      simp [hl', htail, hbrace]

lemma toList_normalize_of_unclosed {path : String} {front tail : List Char}
    (hpath : path.toList = front ++ '{' :: tail) (htail : '}' ∉ tail) :
    (normalize path).toList = (normalize (String.ofList front)).toList ++ '{' :: tail := by
  have hfront : (normalize (String.ofList front)).toList = assemble (renamed (segments front)) :=
    toList_normalize (proper_segments front)
      ((assemble_segments front).trans String.toList_ofList.symm)
  have hcut : assemble ((segments front).1, (segments front).2 ++ '{' :: tail) = path.toList := by
    rw [assemble_append, Prod.mk.eta, assemble_segments, hpath]
  rw [hfront, toList_normalize ((proper_segments front).append htail) hcut, Route.renamed,
    assemble_append]
  rfl

/-! ### Placeholders and parameters -/

/-- Whatever operation is built at the path, where the cut has a placeholder with the name of one of
its parameters, the other cut has the same literal and the key of this parameter. -/
def ShowsKeys (path : String) (cut shown : Cut) : Prop :=
  ∀ {d : Document} {o : Options} {isError : Status → Bool} {method : Method}
    {op : Description.Operation} {ignored : List String}
    {nodes : List (Node Description.Parameter)} {inherited : ParameterTable} {built : Operation},
    Parameters.resolve d ignored nodes = .ok inherited →
    Operation.buildWith d o isError path method op inherited = .ok built →
    ∀ p ∈ built.parameters.entries, ∀ (i : Nat) (literal : List Char),
      cut.1[i]? = some (literal, p.originalName.toList) →
      shown.1[i]? = some (literal, p.key.toList)

lemma showsKeys_renamed (path : String) (cut : Cut) : ShowsKeys path cut (renamed cut) := by
  intro d o isError method op ignored nodes inherited built hi hb p hp i literal hcut
  have hkey := (Operation.spelled_of_mem_parameters hi hb p hp).key_eq
  have hspelled : camelName p.originalName.toList = p.key.toList := by
    rw [hkey, camelName, String.ofList_toList]
  rw [renamed, List.getElem?_map, hcut, Option.map_some, hspelled]

/-- **Renaming.** A path has exactly one proper cut. The path that it becomes has the proper cut with
the same literals and with the camelCase spelling of each name in its place, so its placeholders show
the keys of the parameters that they are named after. From a brace that is never closed, the path
stays as it is. -/
theorem renaming_of_placeholders (path : String) :
    (∃! cut : Cut, Proper cut ∧ assemble cut = path.toList) ∧
    (∀ cut : Cut, Proper cut → assemble cut = path.toList →
      Proper (renamed cut) ∧ assemble (renamed cut) = (normalize path).toList ∧
        ShowsKeys path cut (renamed cut)) ∧
    ∀ front tail, path.toList = front ++ '{' :: tail → '}' ∉ tail →
      (normalize path).toList = (normalize (String.ofList front)).toList ++ '{' :: tail := by
  refine ⟨⟨segments path.toList, proper_and_assemble_iff.mpr rfl,
    fun cut hcut => proper_and_assemble_iff.mp hcut⟩, fun cut hproper hcut => ?_,
    fun front tail hpath htail => toList_normalize_of_unclosed hpath htail⟩
  exact ⟨hproper.renamed, (toList_normalize hproper hcut).symm, showsKeys_renamed path cut⟩

/-- An operation of which nothing is declared. -/
def silent : Description.Operation :=
  ⟨none, none, none, [], [], none, [], none⟩

theorem renaming_of_placeholders_of_pets :
    let path := "/pets/{pet_id}/toys/\x7btoy"
    let cut : Cut := ([("/pets/".toList, "pet_id".toList)], "/toys/\x7btoy".toList)
    Proper cut ∧ assemble cut = path.toList ∧
    (normalize path).toList = "/pets/{petId}/toys/\x7btoy".toList ∧
    (normalize path).toList = (normalize "/pets/{pet_id}/toys/").toList ++ '{' :: "toy".toList ∧
    ∃ inherited built,
      Parameters.resolve Operation.bare [] [Operation.plain "pet_id" .path] = .ok inherited ∧
      Operation.buildWith Operation.bare Settings.default.toOptions (fun _ => false) path .get silent
        inherited = .ok built ∧
      ∃ p ∈ built.parameters.entries, p.originalName = "pet_id" ∧ p.key = "petId" ∧
        (renamed cut).1[0]? = some ("/pets/".toList, p.key.toList) := by
  intro path cut
  have hproper : Proper cut := by
    refine ⟨by decide, by decide, fun a b hab hb => ?_⟩
    have hmem : '}' ∈ cut.2 := hab ▸ List.mem_append_right _ (List.mem_cons_of_mem _ hb)
    exact absurd hmem (by decide)
  have hcut : assemble cut = path.toList := by
    rw [assemble, assemble]
    decide
  obtain ⟨-, hrenamed, hunclosed⟩ := renaming_of_placeholders path
  obtain ⟨-, hnormalize, hkeys⟩ := hrenamed cut hproper hcut
  have hi : Parameters.resolve Operation.bare [] [Operation.plain "pet_id" .path] = .ok _ := rfl
  refine ⟨hproper, hcut, ?_, ?_, _, _, hi, rfl, _, List.mem_cons_self, rfl, ?_, ?_⟩
  · rw [← hnormalize, renamed, List.map_singleton, assemble, assemble]
    decide +kernel
  · exact hunclosed "/pets/{pet_id}/toys/".toList "toy".toList (by decide) (by decide)
  · decide +kernel
  · exact @hkeys _ Settings.default.toOptions (fun _ => false) .get silent _ _ _ _ hi rfl _
      List.mem_cons_self 0 _ rfl

end ApiOperations.Route
