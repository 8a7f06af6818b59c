import Mathlib.Data.List.Basic
import ApiOperations.Proofs.Description.Upgrade
import ApiOperations.Proofs.Except
import ApiOperations.Proofs.Reference.Chain

/-!
References of a Swagger 2.0 document and of the same document in the layout of OpenAPI 3.

A pointer that has moved names the same entry of the same section. Trails can then be carried from
one layout to the other and back, and a chain that ends in one ends in the other. Two spellings of
one pointer may become one in the move, so that a chain without an end may be cut earlier than
before.
-/

namespace ApiOperations

namespace Reference

variable {α : Type} {pointer : String → String} {inline : α → α} {wanted : Section}
variable {definitions moved : Definitions α} {start node : Node α}

/-- A section holds the entries of another one with their pointers and definitions changed, and a
changed pointer names what it named before. -/
structure Renames (pointer : String → String) (inline : α → α)
    (definitions moved : Definitions α) : Prop where
  parse : ∀ p, Pointer.parse? (pointer p) = Pointer.parse? p
  lookup : ∀ name, moved.bind (List.lookup name) =
    (definitions.bind (List.lookup name)).map (Node.map pointer inline)

namespace Renames

variable (h : Renames pointer inline definitions moved)
include h

lemma names {p : String} (hn : Names wanted definitions p node) :
    Names wanted moved (pointer p) (node.map pointer inline) := by
  obtain ⟨name, hp, hl⟩ := hn
  exact ⟨name, by rw [h.parse, hp], by rw [h.lookup, hl, Option.map_some]⟩

lemma exists_names {p : String} (hn : Names wanted moved (pointer p) node) :
    ∃ n, Names wanted definitions p n ∧ n.map pointer inline = node := by
  obtain ⟨name, hp, hl⟩ := hn
  rw [h.parse] at hp
  rw [h.lookup] at hl
  obtain ⟨n, hl, hn⟩ := Option.map_eq_some_iff.mp hl
  exact ⟨n, ⟨name, hp, hl⟩, hn⟩

lemma trail {ps : List String} (ht : Trail wanted definitions start ps node) :
    Trail wanted moved (start.map pointer inline) (ps.map pointer) (node.map pointer inline) := by
  induction ht with
  | start => exact .start
  | follow _ hn ih => exact ih.follow (h.names hn)

/-- A trail never leaves the changed nodes. -/
lemma exists_trail {ps : List String}
    (ht : Trail wanted moved (start.map pointer inline) ps node) :
    ∃ qs n, Trail wanted definitions start qs n ∧ n.map pointer inline = node := by
  induction ht with
  | start => exact ⟨_, _, .start, rfl⟩
  | follow _ hn ih =>
    obtain ⟨qs, n, ht, hnode⟩ := ih
    cases n with
    | inline x => cases hnode
    | ref p =>
      cases hnode
      obtain ⟨m, hm, hnode⟩ := h.exists_names hn
      exact ⟨_, m, ht.follow hm, hnode⟩

/-- The same chains end, with changed definitions. -/
lemma agree_resolve (wanted : Section) (start : Node α) :
    Except.Agree (fun x y => y = inline x) (resolve wanted definitions start)
      (resolve wanted moved (start.map pointer inline)) := by
  refine .of_ok (fun x hx => ?_) fun y hy => ?_
  · obtain ⟨ps, ht⟩ := ((settles_resolve ..).inline x).mp hx
    exact ⟨_, ((settles_resolve ..).inline _).mpr ⟨_, h.trail ht⟩, rfl⟩
  · obtain ⟨ps, ht⟩ := ((settles_resolve ..).inline y).mp hy
    obtain ⟨qs, n, htrail, hn⟩ := h.exists_trail ht
    -- a changed reference is no inline definition
    cases n with
    | ref p => cases hn
    | inline x => exact ⟨x, ((settles_resolve ..).inline x).mpr ⟨qs, htrail⟩⟩

end Renames

end Reference

/-! ### Pointers that move -/

namespace Pointer

/-- Either way of starting a pointer leads into the same section. -/
lemma parse?_of_mem_moves {before after : String} (h : (before, after) ∈ moves)
    (token : List Char) :
    parse? (String.ofList (after.toList ++ token)) =
      parse? (String.ofList (before.toList ++ token)) := by
  simp only [moves, List.mem_cons, Prod.mk.injEq, List.not_mem_nil, or_false] at h
  rcases h with ⟨rfl, rfl⟩ | ⟨rfl, rfl⟩ | ⟨rfl, rfl⟩
  -- the section is found before the token is looked at
  all_goals
    simp only [parse?, String.toList_ofList]
    rfl

lemma parse?_upgrade (p : String) : parse? (upgrade p) = parse? p := by
  unfold upgrade
  split
  · rename_i cs h
    obtain ⟨⟨before, after⟩, hm, h⟩ := List.exists_of_findSome?_eq_some h
    obtain ⟨token, ht, rfl⟩ := Option.map_eq_some_iff.mp h
    have hp : p = String.ofList (before.toList ++ token) := by
      rw [List.isPrefixOf?_eq_some_iff_append_eq.mp ht, String.ofList_toList]
    rw [parse?_of_mem_moves hm, ← hp]
  · rfl

end Pointer

/-! ### Sections of a document -/

namespace Description.Document

open Reference (Renames)

variable {d : Document} (version : String)

lemma renames_parameterTable (hs : d.isSwagger) :
    Renames Pointer.upgrade Parameter.upgrade d.parameterTable
      (d.upgrade version).parameterTable where
  parse := Pointer.parse?_upgrade
  lookup name := by
    simp only [parameterTable, hs, if_true]
    exact Table.lookup_mapValues _ _ _

lemma renames_responseTable (hs : d.isSwagger) :
    Renames Pointer.upgrade Response.upgrade d.responseTable (d.upgrade version).responseTable where
  parse := Pointer.parse?_upgrade
  lookup name := by
    simp only [responseTable, hs, if_true]
    exact Table.lookup_mapValues _ _ _

/-- Neither layout has request bodies to refer to. -/
lemma renames_requestBodyTable (hc : d.components = none) :
    Renames Pointer.upgrade RequestBody.upgrade d.requestBodyTable
      (d.upgrade version).requestBodyTable where
  parse := Pointer.parse?_upgrade
  lookup name := by
    simp only [requestBodyTable, hc]
    rfl

/-- The parameter that a node leads to has moved with it. -/
lemma agree_parameter (hs : d.isSwagger) (node : Node Parameter) :
    Except.Agree (fun p q => q = p.upgrade) (d.parameter node)
      ((d.upgrade version).parameter (upgradeParameter node)) :=
  (renames_parameterTable version hs).agree_resolve .parameters node

lemma agree_response (hs : d.isSwagger) (node : Node Response) :
    Except.Agree (fun r s => s = r.upgrade) (d.response node)
      ((d.upgrade version).response (upgradeResponse node)) :=
  (renames_responseTable version hs).agree_resolve .responses node

lemma agree_requestBody (hc : d.components = none) (node : Node RequestBody) :
    Except.Agree (fun b c => c = b.upgrade) (d.requestBody node)
      ((d.upgrade version).requestBody (upgradeRequestBody node)) :=
  (renames_requestBodyTable version hc).agree_resolve .requestBodies node

lemma agree_entry (wanted : Section) (p : String) :
    Except.Agree Eq (wanted.entry p) (wanted.entry (Pointer.upgrade p)) := by
  unfold Section.entry
  rw [Pointer.parse?_upgrade]
  split
  · exact .error _ _
  · split
    · exact .ok rfl
    · exact .error _ _

lemma lookup_schemaTable_upgrade (hc : d.components = none) (name : String) :
    (d.upgrade version).schemaTable.lookup name =
      (d.schemaTable.lookup name).map Schema.upgradeNode := by
  simp only [schemaTable, hc]
  exact Table.lookup_mapValues _ _ _

lemma agree_schemaName (hc : d.components = none) (p : String) :
    Except.Agree Eq (d.schemaName p) ((d.upgrade version).schemaName (Pointer.upgrade p)) := by
  refine (agree_entry .schemas p).bind fun name _ hname => ?_
  rw [← hname, lookup_schemaTable_upgrade version hc, Option.isSome_map]
  split
  · exact .ok rfl
  · exact .error _ _

end Description.Document

end ApiOperations
