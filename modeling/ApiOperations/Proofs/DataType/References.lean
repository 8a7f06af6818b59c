import Mathlib.Data.List.Basic
import ApiOperations.Proofs.DataType.Formed
import ApiOperations.Proofs.DataType.Related
import ApiOperations.Proofs.Operation.Dependencies
import ApiOperations.Proofs.Table

/-!
Types and the references in schemas.

Nothing but a reference can keep a node from having a type: what fails is the look-up of a pointer in
the node. What is looked up is only whether the document has a schema of a name, so the names in a
type are names of schemas, and documents with schemas of the same names give the same types, whatever
these schemas are.
-/

namespace ApiOperations

open ApiOperations.Description

namespace DataType

/-! ### Parts without a type -/

/-- A part has no type for this reason. -/
inductive Parts.Lacks (p : Parts) (e : Fault) : Prop
  | oneOf : p.oneOf = .error e → p.Lacks e
  | anyOf : p.anyOf = .error e → p.Lacks e
  | allOf : p.allOf = .error e → p.Lacks e
  | fields : p.fields = .error e → p.Lacks e
  | value : p.value = .error e → p.Lacks e
  | item : p.item = .error e → p.Lacks e

namespace Parts

variable {s : Schema} {p : Parts} {e : Fault}

lemma lacks_object (h : p.object s = .error e) : p.Lacks e := by
  unfold object at h
  split at h
  · exact .fields (Except.map_eq_error_iff.mp h)
  split at h
  · exact .value (Except.map_eq_error_iff.mp h)
  all_goals cases h

lemma lacks_keyword {k : TypeKeyword} (h : p.keyword s k = .error e) : p.Lacks e := by
  cases k with
  | array => exact .item (Except.map_eq_error_iff.mp h)
  | object => exact lacks_object h
  | _ => cases h

lemma lacks_keywords {ks : List TypeKeyword} (h : p.keywords s ks = .error e) : p.Lacks e := by
  rcases Except.bind_eq_error_iff.mp h with h | ⟨ts, -, h⟩
  · obtain ⟨k, -, hk⟩ := Except.exists_mem_of_mapM_eq_error h
    exact lacks_keyword hk
  · split at h <;> cases h

lemma lacks_untyped (h : p.untyped s = .error e) : p.Lacks e := by
  unfold untyped at h
  split at h
  · exact lacks_object h
  split at h
  · exact .item (Except.map_eq_error_iff.mp h)
  · cases h

/-- A schema has no type only if one of its parts has none, and for the same reason. -/
lemma lacks_base (h : p.base s = .error e) : p.Lacks e := by
  unfold base at h
  split at h
  · exact .oneOf (Except.map_eq_error_iff.mp h)
  split at h
  · exact .anyOf (Except.map_eq_error_iff.mp h)
  split at h
  · rcases Except.bind_eq_error_iff.mp h with h | ⟨ts, -, h⟩
    · exact .allOf h
    split at h
    · cases h
    split at h
    · cases h
    · rcases Except.bind_eq_error_iff.mp h with h | ⟨fs, -, ⟨⟩⟩
      exact .fields h
  -- an enumeration or a constant always has a type
  split at h
  · cases h
  split at h
  · exact lacks_keyword h
  · exact lacks_keywords h
  · exact lacks_untyped h

end Parts

/-! ### Where failures come from -/

variable {d : Document} {s : Schema} {e : Fault}

lemma lacks_ofSchema (h : ofSchema d s = .error e) : (partsOf d s).Lacks e := by
  rw [ofSchema_eq] at h
  split at h
  · exact Parts.lacks_base (Except.map_eq_error_iff.mp h)
  · exact Parts.lacks_base h

lemma exists_mem_of_ofNodes_eq_error {nodes : List (Node Schema)} (h : ofNodes d nodes = .error e) :
    ∃ node ∈ nodes, ofNode d node = .error e := by
  rw [ofNodes_eq_mapM] at h
  exact Except.exists_mem_of_mapM_eq_error h

lemma exists_has_of_lacks (h : (partsOf d s).Lacks e) :
    ∃ node, s.Has node ∧ ofNode d node = .error e := by
  cases h with
  | oneOf h =>
    obtain ⟨node, hnode, h⟩ := exists_mem_of_ofNodes_eq_error h
    exact ⟨node, .oneOf hnode, h⟩
  | anyOf h =>
    obtain ⟨node, hnode, h⟩ := exists_mem_of_ofNodes_eq_error h
    exact ⟨node, .anyOf hnode, h⟩
  | allOf h =>
    obtain ⟨node, hnode, h⟩ := exists_mem_of_ofNodes_eq_error h
    exact ⟨node, .allOf hnode, h⟩
  | fields h =>
    change ofProperties d s.required s.properties = .error e at h
    rw [ofProperties_eq_mapM] at h
    obtain ⟨property, hproperty, h⟩ := Except.exists_mem_of_mapM_eq_error h
    exact ⟨property.2, .property hproperty, Except.map_eq_error_iff.mp h⟩
  | value h =>
    change ofAdditional d s.additional = .error e at h
    rcases ha : s.additional with _ | _ | node
    all_goals rw [ha] at h
    · cases h
    · cases h
    · exact ⟨node, .additional ha, h⟩
  | item h =>
    change ofItems d s.items = .error e at h
    rcases hi : s.items with _ | node
    all_goals rw [hi] at h
    · cases h
    · exact ⟨node, .items hi, h⟩

lemma exists_occurs_of_ofNode_eq_error {node : Node Schema} (h : ofNode d node = .error e) :
    ∃ p, Occurs p node ∧ d.schemaName p = .error e := by
  induction node using node_induction with
  | ref p => exact ⟨p, .ref, Except.map_eq_error_iff.mp h⟩
  | inline s ih =>
    obtain ⟨node, hnode, h⟩ := exists_has_of_lacks (lacks_ofSchema h)
    obtain ⟨p, hp, h⟩ := ih node hnode h
    exact ⟨p, hnode.occurs hp, h⟩

/-! ### What is looked up -/

lemma exists_occurs_of_mentions {node : Node Schema} {t : DataType} (h : ofNode d node = .ok t)
    {n : String} (hn : t.Mentions n) :
    ∃ p name, Occurs p node ∧ Pointer.parse? p = some (.schemas, name) ∧
      name ∈ d.schemaTable.names ∧ n = (Name.ofString name).pascal := by
  have hresolves : Resolves d (fun n => ∃ p name, Occurs p node ∧
      Pointer.parse? p = some (.schemas, name) ∧ name ∈ d.schemaTable.names ∧
        n = (Name.ofString name).pascal) node := by
    intro p u hp hu
    obtain ⟨name, hparse, hname, rfl⟩ := ofPointer_eq_ok_iff.mp hu
    exact .ref ⟨p, name, hp, hparse, hname, rfl⟩
  exact (formed_ofNode node hresolves t h).named_of_mentions hn

lemma relatedPointers_of_names {d' : Document}
    (h : ∀ name, name ∈ d.schemaTable.names ↔ name ∈ d'.schemaTable.names) :
    RelatedPointers (fun _ => Eq) d d' where
  congruence := Except.congruence_eq
  pointer p := by
    have hlookup : ∀ name, (d.schemaTable.lookup name).isSome = (d'.schemaTable.lookup name).isSome :=
      fun name => Bool.eq_iff_iff.mpr
        (Table.isSome_lookup_iff.trans ((h name).trans Table.isSome_lookup_iff.symm))
    simp only [ofPointer, Document.schemaName, hlookup]

/-- **References decide.** If a node has no type, this is because a pointer in it cannot be followed,
so a node has one if all of its pointers can be. The names in the type are those of the schemas that
pointers in the node name, and the document has schemas of these names. Documents with schemas of the
same names give the node the same type, or none for the same reason. -/
theorem ofNode_references (d : Document) (node : Node Schema) :
    (∀ e, ofNode d node = .error e → ∃ p, Occurs p node ∧ d.schemaName p = .error e) ∧
    ((∀ p, Occurs p node → ∃ name, d.schemaName p = .ok name) → ∃ t, ofNode d node = .ok t) ∧
    (∀ t, ofNode d node = .ok t → ∀ n, t.Mentions n →
      ∃ p name, Occurs p node ∧ Pointer.parse? p = some (.schemas, name) ∧
        name ∈ d.schemaTable.names ∧ n = (Name.ofString name).pascal) ∧
    ∀ d' : Document, (∀ name, name ∈ d.schemaTable.names ↔ name ∈ d'.schemaTable.names) →
      ofNode d node = ofNode d' node := by
  refine ⟨fun e => exists_occurs_of_ofNode_eq_error, fun hall => ?_,
    fun t ht n => exists_occurs_of_mentions ht,
    fun d' h => related_ofNode (relatedPointers_of_names h) node⟩
  cases ht : ofNode d node with
  | ok t => exact ⟨t, rfl⟩
  | error e =>
    obtain ⟨p, hp, he⟩ := exists_occurs_of_ofNode_eq_error ht
    obtain ⟨name, hname⟩ := hall p hp
    cases hname.symm.trans he

/-- Pets, or something else. -/
def petsOr (pointer : String) : Node Schema :=
  .inline { Schema.empty with
    oneOf := [.inline { Schema.empty with
        type := some (.single .array)
        items := some (.ref "#/components/schemas/pet") },
      .ref pointer] }

lemma occurs_petsOr {p pointer : String} (h : Occurs p (petsOr pointer)) :
    p = "#/components/schemas/pet" ∨ p = pointer := by
  cases h with
  | oneOf hnode hp =>
    rcases List.mem_pair.mp hnode with rfl | rfl
    · cases hp with
      | items hitems hp =>
        cases hitems
        cases hp
        exact .inl rfl
      | oneOf h _ | anyOf h _ | allOf h _ | property h _ | additional h _ => cases h
    · cases hp
      exact .inr rfl
  | anyOf h _ | allOf h _ | property h _ | additional h _ | items h _ => cases h

/-- The schemas of the store in another order, each of which speaks of itself. -/
def selfStore : Document :=
  { Operation.bare with components := some ⟨[("problem", .ref "#/components/schemas/problem"),
      ("tag", .ref "#/definitions/tag"), ("pet", petsOr "#/components/schemas/pet")], [], [], []⟩ }

theorem ofNode_references_of_petsOr :
    (∀ p, Occurs p (petsOr "#/definitions/tag") → ∃ name, Operation.store.schemaName p = .ok name) ∧
    (∃ t, ofNode Operation.store (petsOr "#/definitions/tag") = .ok t ∧ t.dependencies = ["Pet", "Tag"] ∧
      ∀ n, t.Mentions n → ∃ p name, Occurs p (petsOr "#/definitions/tag") ∧
        Pointer.parse? p = some (.schemas, name) ∧ name ∈ Operation.store.schemaTable.names ∧
          n = (Name.ofString name).pascal) ∧
    ofNode Operation.store (petsOr "#/definitions/tag") =
      ofNode selfStore (petsOr "#/definitions/tag") ∧
    ofNode Operation.store (petsOr "#/definitions/label") =
      .error (.notFound "#/definitions/label") ∧
    ∃ p, Occurs p (petsOr "#/definitions/label") ∧
      Operation.store.schemaName p = .error (.notFound "#/definitions/label") := by
  have hall : ∀ p, Occurs p (petsOr "#/definitions/tag") →
      ∃ name, Operation.store.schemaName p = .ok name := by
    intro p hp
    rcases occurs_petsOr hp with rfl | rfl
    · exact ⟨"pet", rfl⟩
    · exact ⟨"tag", rfl⟩
  have hnames : ∀ name, name ∈ Operation.store.schemaTable.names ↔
      name ∈ selfStore.schemaTable.names := by
    intro name
    change name ∈ ["pet", "tag", "problem"] ↔ name ∈ ["problem", "tag", "pet"]
    simp only [List.mem_cons, List.not_mem_nil, or_false]
    tauto
  have herror : ofNode Operation.store (petsOr "#/definitions/label") =
      .error (.notFound "#/definitions/label") := rfl
  obtain ⟨-, hsome, hmentions, hsame⟩ :=
    ofNode_references Operation.store (petsOr "#/definitions/tag")
  obtain ⟨t, ht⟩ := hsome hall
  have hdependencies : t.dependencies = ["Pet", "Tag"] := by
    cases ht
    rfl
  exact ⟨hall, ⟨t, ht, hdependencies, hmentions t ht⟩, hsame selfStore hnames, herror,
    (ofNode_references Operation.store (petsOr "#/definitions/label")).1 _ herror⟩

end DataType

end ApiOperations
