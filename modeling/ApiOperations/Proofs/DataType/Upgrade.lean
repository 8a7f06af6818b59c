import Mathlib.Data.List.Basic
import ApiOperations.Proofs.DataType.Related
import ApiOperations.Proofs.Reference.Upgrade

/-!
Types of a Swagger 2.0 document and of the same document in the layout of OpenAPI 3.

A schema keeps its type when its pointers move. What is made of the parts of a schema does not look
at the pointers, so that it is enough for the parts to have the same types; the rest is recursion
over the schema.
-/

namespace ApiOperations

open ApiOperations.Description

namespace Description.Schema

lemma upgrade_eq (s : Schema) : s.upgrade =
    { s with
      properties := upgradeProperties s.properties
      additional := upgradeAdditional s.additional
      items := upgradeItems s.items
      allOf := upgradeNodes s.allOf
      oneOf := upgradeNodes s.oneOf
      anyOf := upgradeNodes s.anyOf } := by
  cases s
  rfl

@[simp] lemma isEmpty_upgradeNodes (nodes : List (Node Schema)) :
    (upgradeNodes nodes).isEmpty = nodes.isEmpty := by
  cases nodes <;> rfl

@[simp] lemma isEmpty_upgradeProperties (properties : List (String × Node Schema)) :
    (upgradeProperties properties).isEmpty = properties.isEmpty := by
  cases properties <;> rfl

@[simp] lemma isSome_upgradeAdditional (additional : Option (Additional (Node Schema))) :
    (upgradeAdditional additional).isSome = additional.isSome := by
  rcases additional with _ | _ | _ <;> rfl

@[simp] lemma isSome_upgradeItems (items : Option (Node Schema)) :
    (upgradeItems items).isSome = items.isSome := by
  cases items <;> rfl

end Description.Schema

namespace DataType

/-! ### Types of parts -/

namespace Parts

variable (p : Parts) (s : Schema)

lemma object_upgrade : p.object s.upgrade = p.object s := by
  simp only [object, Schema.upgrade_eq, Schema.isEmpty_upgradeProperties]
  rcases s.additional with _ | _ | _ <;> rfl

lemma keyword_upgrade (k : TypeKeyword) : p.keyword s.upgrade k = p.keyword s k := by
  cases k with
  | object => exact p.object_upgrade s
  | string =>
    rw [Schema.upgrade_eq]
    rfl
  | _ => rfl

lemma keywords_upgrade (ks : List TypeKeyword) : p.keywords s.upgrade ks = p.keywords s ks := by
  have hkeyword : p.keyword s.upgrade = p.keyword s := funext (p.keyword_upgrade s)
  simp only [keywords, hkeyword]

lemma untyped_upgrade : p.untyped s.upgrade = p.untyped s := by
  have hobject := p.object_upgrade s
  simp only [Schema.upgrade_eq] at hobject
  simp only [untyped, Schema.upgrade_eq, Schema.isEmpty_upgradeProperties,
    Schema.isSome_upgradeAdditional, Schema.isSome_upgradeItems, hobject]

lemma base_upgrade : p.base s.upgrade = p.base s := by
  have hkeyword := p.keyword_upgrade s
  have hkeywords := p.keywords_upgrade s
  have huntyped := p.untyped_upgrade s
  simp only [Schema.upgrade_eq] at hkeyword hkeywords huntyped
  simp only [base, Schema.upgrade_eq, Schema.isEmpty_upgradeNodes,
    Schema.isEmpty_upgradeProperties, hkeyword, hkeywords, huntyped]

end Parts

/-! ### Types of schemas -/

variable {d : Document} (version : String)

lemma agree_ofPointer (hc : d.components = none) (p : String) :
    Except.Agree Eq (ofPointer d p) (ofPointer (d.upgrade version) (Pointer.upgrade p)) :=
  (d.agree_schemaName version hc p).map fun _ _ hname => by rw [hname]

lemma agree_ofSchema_of_parts {e : Document} {s : Schema}
    (h : (partsOf d s).Related (fun _ => Except.Agree Eq) (partsOf e s.upgrade)) :
    Except.Agree Eq (ofSchema d s) (ofSchema e s.upgrade) := by
  have hbase := h.base Except.congruence_agree s
  rw [← Parts.base_upgrade (partsOf e s.upgrade)] at hbase
  have hnullable : s.upgrade.nullable = s.nullable := by rw [Schema.upgrade_eq]
  rw [ofSchema_eq, ofSchema_eq, hnullable]
  split
  · exact hbase.map fun _ _ => congrArg _
  · exact hbase

mutual

theorem agree_ofSchema (hc : d.components = none) : ∀ s : Schema,
    Except.Agree Eq (ofSchema d s) (ofSchema (d.upgrade version) s.upgrade)
  | ⟨_, _, _, _, _, properties, required, additional, items, allOf, oneOf, anyOf, _, _⟩ =>
    agree_ofSchema_of_parts
      { oneOf := agree_ofNodes hc oneOf
        anyOf := agree_ofNodes hc anyOf
        allOf := agree_ofNodes hc allOf
        fields := agree_ofProperties hc required properties
        value := agree_ofAdditional hc additional
        item := agree_ofItems hc items }

theorem agree_ofNode (hc : d.components = none) : ∀ node : Node Schema,
    Except.Agree Eq (ofNode d node) (ofNode (d.upgrade version) (Schema.upgradeNode node))
  | .ref p => agree_ofPointer version hc p
  | .inline s => agree_ofSchema hc s

theorem agree_ofNodes (hc : d.components = none) : ∀ nodes : List (Node Schema),
    Except.Agree Eq (ofNodes d nodes) (ofNodes (d.upgrade version) (Schema.upgradeNodes nodes))
  | [] => .ok rfl
  | node :: nodes =>
    (agree_ofNode hc node).bind fun _ _ ht =>
      (agree_ofNodes hc nodes).bind fun _ _ hts => .ok (by rw [ht, hts])

theorem agree_ofItems (hc : d.components = none) : ∀ items : Option (Node Schema),
    Except.Agree Eq (ofItems d items) (ofItems (d.upgrade version) (Schema.upgradeItems items))
  | none => .ok rfl
  | some node => agree_ofNode hc node

theorem agree_ofAdditional (hc : d.components = none) :
    ∀ additional : Option (Additional (Node Schema)),
      Except.Agree Eq (ofAdditional d additional)
        (ofAdditional (d.upgrade version) (Schema.upgradeAdditional additional))
  | none => .ok rfl
  | some (.allowed _) => .ok rfl
  | some (.each node) => agree_ofNode hc node

theorem agree_ofProperties (hc : d.components = none) (required : List String) :
    ∀ properties : List (String × Node Schema),
      Except.Agree Eq (ofProperties d required properties)
        (ofProperties (d.upgrade version) required (Schema.upgradeProperties properties))
  | [] => .ok rfl
  | (_, node) :: properties =>
    (agree_ofNode hc node).bind fun _ _ ht =>
      (agree_ofProperties hc required properties).bind fun _ _ hfs => .ok (by rw [ht, hfs])

end

end DataType

end ApiOperations
