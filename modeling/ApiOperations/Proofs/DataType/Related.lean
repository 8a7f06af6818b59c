import ApiOperations.Proofs.DataType.Formed

/-!
Types of one schema in two documents. A document comes in only where a pointer is followed. So any
relation between computations that later steps keep holds between the types of a schema if it holds
between the types of its pointers.
-/

namespace ApiOperations.DataType

open ApiOperations.Description

variable {rel : (α : Type) → Except Fault α → Except Fault α → Prop}

/-! ### Types of parts -/

/-- The types of the parts of two schemas are related, part by part. -/
structure Parts.Related (rel : (α : Type) → Except Fault α → Except Fault α → Prop)
    (p q : Parts) : Prop where
  oneOf : rel _ p.oneOf q.oneOf
  anyOf : rel _ p.anyOf q.anyOf
  allOf : rel _ p.allOf q.allOf
  fields : rel _ p.fields q.fields
  value : rel _ p.value q.value
  item : rel _ p.item q.item

namespace Parts.Related

variable (hrel : Except.Congruence rel) {p q : Parts} (h : p.Related rel q) (s : Schema)
include hrel h

lemma object : rel _ (p.object s) (q.object s) := by
  unfold Parts.object
  split
  · exact hrel.map h.fields _
  split
  · exact hrel.map h.value _
  all_goals exact hrel.refl _

lemma keyword (k : TypeKeyword) : rel _ (p.keyword s k) (q.keyword s k) := by
  cases k with
  | array => exact hrel.map h.item _
  | object => exact h.object hrel s
  | _ => exact hrel.refl _

lemma keywords (ks : List TypeKeyword) : rel _ (p.keywords s ks) (q.keywords s ks) :=
  hrel.bind (hrel.mapM (h.keyword hrel s) _) fun _ => hrel.refl _

lemma untyped : rel _ (p.untyped s) (q.untyped s) := by
  unfold Parts.untyped
  split
  · exact h.object hrel s
  split
  · exact hrel.map h.item _
  · exact hrel.refl _

lemma base : rel _ (p.base s) (q.base s) := by
  unfold Parts.base
  split
  · exact hrel.map h.oneOf _
  split
  · exact hrel.map h.anyOf _
  split
  · refine hrel.bind h.allOf fun ts => ?_
    split
    · exact hrel.refl _
    split
    · exact hrel.refl _
    · exact hrel.bind h.fields fun _ => hrel.refl _
  -- an enumeration or a constant has a type of its own
  split
  · exact hrel.refl _
  split
  · exact h.keyword hrel s _
  · exact h.keywords hrel s _
  · exact h.untyped hrel s

end Parts.Related

/-! ### Types of schemas -/

variable {d e : Document}

lemma related_of_parts (hrel : Except.Congruence rel) {s : Schema}
    (h : (partsOf d s).Related rel (partsOf e s)) : rel _ (ofSchema d s) (ofSchema e s) := by
  rw [ofSchema_eq, ofSchema_eq]
  split
  · exact hrel.map (h.base hrel s) _
  · exact h.base hrel s

/-- The relation is kept by later steps, and holds between the types of every pointer. -/
structure RelatedPointers (rel : (α : Type) → Except Fault α → Except Fault α → Prop)
    (d e : Document) : Prop where
  congruence : Except.Congruence rel
  pointer : ∀ p, rel _ (ofPointer d p) (ofPointer e p)

mutual

theorem related_ofSchema (h : RelatedPointers rel d e) :
    ∀ s : Schema, rel _ (ofSchema d s) (ofSchema e s)
  | ⟨_, _, _, _, _, properties, required, additional, items, allOf, oneOf, anyOf, _, _⟩ =>
    related_of_parts h.congruence
      { oneOf := related_ofNodes h oneOf
        anyOf := related_ofNodes h anyOf
        allOf := related_ofNodes h allOf
        fields := related_ofProperties h required properties
        value := related_ofAdditional h additional
        item := related_ofItems h items }

theorem related_ofNode (h : RelatedPointers rel d e) :
    ∀ node : Node Schema, rel _ (ofNode d node) (ofNode e node)
  | .ref p => h.pointer p
  | .inline s => related_ofSchema h s

theorem related_ofNodes (h : RelatedPointers rel d e) :
    ∀ nodes : List (Node Schema), rel _ (ofNodes d nodes) (ofNodes e nodes)
  | [] => h.congruence.refl _
  | node :: nodes =>
    h.congruence.bind (related_ofNode h node) fun _ =>
      h.congruence.bind (related_ofNodes h nodes) fun _ => h.congruence.refl _

theorem related_ofItems (h : RelatedPointers rel d e) :
    ∀ items : Option (Node Schema), rel _ (ofItems d items) (ofItems e items)
  | none => h.congruence.refl _
  | some node => related_ofNode h node

theorem related_ofAdditional (h : RelatedPointers rel d e) :
    ∀ additional : Option (Additional (Node Schema)),
      rel _ (ofAdditional d additional) (ofAdditional e additional)
  | none => h.congruence.refl _
  | some (.allowed _) => h.congruence.refl _
  | some (.each node) => related_ofNode h node

theorem related_ofProperties (h : RelatedPointers rel d e) (required : List String) :
    ∀ properties : List (String × Node Schema),
      rel _ (ofProperties d required properties) (ofProperties e required properties)
  | [] => h.congruence.refl _
  | (_, node) :: properties =>
    h.congruence.bind (related_ofNode h node) fun _ =>
      h.congruence.bind (related_ofProperties h required properties) fun _ => h.congruence.refl _

end

end ApiOperations.DataType
