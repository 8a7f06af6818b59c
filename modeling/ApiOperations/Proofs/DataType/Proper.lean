import Mathlib.Data.List.Basic
import ApiOperations.Proofs.DataType.Composition
import ApiOperations.Proofs.DataType.Formed
import ApiOperations.Proofs.Description.Schemas
import ApiOperations.Proofs.Name
import ApiOperations.Proofs.Tree.Spelling

/-!
The form of types.

In the type of a schema, no union is empty, no intersection has a single part, no name is empty and no
object names a field twice. An object comes from one schema, and its fields are named as the properties
of that schema, so this needs schemas that name no property twice, as all schemas do that are read. A
type of this form has a label that is not empty.
-/

namespace ApiOperations

open ApiOperations.Description

namespace DataType

/-! ### Labels -/

lemma joinLabels_ne_nil {separator : List Char} {ts : List DataType} (h : ts ≠ [])
    (hall : ∀ t ∈ ts, t.labelChars ≠ []) : joinLabels separator ts ≠ [] := by
  rcases ts with _ | ⟨t, _ | ⟨u, ts⟩⟩
  · exact absurd rfl h
  · exact hall t List.mem_cons_self
  · rw [joinLabels, List.append_assoc]
    exact List.append_ne_nil_of_left_ne_nil (hall t List.mem_cons_self) _

/-- A type whose names are not empty has a label. -/
lemma Formed.labelChars_ne_nil {t : DataType} (h : t.Formed (· ≠ "")) : t.labelChars ≠ [] := by
  induction h with
  | @leaf t ht => cases t <;> first | exact List.cons_ne_nil _ _ | cases ht
  | array _ ih => exact List.append_ne_nil_of_left_ne_nil ih _
  | map _ _ => exact List.cons_ne_nil _ _
  | object _ _ _ => exact List.cons_ne_nil _ _
  | ref hn => exact fun hnil => hn (String.toList_eq_nil_iff.mp hnil)
  | union hne _ ih => exact joinLabels_ne_nil hne ih
  | intersection hlen _ ih =>
    exact joinLabels_ne_nil (List.length_pos_iff.mp (Nat.zero_lt_of_lt hlen)) ih

/-! ### Objects and their schemas -/

lemma Inside.eq_of_isLeaf {u t : DataType} (ht : t.isLeaf) (h : u.Inside t) : u = t := by
  cases h with
  | whole => rfl
  | item _ | value _ | field _ _ | variant _ _ | part _ _ => cases ht

/-- An object in a type that is made of parts is that of the properties, or in the type of a part. -/
lemma Parts.Makes.fields_or_has {p : Parts} {s : Schema} {t : DataType} (h : p.Makes s t)
    {fs : List (ObjectField DataType)} (hfs : (DataType.object fs).Inside t) :
    p.fields = .ok fs ∨ ∃ u, p.Has u ∧ (DataType.object fs).Inside u := by
  induction h with
  | leaf ht =>
    rw [← hfs.eq_of_isLeaf ht] at ht
    cases ht
  | array ht =>
    cases hfs with
    | item hfs => exact .inr ⟨_, .item ht, hfs⟩
  | map ht =>
    cases hfs with
    | value hfs => exact .inr ⟨_, .value ht, hfs⟩
  | anyMap =>
    cases hfs with
    | value hfs => cases hfs
  | object _ hfields =>
    cases hfs with
    | whole => exact .inl hfields
    | field hf hfs => exact .inr ⟨_, .field hfields hf rfl, hfs⟩
  | oneOf _ hts =>
    cases hfs with
    | variant ht hfs => exact .inr ⟨_, .oneOf hts ht, hfs⟩
  | anyOf _ hts =>
    cases hfs with
    | variant ht hfs => exact .inr ⟨_, .anyOf hts ht, hfs⟩
  | member ht => exact .inr ⟨_, .allOf ht List.mem_cons_self, hfs⟩
  | members _ hts _ =>
    cases hfs with
    | part ht hfs => exact .inr ⟨_, .allOf hts ht, hfs⟩
  | extended _ hts _ _ hfields =>
    cases hfs with
    | part ht hfs =>
      -- the object of the own properties stands behind the members
      rcases List.mem_append.mp ht with ht | ht
      · exact .inr ⟨_, .allOf hts ht, hfs⟩
      · cases List.mem_singleton.mp ht
        cases hfs with
        | whole => exact .inl hfields
        | field hf hfs => exact .inr ⟨_, .field hfields hf rfl, hfs⟩
  | union _ _ ih =>
    cases hfs with
    | variant ht hfs => exact ih _ ht hfs

variable {d : Document}

lemma map_name_of_ofProperties {required : List String} {properties : List (String × Node Schema)}
    {fs : List (ObjectField DataType)} (h : ofProperties d required properties = .ok fs) :
    fs.map (·.name) = Table.names properties := by
  have hfields := ofProperties_eq_ok_iff.mp h
  clear h
  induction hfields with
  | nil => rfl
  | cons hf _ ih => exact congrArg₂ _ hf.name ih

/-- The fields of an object in the type of a node are the properties of a schema in the node. -/
lemma exists_contains_of_inside {node : Node Schema} {t : DataType} (h : ofNode d node = .ok t)
    {fs : List (ObjectField DataType)} (hfs : (DataType.object fs).Inside t) :
    ∃ s, Contains s node ∧ fs.map (·.name) = Table.names s.properties := by
  induction node using node_induction generalizing t with
  | ref p =>
    obtain ⟨name, -, -, rfl⟩ := ofPointer_eq_ok_iff.mp h
    cases hfs
  | inline s ih =>
    rcases (makes_ofSchema h).fields_or_has hfs with hfields | ⟨u, hu, hfs⟩
    · exact ⟨s, .whole, map_name_of_ofProperties hfields⟩
    · rcases exists_has_of_partsOf hu with rfl | ⟨node, hnode, hu⟩
      · cases hfs
      · obtain ⟨s', hs', hnames⟩ := ih node hnode hu hfs
        exact ⟨s', .inside hnode hs', hnames⟩

/-! ### Proper types -/

/-- What is asked of a type, apart from its parts. -/
def Proper : DataType → Prop
  | void => False
  | union ts => ts ≠ []
  | intersection ts => 2 ≤ ts.length
  | object fs => fs ≠ [] ∧ (fs.map (·.name)).Nodup
  | ref n => n ≠ ""
  | string | literal _ | number | integer | boolean | null | array _ | map _ | any | dateTime
  | binary => True

lemma Formed.proper {t : DataType} (h : t.Formed (· ≠ ""))
    (hfields : ∀ fs, t = .object fs → (fs.map (·.name)).Nodup) : t.Proper := by
  cases h with
  | leaf ht => cases t <;> trivial
  | array _ | map _ => trivial
  | object hne _ => exact ⟨hne, hfields _ rfl⟩
  | ref hn => exact hn
  | union hne _ => exact hne
  | intersection hlen _ => exact hlen

/-- **Form.** A node that is read names no property twice in any of its schemas. In the type of such a
node all types are proper, at any depth, and have labels that are not empty. -/
theorem proper_of_inside :
    (∀ n tree node, readSchemaNode n tree = some node → DistinctProperties node) ∧
    ∀ (d : Document) (node : Node Schema) (t : DataType), DistinctProperties node →
      ofNode d node = .ok t → ∀ u : DataType, u.Inside t → u.Proper ∧ u.label ≠ "" := by
  refine ⟨gives_readSchemaNode, fun d node t hnode ht u hu => ?_⟩
  have hresolves : Resolves d (· ≠ "") node := by
    intro p t _ ht
    obtain ⟨name, -, -, rfl⟩ := ofPointer_eq_ok_iff.mp ht
    exact .ref (Name.pascal_ne_empty name)
  have hformed : u.Formed (· ≠ "") := (formed_ofNode node hresolves t ht).of_inside hu
  -- that a type is formed says nothing of the names of fields, which come from one schema
  have hfields : ∀ fs, u = .object fs → (fs.map (·.name)).Nodup := by
    rintro fs rfl
    obtain ⟨s, hs, hnames⟩ := exists_contains_of_inside ht hu
    rw [hnames]
    exact (hnode s hs).nodup_names
  refine ⟨hformed.proper hfields, fun hlabel => hformed.labelChars_ne_nil ?_⟩
  have htoList := congrArg String.toList hlabel
  rwa [label, String.toList_ofList] at htoList

/-- A tagged pet as it is read, with an unknown member. -/
def taggedTree : Tree Atom :=
  Tree.spell (.object [
    ("allOf", .array [.object [("$ref", .string "#/components/schemas/pet")],
      .object [("$ref", .string "#/components/schemas/problem")]]),
    ("properties", .object [("tag", .object [("$ref", .string "#/components/schemas/tag")]),
      ("since", .object [("type", .string "string")])]),
    ("required", .array [.string "tag"]), ("example", .null)])

theorem proper_of_inside_of_taggedTree :
    let node : Node Schema := .inline (taggedPet [.ref "#/components/schemas/pet",
      .ref "#/components/schemas/problem"] "#/components/schemas/tag")
    let t := intersection [.ref "Pet", .ref "Problem",
      .object [⟨"tag", .ref "Tag", true⟩, ⟨"since", .string, false⟩]]
    readSchemaNode 3 taggedTree = some node ∧ DistinctProperties node ∧
      ofNode Operation.store node = .ok t ∧ t.label = "Pet & Problem & object" ∧
      ∀ u : DataType, u.Inside t → u.Proper ∧ u.label ≠ "" := by
  intro node t
  have hread : readSchemaNode 3 taggedTree = some node := rfl
  have hnode : DistinctProperties node := proper_of_inside.1 3 taggedTree node hread
  have ht : ofNode Operation.store node = .ok t := rfl
  exact ⟨hread, hnode, ht, by decide, proper_of_inside.2 Operation.store node t hnode ht⟩

end DataType

end ApiOperations
