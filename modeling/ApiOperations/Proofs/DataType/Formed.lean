import Mathlib.Data.List.Basic
import Mathlib.Data.List.Forall2
import ApiOperations.Model.DataType.OfSchema
import ApiOperations.Proofs.Description.Schemas
import ApiOperations.Proofs.Except
import ApiOperations.Proofs.Reference.Location
import ApiOperations.Proofs.Table

/-!
The types that schemas describe.

A schema puts its type together from those of its parts. A union that it makes has a member, an
intersection two, an object a field, and every name in the type is that of a pointer which occurs in
the schema. How a type is made of given parts is looked at once; the rest is induction over the
schema.
-/

namespace ApiOperations

open ApiOperations.Description

/-- The pointer occurs in a schema. -/
inductive Description.Occurs (p : String) : Node Schema → Prop
  | ref : Occurs p (.ref p)
  | oneOf {s : Schema} {node : Node Schema} : node ∈ s.oneOf → Occurs p node → Occurs p (.inline s)
  | anyOf {s : Schema} {node : Node Schema} : node ∈ s.anyOf → Occurs p node → Occurs p (.inline s)
  | allOf {s : Schema} {node : Node Schema} : node ∈ s.allOf → Occurs p node → Occurs p (.inline s)
  | property {s : Schema} {name : String} {node : Node Schema} :
      (name, node) ∈ s.properties → Occurs p node → Occurs p (.inline s)
  | additional {s : Schema} {node : Node Schema} :
      s.additional = some (.each node) → Occurs p node → Occurs p (.inline s)
  | items {s : Schema} {node : Node Schema} :
      s.items = some node → Occurs p node → Occurs p (.inline s)

lemma Description.Schema.Has.occurs {s : Schema} {node : Node Schema} (h : s.Has node) {p : String}
    (hp : Occurs p node) : Occurs p (.inline s) := by
  cases h with
  | oneOf h => exact .oneOf h hp
  | anyOf h => exact .anyOf h hp
  | allOf h => exact .allOf h hp
  | property h => exact .property h hp
  | additional h => exact .additional h hp
  | items h => exact .items h hp

namespace DataType

/-! ### Names in types -/

/-- The name of a schema occurs in the type. -/
inductive Mentions (n : String) : DataType → Prop
  | ref : Mentions n (.ref n)
  | item {t : DataType} : Mentions n t → Mentions n (.array t)
  | value {t : DataType} : Mentions n t → Mentions n (.map t)
  | field {fs : List (ObjectField DataType)} {f : ObjectField DataType} :
      f ∈ fs → Mentions n f.type → Mentions n (.object fs)
  | variant {ts : List DataType} {t : DataType} : t ∈ ts → Mentions n t → Mentions n (.union ts)
  | part {ts : List DataType} {t : DataType} :
      t ∈ ts → Mentions n t → Mentions n (.intersection ts)

lemma mem_listRefs {n : String} {ts : List DataType} :
    n ∈ listRefs ts ↔ ∃ t ∈ ts, n ∈ t.refs := by
  induction ts with
  | nil => simp [listRefs]
  | cons t ts ih => simp [listRefs, ih]

lemma mem_fieldRefs {n : String} {fs : List (ObjectField DataType)} :
    n ∈ fieldRefs fs ↔ ∃ f ∈ fs, n ∈ f.type.refs := by
  induction fs with
  | nil => simp [fieldRefs]
  | cons f fs ih => simp [fieldRefs, ih]

lemma Mentions.mem_refs {n : String} {t : DataType} (h : t.Mentions n) : n ∈ t.refs := by
  induction h with
  | ref => simp [refs]
  | item _ ih => simpa [refs] using ih
  | value _ ih => simpa [refs] using ih
  | field hf _ ih => exact mem_fieldRefs.mpr ⟨_, hf, ih⟩
  | variant ht _ ih => exact mem_listRefs.mpr ⟨_, ht, ih⟩
  | part ht _ ih => exact mem_listRefs.mpr ⟨_, ht, ih⟩

mutual

theorem mentions_of_mem_refs {n : String} : ∀ t : DataType, n ∈ t.refs → t.Mentions n
  | .array t, h => .item (mentions_of_mem_refs t h)
  | .map t, h => .value (mentions_of_mem_refs t h)
  | .object fs, h =>
    let ⟨_, hf, hn⟩ := mentions_of_mem_fieldRefs fs h
    .field hf hn
  | .ref _, h => by
    cases List.mem_singleton.mp h
    exact .ref
  | .union ts, h =>
    let ⟨_, ht, hn⟩ := mentions_of_mem_listRefs ts h
    .variant ht hn
  | .intersection ts, h =>
    let ⟨_, ht, hn⟩ := mentions_of_mem_listRefs ts h
    .part ht hn
  | .string, h | .literal _, h | .number, h | .integer, h | .boolean, h | .null, h | .any, h
  | .void, h | .dateTime, h | .binary, h => by cases h

theorem mentions_of_mem_listRefs {n : String} :
    ∀ ts : List DataType, n ∈ listRefs ts → ∃ t ∈ ts, t.Mentions n
  | [], h => by cases h
  | t :: ts, h => by
    rcases List.mem_append.mp h with h | h
    · exact ⟨t, List.mem_cons_self, mentions_of_mem_refs t h⟩
    · obtain ⟨u, hu, hn⟩ := mentions_of_mem_listRefs ts h
      exact ⟨u, List.mem_cons_of_mem t hu, hn⟩

theorem mentions_of_mem_fieldRefs {n : String} :
    ∀ fs : List (ObjectField DataType), n ∈ fieldRefs fs → ∃ f ∈ fs, f.type.Mentions n
  | [], h => by cases h
  | ⟨name, t, required⟩ :: fs, h => by
    rcases List.mem_append.mp h with h | h
    · exact ⟨⟨name, t, required⟩, List.mem_cons_self, mentions_of_mem_refs t h⟩
    · obtain ⟨f, hf, hn⟩ := mentions_of_mem_fieldRefs fs h
      exact ⟨f, List.mem_cons_of_mem _ hf, hn⟩

end

lemma mem_refs_iff {n : String} {t : DataType} : n ∈ t.refs ↔ t.Mentions n :=
  ⟨mentions_of_mem_refs t, Mentions.mem_refs⟩

/-! ### Types in types -/

/-- The type occurs in another one, at any depth. -/
inductive Inside (u : DataType) : DataType → Prop
  | whole : Inside u u
  | item {t : DataType} : Inside u t → Inside u (.array t)
  | value {t : DataType} : Inside u t → Inside u (.map t)
  | field {fs : List (ObjectField DataType)} {f : ObjectField DataType} :
      f ∈ fs → Inside u f.type → Inside u (.object fs)
  | variant {ts : List DataType} {t : DataType} : t ∈ ts → Inside u t → Inside u (.union ts)
  | part {ts : List DataType} {t : DataType} : t ∈ ts → Inside u t → Inside u (.intersection ts)

lemma Mentions.inside {n : String} {t : DataType} (h : t.Mentions n) : (DataType.ref n).Inside t := by
  induction h with
  | ref => exact .whole
  | item _ ih => exact .item ih
  | value _ ih => exact .value ih
  | field hf _ ih => exact .field hf ih
  | variant ht _ ih => exact .variant ht ih
  | part ht _ ih => exact .part ht ih

/-! ### Formed types -/

/-- A type without parts that a schema can describe; there is no schema for `void`. -/
def isLeaf : DataType → Bool
  | string | literal _ | number | integer | boolean | null | any | dateTime | binary => true
  | array _ | object _ | map _ | ref _ | union _ | intersection _ | void => false

/-- The types that schemas describe when the names of schemas are these. -/
inductive Formed (named : String → Prop) : DataType → Prop
  | leaf {t : DataType} : t.isLeaf → Formed named t
  | array {t : DataType} : Formed named t → Formed named (.array t)
  | map {t : DataType} : Formed named t → Formed named (.map t)
  | object {fs : List (ObjectField DataType)} : fs ≠ [] → (∀ f ∈ fs, Formed named f.type) →
      Formed named (.object fs)
  | ref {n : String} : named n → Formed named (.ref n)
  | union {ts : List DataType} : ts ≠ [] → (∀ t ∈ ts, Formed named t) → Formed named (.union ts)
  | intersection {ts : List DataType} : 2 ≤ ts.length → (∀ t ∈ ts, Formed named t) →
      Formed named (.intersection ts)

variable {named : String → Prop}

lemma Formed.of_inside {t u : DataType} (ht : Formed named t) (h : u.Inside t) :
    Formed named u := by
  induction h with
  | whole => exact ht
  | item _ ih =>
    cases ht with
    | leaf h => cases h
    | array h => exact ih h
  | value _ ih =>
    cases ht with
    | leaf h => cases h
    | map h => exact ih h
  | field hf _ ih =>
    cases ht with
    | leaf h => cases h
    | object _ h => exact ih (h _ hf)
  | variant hm _ ih =>
    cases ht with
    | leaf h => cases h
    | union _ h => exact ih (h _ hm)
  | part hm _ ih =>
    cases ht with
    | leaf h => cases h
    | intersection _ h => exact ih (h _ hm)

lemma Formed.named_of_mentions {n : String} {t : DataType} (ht : Formed named t)
    (hn : t.Mentions n) : named n := by
  cases ht.of_inside hn.inside with
  | leaf h => cases h
  | ref h => exact h

/-! ### Types of parts -/

/-- The type is that of a part. -/
inductive Parts.Has (p : Parts) (t : DataType) : Prop
  | oneOf {ts : List DataType} : p.oneOf = .ok ts → t ∈ ts → p.Has t
  | anyOf {ts : List DataType} : p.anyOf = .ok ts → t ∈ ts → p.Has t
  | allOf {ts : List DataType} : p.allOf = .ok ts → t ∈ ts → p.Has t
  | field {fs : List (ObjectField DataType)} {f : ObjectField DataType} :
      p.fields = .ok fs → f ∈ fs → f.type = t → p.Has t
  | value : p.value = .ok t → p.Has t
  | item : p.item = .ok t → p.Has t

/-- How the type of a schema is made of the types of its parts. -/
inductive Parts.Makes (p : Parts) (s : Schema) : DataType → Prop
  | leaf {t : DataType} : t.isLeaf → p.Makes s t
  | array {t : DataType} : p.item = .ok t → p.Makes s (.array t)
  | map {t : DataType} : p.value = .ok t → p.Makes s (.map t)
  | anyMap : p.Makes s (.map any)
  | object {fs : List (ObjectField DataType)} :
      s.properties ≠ [] → p.fields = .ok fs → p.Makes s (.object fs)
  | oneOf {ts : List DataType} : s.oneOf ≠ [] → p.oneOf = .ok ts → p.Makes s (.union ts)
  | anyOf {ts : List DataType} : s.anyOf ≠ [] → p.anyOf = .ok ts → p.Makes s (.union ts)
  | member {t : DataType} : p.allOf = .ok [t] → p.Makes s t
  | members {ts : List DataType} : s.allOf ≠ [] → p.allOf = .ok ts → (∀ t, ts ≠ [t]) →
      p.Makes s (.intersection ts)
  /-- The members come with an object of the own properties. -/
  | extended {ts : List DataType} {fs : List (ObjectField DataType)} : s.allOf ≠ [] →
      p.allOf = .ok ts → (∀ t, ts ≠ [t]) → s.properties ≠ [] → p.fields = .ok fs →
      p.Makes s (.intersection (ts ++ [.object fs]))
  /-- Several keywords, several texts of an enumeration, or null beside another type. -/
  | union {ts : List DataType} : ts ≠ [] → (∀ t ∈ ts, p.Makes s t) → p.Makes s (.union ts)

namespace Parts

variable {s : Schema} {p : Parts} {t : DataType}

lemma Makes.orNull (h : p.Makes s t) : p.Makes s t.orNull := by
  unfold DataType.orNull
  split
  · exact .leaf rfl
  · exact .leaf rfl
  · refine .union (List.cons_ne_nil _ _) fun u hu => ?_
    rcases List.mem_pair.mp hu with rfl | rfl
    · exact h
    · exact .leaf rfl

lemma makes_ofEnum? (h : ofEnum? s.enum = some t) : p.Makes s t := by
  have hmem : ∀ u ∈ literals s.enum, p.Makes s u := by
    intro u hu
    obtain ⟨v, -, hv⟩ := List.mem_filterMap.mp hu
    obtain ⟨text, -, rfl⟩ := Option.map_eq_some_iff.mp hv
    exact .leaf rfl
  unfold ofEnum? at h
  split at h
  · cases h
  · rename_i hl
    cases h
    exact hmem t (hl ▸ List.mem_cons_self)
  · rename_i hne _
    cases h
    exact .union hne hmem

lemma makes_ofConst? (h : ofConst? s.const = some t) : p.Makes s t := by
  obtain ⟨text, -, rfl⟩ := Option.map_eq_some_iff.mp h
  exact .leaf rfl

lemma makes_object (h : p.object s = .ok t) : p.Makes s t := by
  unfold object at h
  split at h
  · rename_i hs
    obtain ⟨fs, hfs, rfl⟩ := Except.map_eq_ok_iff.mp h
    exact .object (by simpa using hs) hfs
  split at h
  · obtain ⟨u, hu, rfl⟩ := Except.map_eq_ok_iff.mp h
    exact .map hu
  · cases h
    exact .anyMap
  · cases h
    exact .leaf rfl
  · cases h
    exact .leaf rfl

lemma makes_array (h : p.item.map array = .ok t) : p.Makes s t := by
  obtain ⟨u, hu, rfl⟩ := Except.map_eq_ok_iff.mp h
  exact .array hu

lemma isLeaf_ofFormat (format : Option String) : (ofFormat format).isLeaf := by
  unfold ofFormat
  split <;> rfl

lemma makes_keyword {k : TypeKeyword} (h : p.keyword s k = .ok t) : p.Makes s t := by
  cases k with
  | array => exact makes_array h
  | object => exact makes_object h
  | string =>
    cases h
    exact .leaf (isLeaf_ofFormat _)
  | _ =>
    cases h
    exact .leaf rfl

lemma makes_keywords {ks : List TypeKeyword} (h : p.keywords s ks = .ok t) : p.Makes s t := by
  obtain ⟨ts, hts, h⟩ := Except.bind_eq_ok_iff.mp h
  have hall : ∀ u ∈ ts, p.Makes s u := by
    intro u hu
    obtain ⟨k, -, hk⟩ := Except.mem_of_mapM_eq_ok hts hu
    exact makes_keyword hk
  split at h
  · cases h
    exact .leaf rfl
  · cases h
    exact .leaf rfl
  · cases h
    exact hall _ List.mem_cons_self
  · rename_i hne _ _
    cases h
    exact .union hne hall
  · cases h
    refine .union (by simp) fun u hu => ?_
    rcases List.mem_append.mp hu with hu | hu
    · exact hall u hu
    · cases List.mem_singleton.mp hu
      exact .leaf rfl

lemma makes_untyped (h : p.untyped s = .ok t) : p.Makes s t := by
  unfold untyped at h
  split at h
  · exact makes_object h
  split at h
  · exact makes_array h
  · cases h
    exact .leaf rfl

/-- The type of a schema is made in one of these ways. -/
lemma makes_base (h : p.base s = .ok t) : p.Makes s t := by
  unfold base at h
  split at h
  · rename_i hs
    obtain ⟨ts, hts, rfl⟩ := Except.map_eq_ok_iff.mp h
    exact .oneOf (by simpa using hs) hts
  split at h
  · rename_i hs
    obtain ⟨ts, hts, rfl⟩ := Except.map_eq_ok_iff.mp h
    exact .anyOf (by simpa using hs) hts
  split at h
  · rename_i hs
    have hs : s.allOf ≠ [] := by simpa using hs
    obtain ⟨ts, hts, h⟩ := Except.bind_eq_ok_iff.mp h
    split at h
    · cases h
      exact .member hts
    · rename_i hone
      split at h
      · cases h
        exact .members hs hts hone
      · rename_i hproperties
        obtain ⟨fs, hfs, ⟨⟩⟩ := Except.bind_eq_ok_iff.mp h
        exact .extended hs hts hone (by simpa using hproperties) hfs
  -- an enumeration or a constant has a type of its own
  split at h
  · rename_i u hu
    cases h
    rcases Option.or_eq_some_iff.mp hu with hu | ⟨-, hu⟩
    · exact makes_ofEnum? hu
    · exact makes_ofConst? hu
  split at h
  · exact makes_keyword h
  · exact makes_keywords h
  · exact makes_untyped h

end Parts

/-- The parts of a schema are formed, and there is a type for each. -/
structure Parts.Formed (named : String → Prop) (s : Schema) (p : Parts) : Prop where
  oneOf : ∀ ts, p.oneOf = .ok ts → ts.length = s.oneOf.length ∧ ∀ t ∈ ts, t.Formed named
  anyOf : ∀ ts, p.anyOf = .ok ts → ts.length = s.anyOf.length ∧ ∀ t ∈ ts, t.Formed named
  allOf : ∀ ts, p.allOf = .ok ts → ts.length = s.allOf.length ∧ ∀ t ∈ ts, t.Formed named
  fields : ∀ fs, p.fields = .ok fs →
    fs.length = s.properties.length ∧ ∀ f ∈ fs, f.type.Formed named
  value : ∀ t, p.value = .ok t → t.Formed named
  item : ∀ t, p.item = .ok t → t.Formed named

namespace Parts.Formed

variable {s : Schema} {p : Parts} {t : DataType}

lemma formed_fields (h : p.Formed named s) (hs : s.properties ≠ [])
    {fs : List (ObjectField DataType)} (hfs : p.fields = .ok fs) :
    DataType.Formed named (.object fs) := by
  obtain ⟨hlen, hall⟩ := h.fields fs hfs
  refine .object ?_ hall
  rwa [← List.length_pos_iff, hlen, List.length_pos_iff]

lemma formed_union {ts : List DataType} {nodes : List (Node Schema)}
    (h : ts.length = nodes.length ∧ ∀ t ∈ ts, t.Formed named) (hnodes : nodes ≠ []) :
    DataType.Formed named (.union ts) := by
  refine .union ?_ h.2
  rwa [← List.length_pos_iff, h.1, List.length_pos_iff]

lemma two_le_length (h : p.Formed named s) (hs : s.allOf ≠ []) {ts : List DataType}
    (hts : p.allOf = .ok ts) (hone : ∀ u, ts ≠ [u]) : 2 ≤ ts.length := by
  have hpos : 0 < ts.length := (h.allOf ts hts).1 ▸ List.length_pos_iff.mpr hs
  have hne : ts.length ≠ 1 := fun h1 => by
    obtain ⟨u, rfl⟩ := List.length_eq_one_iff.mp h1
    exact hone u rfl
  omega

/-- What is made of formed parts is formed. -/
lemma formed_of_makes (h : p.Formed named s) (ht : p.Makes s t) : t.Formed named := by
  induction ht with
  | leaf ht => exact .leaf ht
  | array ht => exact .array (h.item _ ht)
  | map ht => exact .map (h.value _ ht)
  | anyMap => exact .map (.leaf rfl)
  | object hs hfs => exact h.formed_fields hs hfs
  | oneOf hs hts => exact formed_union (h.oneOf _ hts) hs
  | anyOf hs hts => exact formed_union (h.anyOf _ hts) hs
  | member ht => exact (h.allOf _ ht).2 _ List.mem_cons_self
  | members hs hts hone => exact .intersection (h.two_le_length hs hts hone) (h.allOf _ hts).2
  | @extended ts fs hs hts hone hproperties hfs =>
    have hlen := h.two_le_length hs hts hone
    refine .intersection (by simp only [List.length_append]; omega) fun u hu => ?_
    rcases List.mem_append.mp hu with hu | hu
    · exact (h.allOf _ hts).2 u hu
    · cases List.mem_singleton.mp hu
      exact h.formed_fields hproperties hfs
  | union hne _ ih => exact .union hne ih

end Parts.Formed

/-! ### Pointers and lists of schemas -/

variable (d : Document)

lemma ofNodes_eq_mapM (nodes : List (Node Schema)) : ofNodes d nodes = nodes.mapM (ofNode d) := by
  induction nodes with
  | nil => rfl
  | cons node nodes ih => rw [ofNodes, ih, List.mapM_cons]

/-- The field of an object that a property becomes. -/
structure FieldOf (required : List String) (property : String × Node Schema)
    (f : ObjectField DataType) : Prop where
  name : f.name = property.1
  type : ofNode d property.2 = .ok f.type
  required_iff : f.required ↔ property.1 ∈ required

lemma ofProperties_eq_mapM (required : List String) (properties : List (String × Node Schema)) :
    ofProperties d required properties = properties.mapM fun property =>
      (ofNode d property.2).map fun t => ⟨property.1, t, required.contains property.1⟩ := by
  induction properties with
  | nil => rfl
  | cons property properties ih =>
    obtain ⟨name, node⟩ := property
    rw [ofProperties, ih, List.mapM_cons]
    cases ofNode d node <;> rfl

variable {d}

lemma ofPointer_eq_ok_iff {p : String} {t : DataType} :
    ofPointer d p = .ok t ↔ ∃ name, Pointer.parse? p = some (.schemas, name) ∧
      name ∈ d.schemaTable.names ∧ t = .ref (Name.ofString name).pascal := by
  rw [ofPointer, Except.map_eq_ok_iff]
  simp only [d.schemaName_eq_ok_iff, Table.isSome_lookup_iff, and_assoc, @eq_comm _ t]

lemma ofNodes_eq_ok_iff {nodes : List (Node Schema)} {ts : List DataType} :
    ofNodes d nodes = .ok ts ↔ List.Forall₂ (fun node t => ofNode d node = .ok t) nodes ts := by
  rw [ofNodes_eq_mapM, Except.mapM_eq_ok_iff]

lemma ofProperties_eq_ok_iff {required : List String} {properties : List (String × Node Schema)}
    {fs : List (ObjectField DataType)} :
    ofProperties d required properties = .ok fs ↔
      List.Forall₂ (FieldOf d required) properties fs := by
  have hfield : ∀ (property : String × Node Schema) (f : ObjectField DataType),
      (ofNode d property.2).map (fun t => ⟨property.1, t, required.contains property.1⟩) = .ok f ↔
        FieldOf d required property f := by
    rintro ⟨name, node⟩ ⟨name', t, isRequired⟩
    rw [Except.map_eq_ok_iff]
    constructor
    · rintro ⟨_, ht, ⟨⟩⟩
      exact ⟨rfl, ht, List.contains_iff_mem⟩
    · rintro ⟨rfl, ht, hrequired⟩
      have hcontains : required.contains name' = isRequired :=
        Bool.coe_iff_coe.mp (List.contains_iff_mem.trans hrequired.symm)
      exact ⟨t, ht, by rw [hcontains]⟩
  rw [ofProperties_eq_mapM, Except.mapM_eq_ok_iff]
  simp only [hfield]

lemma exists_mem_of_ofNodes {nodes : List (Node Schema)} {ts : List DataType}
    (h : ofNodes d nodes = .ok ts) {t : DataType} (ht : t ∈ ts) :
    ∃ node ∈ nodes, ofNode d node = .ok t := by
  rw [ofNodes_eq_mapM] at h
  exact Except.mem_of_mapM_eq_ok h ht

lemma exists_mem_of_ofProperties {required : List String}
    {properties : List (String × Node Schema)} {fs : List (ObjectField DataType)}
    (h : ofProperties d required properties = .ok fs) {f : ObjectField DataType} (hf : f ∈ fs) :
    ∃ property ∈ properties, ofNode d property.2 = .ok f.type := by
  rw [ofProperties_eq_mapM] at h
  obtain ⟨property, hproperty, hf⟩ := Except.mem_of_mapM_eq_ok h hf
  obtain ⟨t, ht, rfl⟩ := Except.map_eq_ok_iff.mp hf
  exact ⟨property, hproperty, ht⟩

/-! ### Types of schemas -/

variable (d)

/-- The types of the parts of a schema. -/
def partsOf (s : Schema) : Parts :=
  ⟨ofNodes d s.oneOf, ofNodes d s.anyOf, ofNodes d s.allOf, ofProperties d s.required s.properties,
    ofAdditional d s.additional, ofItems d s.items⟩

lemma ofSchema_eq (s : Schema) : ofSchema d s =
    if s.nullable = some true then ((partsOf d s).base s).map orNull else (partsOf d s).base s := by
  obtain ⟨_, _, _, _, nullable, properties, required, additional, items, allOf, oneOf, anyOf, _, _⟩ :=
    s
  rw [ofSchema]
  rfl

variable {d} {s : Schema} {t : DataType}

lemma makes_ofSchema (h : ofSchema d s = .ok t) : (partsOf d s).Makes s t := by
  rw [ofSchema_eq] at h
  split at h
  · obtain ⟨u, hu, rfl⟩ := Except.map_eq_ok_iff.mp h
    exact (Parts.makes_base hu).orNull
  · exact Parts.makes_base h

/-- A part is a node of the schema, or of a kind that may be anything. -/
lemma exists_has_of_partsOf (h : (partsOf d s).Has t) :
    t = any ∨ ∃ node, s.Has node ∧ ofNode d node = .ok t := by
  cases h with
  | oneOf hts ht =>
    obtain ⟨node, hnode, h⟩ := exists_mem_of_ofNodes hts ht
    exact .inr ⟨node, .oneOf hnode, h⟩
  | anyOf hts ht =>
    obtain ⟨node, hnode, h⟩ := exists_mem_of_ofNodes hts ht
    exact .inr ⟨node, .anyOf hnode, h⟩
  | allOf hts ht =>
    obtain ⟨node, hnode, h⟩ := exists_mem_of_ofNodes hts ht
    exact .inr ⟨node, .allOf hnode, h⟩
  | field hfs hf hft =>
    obtain ⟨property, hproperty, h⟩ := exists_mem_of_ofProperties hfs hf
    exact .inr ⟨property.2, .property hproperty, hft ▸ h⟩
  | value h =>
    change ofAdditional d s.additional = .ok t at h
    rcases ha : s.additional with _ | _ | node
    all_goals rw [ha] at h
    · exact .inl (Except.ok.inj h).symm
    · exact .inl (Except.ok.inj h).symm
    · exact .inr ⟨node, .additional ha, h⟩
  | item h =>
    change ofItems d s.items = .ok t at h
    rcases hi : s.items with _ | node
    all_goals rw [hi] at h
    · exact .inl (Except.ok.inj h).symm
    · exact .inr ⟨node, .items hi, h⟩

/-- Every pointer in the node that can be followed gives a formed type. -/
def Resolves (d : Document) (named : String → Prop) (node : Node Schema) : Prop :=
  ∀ p t, Occurs p node → ofPointer d p = .ok t → t.Formed named

/-- **Formed types.** The type of a node is formed, with names of the pointers in the node. -/
theorem formed_ofNode (node : Node Schema) (hn : Resolves d named node) (t : DataType)
    (ht : ofNode d node = .ok t) : t.Formed named := by
  induction node using node_induction generalizing t with
  | ref p => exact hn p t .ref ht
  | inline s ih =>
    have hpart : ∀ u, (partsOf d s).Has u → u.Formed named := by
      intro u hu
      rcases exists_has_of_partsOf hu with rfl | ⟨node, hnode, hu⟩
      · exact .leaf rfl
      · exact ih node hnode (fun p t hp => hn p t (hnode.occurs hp)) u hu
    -- each part has a type, so no list of types is empty unless that of the parts is
    have hlength : ∀ {nodes ts}, ofNodes d nodes = .ok ts → ts.length = nodes.length :=
      fun hts => (ofNodes_eq_ok_iff.mp hts).length_eq.symm
    have hparts : (partsOf d s).Formed named s :=
      { oneOf := fun _ hts => ⟨hlength hts, fun _ ht => hpart _ (.oneOf hts ht)⟩
        anyOf := fun _ hts => ⟨hlength hts, fun _ ht => hpart _ (.anyOf hts ht)⟩
        allOf := fun _ hts => ⟨hlength hts, fun _ ht => hpart _ (.allOf hts ht)⟩
        fields := fun _ hfs => ⟨(ofProperties_eq_ok_iff.mp hfs).length_eq.symm,
          fun _ hf => hpart _ (.field hfs hf rfl)⟩
        value := fun _ ht => hpart _ (.value ht)
        item := fun _ ht => hpart _ (.item ht) }
    exact hparts.formed_of_makes (makes_ofSchema ht)

theorem formed_ofSchema (s : Schema) (hs : Resolves d named (.inline s)) (t : DataType)
    (ht : ofSchema d s = .ok t) : t.Formed named :=
  formed_ofNode (.inline s) hs t ht

end DataType

end ApiOperations
