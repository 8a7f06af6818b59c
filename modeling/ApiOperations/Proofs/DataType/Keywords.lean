import Mathlib.Data.List.Basic
import ApiOperations.Proofs.DataType.Formed
import ApiOperations.Proofs.Operation.Dependencies

/-!
Schemas that are not composed of others.

An enumeration of texts gives their literals, and one without any text leaves the type to the other
keywords. In an enumeration of both, the values that are no texts are lost, as if they were not listed.

That a value may also be null can be said by a flag beside a type or by a list of types. Both ways give
the same type, unless that of the first keyword holds every value: the flag adds nothing to it, but the
list makes a union of it and null.
-/

namespace ApiOperations

open ApiOperations.Description (Document Schema TypeKeyword)

namespace Description.Schema

/-- The schema has no alternatives and no members. -/
structure Uncomposed (s : Schema) : Prop where
  oneOf : s.oneOf = []
  anyOf : s.anyOf = []
  allOf : s.allOf = []

/-- The type of the schema is left to its keywords. -/
structure Plain (s : Schema) : Prop extends s.Uncomposed where
  enum : s.enum = []
  const : s.const = none

/-- Nothing is said of the properties of an object, or only that there are no further ones. -/
structure Shapeless (s : Schema) : Prop where
  properties : s.properties = []
  additional : s.additional = none ∨ s.additional = some (.allowed false)

/-- The schema with one keyword, and null by the flag of OpenAPI 3.0. -/
def flagged (s : Schema) (k : TypeKeyword) : Schema :=
  { s with type := some (.single k), nullable := some true }

/-- The schema with one keyword, and null in the list of OpenAPI 3.1. -/
def listed (s : Schema) (k : TypeKeyword) : Schema :=
  { s with type := some (.several [k, .null]), nullable := none }

end Description.Schema

namespace DataType

variable {d : Document} {s : Schema} {t : DataType} {p : Parts}

/-! ### Enumerations -/

/-- The literal of a text, or the union of those of several. -/
def ofTexts : List String → DataType
  | [text] => literal text
  | texts => union (texts.map literal)

/-- The texts among the values of an enumeration. -/
def textsOf (values : List Json.Value) : List String :=
  values.filterMap Json.Value.text?

/-- The type of a schema, given the one without regard to null. -/
def widened (s : Schema) (t : DataType) : DataType :=
  if s.nullable = some true then t.orNull else t

lemma literals_eq (values : List Json.Value) : literals values = (textsOf values).map literal :=
  (List.map_filterMap ..).symm

lemma ofEnum?_eq (values : List Json.Value) :
    ofEnum? values = if textsOf values = [] then none else some (ofTexts (textsOf values)) := by
  rw [ofEnum?, literals_eq]
  rcases textsOf values with _ | ⟨text, _ | ⟨text', texts⟩⟩ <;> rfl

@[simp] lemma textsOf_map_string (texts : List String) :
    textsOf (texts.map Json.Value.string) = texts := by
  rw [textsOf, List.filterMap_map]
  exact List.filterMap_some

lemma textsOf_eq_nil_iff {values : List Json.Value} :
    textsOf values = [] ↔ ∀ v ∈ values, v.text? = none :=
  List.filterMap_eq_nil_iff

lemma textsOf_ne_nil {values : List Json.Value} (h : ∃ v ∈ values, v.text?.isSome) :
    textsOf values ≠ [] := by
  obtain ⟨v, hv, htext⟩ := h
  rw [ne_eq, textsOf_eq_nil_iff]
  exact fun hnone => by simp [hnone v hv] at htext

lemma base_of_ofEnum? (h : s.Uncomposed) (ht : ofEnum? s.enum = some t) : p.base s = .ok t := by
  simp only [Parts.base, h.oneOf, h.anyOf, h.allOf, ht, List.isEmpty_nil, Bool.not_true,
    Bool.false_eq_true, if_false, Option.some_or]

lemma ofSchema_of_textsOf (h : s.Uncomposed) (htexts : textsOf s.enum ≠ []) :
    ofSchema d s = .ok (widened s (ofTexts (textsOf s.enum))) := by
  have hbase : (partsOf d s).base s = .ok (ofTexts (textsOf s.enum)) :=
    base_of_ofEnum? h (by rw [ofEnum?_eq, if_neg htexts])
  rw [ofSchema_eq, hbase, widened]
  split <;> rfl

/-- Of an enumeration only the texts are looked at. -/
lemma ofSchema_congr_enum {values : List Json.Value} (h : textsOf values = textsOf s.enum) :
    ofSchema d { s with enum := values } = ofSchema d s := by
  have henum : ofEnum? values = ofEnum? s.enum := by rw [ofEnum?_eq, ofEnum?_eq, h]
  have hbase : (partsOf d s).base { s with enum := values } = (partsOf d s).base s := by
    simp only [Parts.base, henum]
    rfl
  rw [ofSchema_eq, ofSchema_eq]
  change (if s.nullable = some true then ((partsOf d s).base { s with enum := values }).map orNull
    else (partsOf d s).base { s with enum := values }) = _
  rw [hbase]

/-- **Enumerations.** The type of an enumeration of texts is the literal of its text or the union of
its literals, in order. An enumeration without texts has the type of the schema without it. And one
with some texts has the type that these alone have, so that every other value in it is lost. -/
theorem ofSchema_of_enum (d : Document) (h : s.Uncomposed) (hne : s.enum ≠ []) :
    (∀ texts, s.enum = texts.map .string → ofSchema d s = .ok (widened s (ofTexts texts))) ∧
    ((∀ v ∈ s.enum, v.text? = none) → ofSchema d s = ofSchema d { s with enum := [] }) ∧
    ((∃ v ∈ s.enum, v.text?.isSome) →
      ofSchema d s = ofSchema d { s with enum := (textsOf s.enum).map .string } ∧
        ofSchema d s = .ok (widened s (ofTexts (textsOf s.enum)))) := by
  refine ⟨fun texts htexts => ?_, fun hnone => ?_, fun hsome => ⟨?_, ?_⟩⟩
  · have hof : textsOf s.enum = texts := by rw [htexts, textsOf_map_string]
    have hnil : textsOf s.enum ≠ [] := by
      rintro hnil
      rw [hof] at hnil
      exact hne (by rw [htexts, hnil, List.map_nil])
    rw [ofSchema_of_textsOf h hnil, hof]
  · refine (ofSchema_congr_enum ?_).symm
    rw [textsOf_eq_nil_iff.mpr hnone]
    rfl
  · exact (ofSchema_congr_enum (textsOf_map_string _)).symm
  · exact ofSchema_of_textsOf h (textsOf_ne_nil hsome)

/-- A size that may be left open. -/
def optionalSize : Schema :=
  { Schema.empty with
    type := some (.several [.string, .null])
    enum := [.string "small", .string "large", .null] }

theorem ofSchema_of_enum_of_optionalSize :
    let sizes := { optionalSize with enum := [.string "small", .string "large"], nullable := some true }
    optionalSize.Uncomposed ∧ optionalSize.enum ≠ [] ∧
      ofSchema Operation.store optionalSize = .ok (.union [.literal "small", .literal "large"]) ∧
      sizes.Uncomposed ∧ sizes.enum ≠ [] ∧ ofSchema Operation.store sizes =
        .ok (.union [.union [.literal "small", .literal "large"], .null]) := by
  intro sizes
  have h : optionalSize.Uncomposed := ⟨rfl, rfl, rfl⟩
  have hne : optionalSize.enum ≠ [] := List.cons_ne_nil _ _
  have hsizes : sizes.Uncomposed := ⟨rfl, rfl, rfl⟩
  have hsizesne : sizes.enum ≠ [] := List.cons_ne_nil _ _
  refine ⟨h, hne, ?_, hsizes, hsizesne, ?_⟩
  · exact ((ofSchema_of_enum Operation.store h hne).2.2
      ⟨.string "small", List.mem_cons_self, rfl⟩).2
  · exact (ofSchema_of_enum Operation.store hsizes hsizesne).1 ["small", "large"] rfl

/-- Null is among the values of a size and among its types, but not in the type of the schema. -/
theorem enum_value_lost_of_optionalSize :
    optionalSize.Uncomposed ∧ optionalSize.enum ≠ [] ∧
      (∃ v ∈ optionalSize.enum, v.text? = none) ∧
      ofSchema Operation.store optionalSize = .ok (.union [.literal "small", .literal "large"]) ∧
      ofSchema Operation.store { optionalSize with enum := [] } = .ok (.union [.string, .null]) ∧
      ofSchema Operation.store optionalSize ≠
        ofSchema Operation.store { optionalSize with enum := [] } := by
  have hsize : ofSchema Operation.store optionalSize =
      .ok (.union [.literal "small", .literal "large"]) := rfl
  have hwithout : ofSchema Operation.store { optionalSize with enum := [] } =
      .ok (.union [.string, .null]) := rfl
  have hnull : .null ∈ optionalSize.enum := by simp [optionalSize]
  refine ⟨⟨rfl, rfl, rfl⟩, List.cons_ne_nil _ _, ⟨.null, hnull, rfl⟩, hsize, hwithout, ?_⟩
  rw [hsize, hwithout]
  rintro ⟨⟩

/-! ### Types that may be null -/

lemma orNull_eq_union_iff : t.orNull = union [t, null] ↔ t ≠ null ∧ t ≠ any := by
  cases t <;> simp [orNull]

lemma base_of_plain (h : s.Plain) : p.base s =
    match s.type with
    | some (.single k) => p.keyword s k
    | some (.several ks) => p.keywords s ks
    | none => p.untyped s := by
  have hvalue : (ofEnum? s.enum).or (ofConst? s.const) = none := by
    rw [h.enum, h.const]
    rfl
  rw [Parts.base, h.oneOf, h.anyOf, h.allOf, hvalue]
  rfl

lemma ofSchema_flagged (h : s.Plain) (k : TypeKeyword) :
    ofSchema d (s.flagged k) = ((partsOf d s).keyword s k).map orNull := by
  have hplain : (s.flagged k).Plain := ⟨⟨h.oneOf, h.anyOf, h.allOf⟩, h.enum, h.const⟩
  rw [ofSchema_eq, base_of_plain hplain]
  rfl

lemma ofSchema_listed (h : s.Plain) {k : TypeKeyword} (hk : k ≠ .null) :
    ofSchema d (s.listed k) = ((partsOf d s).keyword s k).map fun t => union [t, null] := by
  have hplain : (s.listed k).Plain := ⟨⟨h.oneOf, h.anyOf, h.allOf⟩, h.enum, h.const⟩
  have hfilter : [k, TypeKeyword.null].filter (· ≠ .null) = [k] := by simp [hk]
  have hcontains : [k, TypeKeyword.null].contains .null = true := by simp
  rw [ofSchema_eq, base_of_plain hplain]
  change (partsOf d s).keywords s [k, .null] = _
  rw [Parts.keywords, hfilter, hcontains, List.mapM_cons, List.mapM_nil]
  cases (partsOf d s).keyword s k <;> rfl

lemma object_ne_null : p.object s ≠ .ok null := by
  unfold Parts.object
  intro h
  split at h
  · obtain ⟨_, _, ⟨⟩⟩ := Except.map_eq_ok_iff.mp h
  split at h
  · obtain ⟨_, _, ⟨⟩⟩ := Except.map_eq_ok_iff.mp h
  all_goals cases h

lemma object_eq_any_iff : p.object s = .ok any ↔ s.Shapeless := by
  unfold Parts.object
  constructor
  · intro h
    split at h
    · obtain ⟨_, _, ⟨⟩⟩ := Except.map_eq_ok_iff.mp h
    · rename_i hproperties
      have hproperties : s.properties = [] := by simpa using hproperties
      split at h
      · obtain ⟨_, _, ⟨⟩⟩ := Except.map_eq_ok_iff.mp h
      · cases h
      · rename_i hadditional
        exact ⟨hproperties, .inr hadditional⟩
      · rename_i hadditional
        exact ⟨hproperties, .inl hadditional⟩
  · rintro ⟨hproperties, hadditional | hadditional⟩ <;> rw [hproperties, hadditional] <;> rfl

lemma ofFormat_ne (format : Option String) : ofFormat format ≠ null ∧ ofFormat format ≠ any := by
  unfold ofFormat
  split <;> exact ⟨DataType.noConfusion, DataType.noConfusion⟩

/-- No keyword but `null` gives null, and of the others only that of objects may give anything. -/
lemma keyword_ne_null {k : TypeKeyword} (hk : k ≠ .null) : p.keyword s k ≠ .ok null := by
  intro h
  cases k with
  | null => exact hk rfl
  | array => obtain ⟨_, _, ⟨⟩⟩ := Except.map_eq_ok_iff.mp h
  | object => exact object_ne_null h
  | string => exact (ofFormat_ne _).1 (Except.ok.inj h)
  | number | integer | boolean | file => cases h

lemma keyword_eq_any_iff {k : TypeKeyword} :
    p.keyword s k = .ok any ↔ k = .object ∧ s.Shapeless := by
  constructor
  · intro h
    cases k with
    | object => exact ⟨rfl, object_eq_any_iff.mp h⟩
    | array => obtain ⟨_, _, ⟨⟩⟩ := Except.map_eq_ok_iff.mp h
    | string => exact absurd (Except.ok.inj h) (ofFormat_ne _).2
    | null | number | integer | boolean | file => cases h
  · rintro ⟨rfl, h⟩
    exact object_eq_any_iff.mpr h

/-- **Null by flag or by list.** A keyword with the flag has the same type, or none for the same
reason, as the keyword in a list with null, if and only if it is not an object of which nothing is
said. The flag leaves such an object with the type that holds every value, and the list makes a union
of this type and null. -/
theorem ofSchema_flagged_eq_listed_iff (d : Document) (h : s.Plain) {k : TypeKeyword}
    (hk : k ≠ .null) :
    (ofSchema d (s.flagged k) = ofSchema d (s.listed k) ↔ ¬(k = .object ∧ s.Shapeless)) ∧
      (k = .object → s.Shapeless → ofSchema d (s.flagged k) = .ok any ∧
        ofSchema d (s.listed k) = .ok (.union [any, null])) := by
  have hnull := keyword_ne_null (p := partsOf d s) (s := s) hk
  have hany := keyword_eq_any_iff (p := partsOf d s) (s := s) (k := k)
  rw [ofSchema_flagged h, ofSchema_listed h hk]
  constructor
  · rw [← hany]
    cases hkeyword : (partsOf d s).keyword s k with
    -- items or properties without a type fail in both ways
    | error e => exact ⟨fun _ => nofun, fun _ => rfl⟩
    | ok t =>
      have ht : t ≠ null := fun ht => hnull (hkeyword.trans (congrArg _ ht))
      simp only [Except.map, Except.ok.injEq, orNull_eq_union_iff]
      exact ⟨And.right, fun hne => ⟨ht, hne⟩⟩
  · intro hobject hshapeless
    rw [hany.mpr ⟨hobject, hshapeless⟩]
    exact ⟨rfl, rfl⟩

/-- An object, and items that are dates. -/
def datedObject : Schema :=
  { Schema.empty with
    items := some (.inline { Schema.empty with
      type := some (.single .string)
      format := some "date" }) }

theorem ofSchema_flagged_eq_listed_iff_of_datedObject :
    datedObject.Plain ∧ datedObject.Shapeless ∧
      ofSchema Operation.store (datedObject.flagged .array) =
        ofSchema Operation.store (datedObject.listed .array) ∧
      ofSchema Operation.store (datedObject.flagged .object) = .ok any ∧
      ofSchema Operation.store (datedObject.listed .object) = .ok (.union [any, null]) := by
  have h : datedObject.Plain := ⟨⟨rfl, rfl, rfl⟩, rfl, rfl⟩
  have hshapeless : datedObject.Shapeless := ⟨rfl, .inl rfl⟩
  have harray : TypeKeyword.array ≠ .null := by decide
  have hobject : TypeKeyword.object ≠ .null := by decide
  refine ⟨h, hshapeless, ?_,
    (ofSchema_flagged_eq_listed_iff Operation.store h hobject).2 rfl hshapeless⟩
  exact (ofSchema_flagged_eq_listed_iff Operation.store h harray).1.mpr fun hk => by cases hk.1

/-- The two ways differ for an object of which nothing is said. -/
theorem flagged_ne_listed_of_empty :
    Schema.empty.Plain ∧ TypeKeyword.object ≠ .null ∧
      ofSchema Operation.store (Schema.empty.flagged .object) = .ok any ∧
      ofSchema Operation.store (Schema.empty.listed .object) = .ok (.union [any, null]) ∧
      ofSchema Operation.store (Schema.empty.flagged .object) ≠
        ofSchema Operation.store (Schema.empty.listed .object) := by
  have hflagged : ofSchema Operation.store (Schema.empty.flagged .object) = .ok any := rfl
  have hlisted : ofSchema Operation.store (Schema.empty.listed .object) =
      .ok (.union [any, null]) := rfl
  refine ⟨⟨⟨rfl, rfl, rfl⟩, rfl, rfl⟩, by decide, hflagged, hlisted, ?_⟩
  rw [hflagged, hlisted]
  rintro ⟨⟩

end DataType

end ApiOperations
