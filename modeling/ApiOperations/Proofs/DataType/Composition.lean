import Mathlib.Data.List.Forall2
import ApiOperations.Proofs.List
import ApiOperations.Proofs.Operation.Dependencies

/-!
Schemas that extend others.

A schema with members of `allOf` and with properties of its own says two things about a value. With
several members its type says both: it is the intersection of the types of the members and of the
object of the own properties. With one member the type is that of the member alone, whatever the own
properties are, so they are lost, and so is a mistake in them.
-/

namespace ApiOperations

open ApiOperations.Description (Document Schema)

/-- A schema that extends the members of `allOf` by properties of its own, and does nothing else. -/
structure Description.Schema.Extends (s : Schema) : Prop where
  oneOf : s.oneOf = []
  anyOf : s.anyOf = []
  nullable : s.nullable ≠ some true
  allOf : s.allOf ≠ []
  properties : s.properties ≠ []

namespace DataType

variable {d : Document}

/-! ### Extensions -/

variable {s : Schema} {t : DataType}

lemma ofSchema_of_extends (h : s.Extends) : ofSchema d s = do
    match ← ofNodes d s.allOf with
    | [t] => return t
    | ts => return intersection (ts ++ [.object (← ofProperties d s.required s.properties)]) := by
  have hallOf : s.allOf.isEmpty = false := by simpa using h.allOf
  have hproperties : s.properties.isEmpty = false := by simpa using h.properties
  rw [ofSchema_eq, if_neg h.nullable, Parts.base]
  simp only [h.oneOf, h.anyOf, hallOf, hproperties, List.isEmpty_nil, Bool.not_true, Bool.not_false,
    Bool.false_eq_true, if_true, if_false]
  rfl

/-- With several members the own properties are a part of the type. -/
lemma ofSchema_eq_ok_iff_of_several (h : s.Extends) (hlen : s.allOf.length ≠ 1) :
    ofSchema d s = .ok t ↔ ∃ ts fs,
      List.Forall₂ (fun node t => ofNode d node = .ok t) s.allOf ts ∧
        List.Forall₂ (FieldOf d s.required) s.properties fs ∧
          t = .intersection (ts ++ [.object fs]) := by
  rw [ofSchema_of_extends h, Except.bind_eq_ok_iff]
  constructor
  · rintro ⟨ts, hts, ht⟩
    have hlength := (ofNodes_eq_ok_iff.mp hts).length_eq
    split at ht
    · exact absurd hlength hlen
    · obtain ⟨fs, hfs, ⟨⟩⟩ := Except.bind_eq_ok_iff.mp ht
      exact ⟨ts, fs, ofNodes_eq_ok_iff.mp hts, ofProperties_eq_ok_iff.mp hfs, rfl⟩
  · rintro ⟨ts, fs, hts, hfs, rfl⟩
    refine ⟨ts, ofNodes_eq_ok_iff.mpr hts, ?_⟩
    have hlength := hts.length_eq
    split
    · exact absurd hlength hlen
    · exact Except.bind_eq_ok_iff.mpr ⟨fs, ofProperties_eq_ok_iff.mpr hfs, rfl⟩

/-- With one member the own properties are not looked at. -/
lemma ofSchema_of_single (h : s.Extends) {node : Node Schema} (hone : s.allOf = [node]) :
    ofSchema d s = ofNode d node := by
  rw [ofSchema_of_extends h, hone, ofNodes_eq_mapM, List.mapM_cons]
  cases ofNode d node <;> rfl

/-- The type names what any of its own properties names. -/
lemma mentions_of_property {ts : List DataType} {fs : List (ObjectField DataType)}
    {required : List String} {properties : List (String × Node Schema)}
    (hfs : List.Forall₂ (FieldOf d required) properties fs) {property : String × Node Schema}
    (hproperty : property ∈ properties) {u : DataType} (hu : ofNode d property.2 = .ok u)
    {n : String} (hn : u.Mentions n) : (intersection (ts ++ [.object fs])).Mentions n := by
  obtain ⟨i, hi⟩ := List.mem_iff_getElem?.mp hproperty
  obtain ⟨f, hf, hfield⟩ := hfs.exists_getElem? hi
  obtain rfl : u = f.type := Except.ok.inj (hu.symm.trans hfield.type)
  refine .part (List.mem_append_right ts List.mem_cons_self) ?_
  exact .field (List.mem_of_getElem? hf) hn

/-- **Extensions.** The type of a schema that extends several members is the intersection of their
types, in order, and of the object with a field for each own property. It depends on all that its own
properties name, and there is no type if one of them has none. A schema that extends a single member
has the type of that member, and its own properties play no part. -/
theorem ofSchema_of_extension (h : s.Extends) :
    (s.allOf.length ≠ 1 →
      (∀ t, ofSchema d s = .ok t ↔ ∃ ts fs,
        List.Forall₂ (fun node t => ofNode d node = .ok t) s.allOf ts ∧
          List.Forall₂ (FieldOf d s.required) s.properties fs ∧
            t = .intersection (ts ++ [.object fs])) ∧
      ∀ property ∈ s.properties,
        (∀ e, ofNode d property.2 = .error e → ∃ e', ofSchema d s = .error e') ∧
        ∀ t u, ofSchema d s = .ok t → ofNode d property.2 = .ok u →
          ∀ n ∈ u.dependencies, n ∈ t.dependencies) ∧
    ∀ node, s.allOf = [node] → ofSchema d s = ofNode d node := by
  refine ⟨fun hlen => ⟨fun t => ofSchema_eq_ok_iff_of_several h hlen, fun property hproperty => ?_⟩,
    fun node => ofSchema_of_single h⟩
  constructor
  · intro e he
    cases ht : ofSchema d s with
    | error e' => exact ⟨e', rfl⟩
    | ok t =>
      obtain ⟨ts, fs, -, hfs, -⟩ := (ofSchema_eq_ok_iff_of_several h hlen).mp ht
      obtain ⟨i, hi⟩ := List.mem_iff_getElem?.mp hproperty
      obtain ⟨f, -, hfield⟩ := hfs.exists_getElem? hi
      cases he.symm.trans hfield.type
  · intro t u ht hu n hn
    obtain ⟨ts, fs, -, hfs, rfl⟩ := (ofSchema_eq_ok_iff_of_several h hlen).mp ht
    rw [dependencies_eq, List.mem_eraseDups, mem_refs_iff] at hn ⊢
    exact mentions_of_property hfs hproperty hu hn

/-- A pet with a tag, which extends the given schemas. -/
def taggedPet (members : List (Node Schema)) (tag : String) : Schema :=
  { Schema.empty with
    allOf := members
    properties := [("tag", .ref tag), ("since", .inline
      { Schema.empty with type := some (.single .string) })]
    required := ["tag"] }

theorem ofSchema_of_extension_of_taggedPet :
    let s := taggedPet [.ref "#/components/schemas/pet", .ref "#/components/schemas/problem"]
      "#/components/schemas/tag"
    let one := taggedPet [.ref "#/components/schemas/pet"] "#/components/schemas/tag"
    s.Extends ∧ s.allOf.length ≠ 1 ∧
      ofSchema Operation.store s = .ok (.intersection [.ref "Pet", .ref "Problem",
        .object [⟨"tag", .ref "Tag", true⟩, ⟨"since", .string, false⟩]]) ∧
      one.Extends ∧ ofSchema Operation.store one =
        ofNode Operation.store (.ref "#/components/schemas/pet") := by
  intro s one
  have hs : s.Extends := ⟨rfl, rfl, by decide, List.cons_ne_nil _ _, List.cons_ne_nil _ _⟩
  have hone : one.Extends := ⟨rfl, rfl, by decide, List.cons_ne_nil _ _, List.cons_ne_nil _ _⟩
  have hlen : s.allOf.length ≠ 1 := by decide
  refine ⟨hs, hlen, ?_, hone, (ofSchema_of_extension hone).2 _ rfl⟩
  refine (((ofSchema_of_extension hs).1 hlen).1 _).mpr ⟨[.ref "Pet", .ref "Problem"], _, ?_, ?_, rfl⟩
  · exact .cons rfl (.cons rfl .nil)
  · exact .cons ⟨rfl, rfl, by decide⟩ (.cons ⟨rfl, rfl, by decide⟩ .nil)

/-- The own properties of a schema with one member are not in its type: not as a part of it, not by
what they name, and not by a pointer that leads nowhere. -/
theorem own_properties_lost_of_taggedPet :
    let s := taggedPet [.ref "#/components/schemas/pet"] "#/components/schemas/tag"
    let broken := taggedPet [.ref "#/components/schemas/pet"] "#/components/schemas/label"
    s.Extends ∧ broken.Extends ∧
    ∃ t, ofSchema Operation.store s = .ok t ∧
      (¬∃ ts fs, List.Forall₂ (fun node t => ofNode Operation.store node = .ok t) s.allOf ts ∧
        List.Forall₂ (FieldOf Operation.store s.required) s.properties fs ∧
          t = .intersection (ts ++ [.object fs])) ∧
      t.dependencies = ["Pet"] ∧
      ofNode Operation.store (.ref "#/components/schemas/tag") = .ok (.ref "Tag") ∧
      ofNode Operation.store (.ref "#/components/schemas/label") =
        .error (.notFound "#/components/schemas/label") ∧
      ofSchema Operation.store broken = .ok t := by
  intro s broken
  have hs : s.Extends := ⟨rfl, rfl, by decide, List.cons_ne_nil _ _, List.cons_ne_nil _ _⟩
  have hbroken : broken.Extends := ⟨rfl, rfl, by decide, List.cons_ne_nil _ _, List.cons_ne_nil _ _⟩
  refine ⟨hs, hbroken, .ref "Pet", rfl, ?_, rfl, rfl, rfl, rfl⟩
  rintro ⟨ts, fs, -, -, ⟨⟩⟩

end DataType

end ApiOperations
