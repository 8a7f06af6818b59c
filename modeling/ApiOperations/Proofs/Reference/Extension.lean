import ApiOperations.Proofs.Except
import ApiOperations.Proofs.Reference.Chain
import ApiOperations.Proofs.Reference.Location

/-!
References in a document that defines more. What a trail passes is still there, so whatever resolved
before resolves to the same. Schemas are an exception: a document of version 3 without components keeps
them at its top, and once it has components, it looks for them there and nowhere else.
-/

namespace ApiOperations

/-- Every entry of the first table is found unchanged in the second. -/
def Table.Within {α : Type} (t u : Table α) : Prop :=
  ∀ name v, t.lookup name = some v → u.lookup name = some v

lemma Table.Within.isSome {α : Type} {t u : Table α} (h : t.Within u) {name : String}
    (hname : (t.lookup name).isSome) : (u.lookup name).isSome := by
  obtain ⟨v, hv⟩ := Option.isSome_iff_exists.mp hname
  exact Option.isSome_of_eq_some (h name v hv)

namespace Reference

variable {α : Type} {wanted : Section} {definitions more : Definitions α} {start node : Node α}

section More

variable (h : ∀ name node, definitions.bind (List.lookup name) = some node →
  more.bind (List.lookup name) = some node)
include h

lemma Names.larger {p : String} (hp : Names wanted definitions p node) :
    Names wanted more p node := by
  obtain ⟨name, hp, hl⟩ := hp
  exact ⟨name, hp, h name node hl⟩

lemma Trail.larger {ps : List String} (ht : Trail wanted definitions start ps node) :
    Trail wanted more start ps node := by
  induction ht with
  | start => exact .start
  | follow _ hn ih => exact ih.follow (hn.larger h)

lemma below_resolve (wanted : Section) (start : Node α) :
    Except.Below (resolve wanted definitions start) (resolve wanted more start) := by
  intro x hx
  obtain ⟨ps, ht⟩ := ((settles_resolve ..).inline x).mp hx
  exact ((settles_resolve ..).inline x).mpr ⟨ps, ht.larger h⟩

end More

end Reference

namespace Description.Document

/-- Every reusable definition of the first document stands unchanged in the second, in the same
layout. -/
structure Within (d e : Document) : Prop where
  schemas : ∀ l, (d.schemasAt l).Within (e.schemasAt l)
  parameters : ∀ l, (d.parametersAt l).Within (e.parametersAt l)
  responses : ∀ l, (d.responsesAt l).Within (e.responsesAt l)
  requestBodies : ∀ l, (d.requestBodiesAt l).Within (e.requestBodiesAt l)

/-- If the second document has components and the first one, of version 3, has none, the names of
the schemas at the top of the first are among the components of the second. -/
def CarriesSchemas (d e : Document) : Prop :=
  d.isSwagger = false → d.components = none → e.components ≠ none →
    ∀ name, ((d.schemasAt .topLevel).lookup name).isSome →
      ((e.schemasAt .components).lookup name).isSome

/-- Whatever is found in the first document is found in the second. -/
structure Found (d e : Document) : Prop where
  schemaName : ∀ p, Except.Below (d.schemaName p) (e.schemaName p)
  parameter : ∀ node, Except.Below (d.parameter node) (e.parameter node)
  response : ∀ node, Except.Below (d.response node) (e.response node)
  requestBody : ∀ node, Except.Below (d.requestBody node) (e.requestBody node)

variable {d e : Document} (hkind : d.isSwagger = e.isSwagger) (h : d.Within e)
include hkind h

lemma isSome_lookup_schemaTable (hcarries : CarriesSchemas d e) {name : String}
    (hname : (d.schemaTable.lookup name).isSome) : (e.schemaTable.lookup name).isSome := by
  rw [schemaTable_eq] at hname ⊢
  cases hs : d.isSwagger with
  | true =>
    have hs' : e.isSwagger = true := hkind.symm.trans hs
    simp only [home, hs, hs', Bool.true_or, if_true] at hname ⊢
    exact (h.schemas .topLevel).isSome hname
  | false =>
    have hs' : e.isSwagger = false := hkind.symm.trans hs
    cases hd : d.components with
    | none =>
      cases he : e.components with
      | none =>
        simp only [home, hs, hs', hd, he] at hname ⊢
        exact (h.schemas .topLevel).isSome hname
      | some c =>
        simp only [home, hs, hs', hd, he] at hname ⊢
        exact hcarries hs hd (by simp [he]) name hname
    | some c =>
      simp only [home, hs, hd] at hname
      have hname := (h.schemas .components).isSome hname
      cases he : e.components with
      | none => simp [schemasAt, he] at hname
      | some c' =>
        simp only [home, hs', he]
        exact hname

lemma found_of_within (hcarries : CarriesSchemas d e) : d.Found e where
  schemaName p name hp := by
    obtain ⟨hparse, hname⟩ := d.schemaName_eq_ok_iff.mp hp
    exact e.schemaName_eq_ok_iff.mpr ⟨hparse, isSome_lookup_schemaTable hkind h hcarries hname⟩
  parameter := by
    refine Reference.below_resolve (fun name node hl => ?_) .parameters
    rw [lookup_parameterTable] at hl ⊢
    rw [home, ← hkind]
    exact h.parameters _ name node hl
  response := by
    refine Reference.below_resolve (fun name node hl => ?_) .responses
    rw [lookup_responseTable] at hl ⊢
    rw [home, ← hkind]
    exact h.responses _ name node hl
  requestBody := by
    refine Reference.below_resolve (fun name node hl => ?_) .requestBodies
    rw [lookup_requestBodyTable] at hl ⊢
    exact h.requestBodies _ name node hl

end Description.Document

end ApiOperations
