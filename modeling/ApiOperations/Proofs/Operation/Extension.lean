import ApiOperations.Proofs.DataType.Related
import ApiOperations.Proofs.Description.RoundTrip
import ApiOperations.Proofs.Operation.Dependencies
import ApiOperations.Proofs.Reference.Extension
import ApiOperations.Proofs.Response.Partition

/-!
Operations against a document that defines more. An operation looks at a document only to find what
its pointers name. So when all that it found is found again, the operation is built again, and comes
out the same.
-/

namespace ApiOperations

open ApiOperations.Description (Document)
open Except (congruence_below)

variable {d e : Document} (h : d.Found e)
include h

/-! ### Types -/

namespace DataType

lemma relatedPointers_of_found : RelatedPointers (fun _ => Except.Below) d e where
  congruence := congruence_below
  pointer p := congruence_below.map (h.schemaName p) _

lemma below_ofNode (node : Node Description.Schema) :
    Except.Below (ofNode d node) (ofNode e node) :=
  related_ofNode (relatedPointers_of_found h) node

end DataType

/-! ### Parameters and bodies -/

namespace Parameters

lemma below_typeOf (p : Description.Parameter) (l : Location) :
    Except.Below (typeOf d p l) (typeOf e p l) := by
  unfold typeOf
  split
  · exact DataType.below_ofNode h _
  · split
    · exact congruence_below.refl _
    · exact DataType.related_ofSchema (DataType.relatedPointers_of_found h) _
  · exact congruence_below.refl _

lemma below_ofNode (ignored : List String) (node : Node Description.Parameter) :
    Except.Below (ofNode d ignored node) (ofNode e ignored node) := by
  have hdeclaration : ∀ name p, Except.Below (ofDeclaration d name p) (ofDeclaration e name p) := by
    intro name p
    unfold ofDeclaration
    split
    · exact congruence_below.refl _
    · exact congruence_below.bind (below_typeOf h p _) fun _ => congruence_below.refl _
  refine congruence_below.bind (h.parameter node) fun p => ?_
  split
  · exact congruence_below.refl _
  · split
    · exact congruence_below.refl _
    · exact congruence_below.bind (hdeclaration _ _) fun _ => congruence_below.refl _

lemma below_declared (ignored : List String) (i : Nat) (nodes : List (Node Description.Parameter)) :
    Except.Below (declared d ignored i nodes) (declared e ignored i nodes) := by
  induction nodes generalizing i with
  | nil => exact congruence_below.refl _
  | cons node nodes ih =>
    intro ps hps
    unfold declared at hps ⊢
    split at hps
    · cases hps
    · rename_i p hp
      rw [below_ofNode h ignored node p hp]
      exact congruence_below.bind (ih (i + 1)) (fun _ => congruence_below.refl _) ps hps

lemma below_resolve (ignored : List String) (nodes : List (Node Description.Parameter)) :
    Except.Below (resolve d ignored nodes) (resolve e ignored nodes) :=
  congruence_below.map (below_declared h ignored 0 nodes) _

lemma below_ofBody (node : Node Description.RequestBody) :
    Except.Below (ofBody d node) (ofBody e node) := by
  intro body hbody
  unfold ofBody at hbody ⊢
  split at hbody
  · cases hbody
  · rename_i b hb
    rw [h.requestBody node b hb]
    dsimp only at hbody ⊢
    split at hbody
    · exact hbody
    · rename_i mediaType media hcontent
      cases hschema : media.schema with
      | none =>
        rw [hschema] at hbody
        exact hbody
      | some s =>
        simp only [hschema] at hbody ⊢
        split at hbody
        · cases hbody
        · rename_i t ht
          rw [DataType.below_ofNode h s t ht]
          exact hbody

end Parameters

/-! ### Responses -/

namespace Responses

lemma below_contentType (r : Description.Response) :
    Except.Below (contentType d r) (contentType e r) := by
  unfold contentType
  split
  · exact congruence_below.map (DataType.below_ofNode h _) _
  split
  · exact congruence_below.refl _
  split
  · exact congruence_below.map (DataType.below_ofNode h _) _
  · exact congruence_below.refl _

lemma describes_of_found {entry : String × Node Description.Response} {o : Outcome}
    (ho : Describes d entry o) : Describes e entry o := by
  obtain ⟨r, hr, htype, hrest⟩ := ho.response
  exact ⟨ho.status, ⟨r, h.response _ r hr, below_contentType h r _ htype, hrest⟩, ho.dependencies⟩

lemma below_outcomes (t : Table (Node Description.Response)) :
    Except.Below (outcomes d t) (outcomes e t) := by
  intro os hos
  exact outcomes_eq_ok_iff.mpr ((outcomes_eq_ok_iff.mp hos).imp fun _ _ => describes_of_found h)

end Responses

/-! ### Operations -/

namespace Operation

lemma below_bodyOf (op : Description.Operation) : Except.Below (bodyOf d op) (bodyOf e op) := by
  unfold bodyOf
  split
  · exact congruence_below.refl _
  · exact Parameters.below_ofBody h _

lemma below_buildWith (o : Options) (isError : Status → Bool) (path : String) (method : Method)
    (op : Description.Operation) (inherited : ParameterTable) :
    Except.Below (buildWith d o isError path method op inherited)
      (buildWith e o isError path method op inherited) := by
  intro built hb
  obtain ⟨r, hr, rfl⟩ := buildWith_eq_ok_iff.mp hb
  obtain ⟨hown, hbody, hos⟩ := resolve_eq_ok_iff.mp hr
  have hr' : resolve e o.ignored op = .ok r :=
    resolve_eq_ok_iff.mpr ⟨Parameters.below_resolve h o.ignored _ _ hown, below_bodyOf h op _ hbody,
      Responses.below_outcomes h _ _ hos⟩
  exact buildWith_eq_ok_iff.mpr ⟨r, hr', rfl⟩

omit h in
/-- **Extension.** An operation that is built against a document is built the same against any
document of its kind that defines as much, if the schemas of the first do not stay behind at its top. -/
theorem buildWith_of_within (hkind : d.isSwagger = e.isSwagger) (hwithin : d.Within e)
    (hcarries : d.CarriesSchemas e) {o : Options} {isError : Status → Bool} {path : String}
    {method : Method} {op : Description.Operation} {inherited : ParameterTable} {built : Operation}
    (hb : buildWith d o isError path method op inherited = .ok built) :
    buildWith e o isError path method op inherited = .ok built :=
  below_buildWith (Document.found_of_within hkind hwithin hcarries) o isError path method op
    inherited built hb

omit h

/-- A document of version 3 with one schema at its top, and with or without components. -/
def shelf (components : Option Description.Components) : Document :=
  { bare with
    components
    definitions := [("Pet", .inline Description.Schema.empty)] }

/-- An operation whose result is of that schema. -/
def take : Description.Operation :=
  ⟨none, none, none, [], [], none, [("200", answered (.ref "#/definitions/Pet"))], none⟩

lemma shelf_within (components : Option Description.Components) :
    (shelf none).Within (shelf components) where
  schemas l := by
    cases l with
    | components => rintro _ _ ⟨⟩
    | topLevel => exact fun _ _ hl => hl
  parameters l := by cases l <;> rintro _ _ ⟨⟩
  responses l := by cases l <;> rintro _ _ ⟨⟩
  requestBodies l := by cases l <;> rintro _ _ ⟨⟩

theorem buildWith_of_within_shelf :
    let d := shelf none
    let e := shelf (some ⟨[("Tag", .inline Description.Schema.empty),
      ("Pet", .ref "#/components/schemas/Tag")], [], [], []⟩)
    let o := Settings.default.toOptions
    d.isSwagger = e.isSwagger ∧ d.Within e ∧ d.CarriesSchemas e ∧
      ∃ built, buildWith d o o.threshold.isError "/pets" .get take .empty = .ok built ∧
        buildWith e o o.threshold.isError "/pets" .get take .empty = .ok built := by
  intro d e o
  have hkind : d.isSwagger = e.isSwagger := rfl
  have hwithin : d.Within e := shelf_within _
  have hcarries : d.CarriesSchemas e := by
    intro _ _ _ name hname
    obtain ⟨entry, hentry, heq⟩ := List.lookup_isSome_iff.mp hname
    rw [List.mem_singleton.mp hentry, beq_iff_eq] at heq
    rw [heq]
    rfl
  have hb : buildWith d o o.threshold.isError "/pets" .get take .empty = .ok _ := rfl
  exact ⟨hkind, hwithin, hcarries, _, hb, buildWith_of_within hkind hwithin hcarries hb⟩

/-- A document may define more, and an operation be lost: with components that have no schemas, the
schema at the top is not looked at any more. -/
theorem buildWith_fails_on_shelf :
    let d := shelf none
    let e := shelf (some ⟨[], [], [], []⟩)
    let o := Settings.default.toOptions
    Document.ofText .json d.toJson.toCompact = .ok d ∧
      Document.ofText .json e.toJson.toCompact = .ok e ∧ d.isSwagger = e.isSwagger ∧ d.Within e ∧
      (∃ built, buildWith d o o.threshold.isError "/pets" .get take .empty = .ok built) ∧
      buildWith e o o.threshold.isError "/pets" .get take .empty =
        .error ⟨.get, "/pets", .response "200" (.notFound "#/definitions/Pet")⟩ := by
  intro d e o
  refine ⟨?_, ?_, rfl, shelf_within _, ⟨_, rfl⟩, rfl⟩
  · exact Document.ofText_json_eq_ok_iff.mpr ⟨⟨_, Json.read_toCompact (by decide), rfl⟩, rfl⟩
  · exact Document.ofText_json_eq_ok_iff.mpr ⟨⟨_, Json.read_toCompact (by decide), rfl⟩, rfl⟩

end Operation

end ApiOperations
