import Mathlib.Data.List.Basic
import ApiOperations.Proofs.DataType.Upgrade
import ApiOperations.Proofs.Operation.Parts

/-!
Operations of a Swagger 2.0 document and of the same document in the layout of OpenAPI 3.

Parameters and bodies come out the same from either layout. So do outcomes, but for the media type:
a schema of the response itself has none, and its place in the content gives it one. Nothing that is
made of outcomes looks at media types, so the operations differ in nothing else.
-/

namespace ApiOperations

open ApiOperations.Description (Document)

variable {d : Document} (version : String)

/-! ### Parameters and bodies -/

namespace Parameters

@[simp] lemma schemaDefault?_upgradeNode (s : Node Description.Schema) :
    schemaDefault? (Description.Schema.upgradeNode s) = schemaDefault? s := by
  rcases s with p | s
  · rfl
  · simp only [Description.Schema.upgradeNode, schemaDefault?, Description.Schema.upgrade_eq]

lemma preferred?_mapValues {α β : Type} (f : α → β) (content : Table α) :
    preferred? (content.mapValues f) = (preferred? content).map fun e => (e.1, f e.2) := by
  simp only [preferred?, Table.mapValues, List.find?_map, List.head?_map, Function.comp_def,
    Option.map_or]

/-- The declared default comes first, so that a schema which repeats it changes nothing. -/
lemma default_upgrade (p : Description.Parameter) :
    p.upgrade.default.or (p.upgrade.schema.bind schemaDefault?) =
      p.default.or (p.schema.bind schemaDefault?) := by
  unfold Description.Parameter.upgrade
  cases p.schema with
  | some s => simp
  | none =>
    cases p.type with
    | none => simp
    | some k =>
      by_cases hp : p.place = some .body
      · simp [hp]
      · simp [hp, schemaDefault?, Description.Parameter.ownSchema]

variable (hc : d.components = none)
include hc

lemma agree_typeOf (p : Description.Parameter) {place : Description.Place}
    (hp : p.place = some place) :
    Except.Agree Eq (typeOf d p (locationOf place))
      (typeOf (d.upgrade version) p.upgrade (locationOf place)) := by
  unfold typeOf Description.Parameter.upgrade
  cases p.schema with
  | some s => exact DataType.agree_ofNode version hc s
  | none =>
    cases p.type with
    | none => exact .refl _
    | some k =>
      -- a body without a schema is malformed, whatever type it carries
      by_cases hb : place = .body
      · subst hb
        simp only [hp, locationOf, if_true]
        exact .error _ _
      · have hl : locationOf place ≠ .body := by cases place <;> simp_all [locationOf]
        simp only [hp, Option.some.injEq, hb, if_false, hl]
        exact DataType.agree_ofSchema version hc (inlineSchema p)

lemma agree_ofDeclaration (name : String) (p : Description.Parameter) :
    Except.Agree Eq (ofDeclaration d name p)
      (ofDeclaration (d.upgrade version) name p.upgrade) := by
  have hplace : p.upgrade.place = p.place := rfl
  unfold ofDeclaration
  rw [hplace, default_upgrade]
  split
  · exact .error _ _
  · rename_i place hp
    refine (agree_typeOf version hc p hp).bind fun t _ ht => ?_
    rw [← ht]
    exact .ok rfl

lemma agree_ofNode (hs : d.isSwagger) (ignored : List String)
    (node : Node Description.Parameter) :
    Except.Agree Eq (ofNode d ignored node)
      (ofNode (d.upgrade version) ignored (Description.upgradeParameter node)) := by
  refine (d.agree_parameter version hs node).bind ?_
  rintro p _ rfl
  have hname : p.upgrade.name = p.name := rfl
  rw [hname]
  split
  · exact .error _ _
  · split
    · exact .ok rfl
    · exact (agree_ofDeclaration version hc _ p).bind fun q _ hq => .ok (by rw [hq])

lemma agree_declared (hs : d.isSwagger) (ignored : List String) (index : Nat)
    (nodes : List (Node Description.Parameter)) :
    Except.Agree Eq (declared d ignored index nodes)
      (declared (d.upgrade version) ignored index (nodes.map Description.upgradeParameter)) := by
  induction nodes generalizing index with
  | nil => exact .ok rfl
  | cons node nodes ih =>
    rw [List.map_cons, declared, declared]
    rcases (agree_ofNode version hc hs ignored node).ok_or_error with
      ⟨p, _, hp, hp', rfl⟩ | ⟨f, f', hf, hf'⟩
    · rw [hp, hp']
      exact (ih (index + 1)).bind fun ps _ hps => .ok (by rw [hps])
    · rw [hf, hf']
      exact .error _ _

lemma agree_resolve (hs : d.isSwagger) (ignored : List String)
    (nodes : List (Node Description.Parameter)) :
    Except.Agree Eq (resolve d ignored nodes)
      (resolve (d.upgrade version) ignored (nodes.map Description.upgradeParameter)) :=
  (agree_declared version hc hs ignored 0 nodes).map fun _ _ => congrArg _

lemma agree_ofBody (node : Node Description.RequestBody) :
    Except.Agree Eq (ofBody d node)
      (ofBody (d.upgrade version) (Description.upgradeRequestBody node)) := by
  unfold ofBody
  rcases (d.agree_requestBody version hc node).ok_or_error with
    ⟨b, _, hb, hb', rfl⟩ | ⟨f, f', hf, hf'⟩
  · simp only [hb, hb', Description.RequestBody.upgrade, preferred?_mapValues]
    rcases preferred? b.content with _ | ⟨mediaType, ⟨_ | s⟩⟩
    · exact .ok rfl
    · exact .ok rfl
    · rcases (DataType.agree_ofNode version hc s).ok_or_error with
        ⟨t, _, ht, ht', rfl⟩ | ⟨f, f', hf, hf'⟩
      · simp only [Option.map_some, Description.MediaType.upgrade, ht, ht', Option.bind_some,
          schemaDefault?_upgradeNode]
        exact .ok rfl
      · simp only [Option.map_some, Description.MediaType.upgrade, hf, hf']
        exact .error _ _
  · rw [hf, hf']
    exact .error _ _

end Parameters

/-! ### Responses -/

/-- The outcome without its media type. -/
def Outcome.withoutMediaType (o : Outcome) : Outcome :=
  { o with mediaType := none }

namespace Responses

section Outcomes

variable (hc : d.components = none)
include hc

/-- The schema of a response has the same type wherever it stands. -/
lemma agree_contentType (r : Description.Response) :
    Except.Agree (fun t u => t.1 = u.1) (contentType d r)
      (contentType (d.upgrade version) r.upgrade) := by
  unfold contentType Description.Response.upgrade
  cases r.schema with
  | some s => exact (DataType.agree_ofNode version hc s).map fun _ _ => id
  | none =>
    simp only [Parameters.preferred?_mapValues]
    rcases Parameters.preferred? r.content with _ | ⟨mediaType, ⟨_ | s⟩⟩
    · exact .ok rfl
    · exact .ok rfl
    · exact (DataType.agree_ofNode version hc s).map fun _ _ => id

lemma agree_ofEntry (hs : d.isSwagger) (key : String) (node : Node Description.Response) :
    Except.Agree (fun o p => o.withoutMediaType = p.withoutMediaType) (ofEntry d key node)
      (ofEntry (d.upgrade version) key (Description.upgradeResponse node)) := by
  unfold ofEntry
  split
  · refine (Except.Agree.refl _).bind ?_
    rintro status _ rfl
    refine (d.agree_response version hs node).bind ?_
    rintro r _ rfl
    refine (agree_contentType version hc r).bind ?_
    rintro ⟨t, m⟩ ⟨_, m'⟩ rfl
    exact .ok rfl
  · exact .error _ _

lemma agree_outcomes (hs : d.isSwagger) (t : Table (Node Description.Response)) :
    Except.Agree (fun os ps => os.map Outcome.withoutMediaType = ps.map Outcome.withoutMediaType)
      (outcomes d t)
      (outcomes (d.upgrade version) (t.mapValues Description.upgradeResponse)) := by
  induction t with
  | nil => exact .ok rfl
  | cons entry rest ih =>
    obtain ⟨key, node⟩ := entry
    rw [Table.mapValues, List.map_cons, outcomes, outcomes]
    rcases (agree_ofEntry version hc hs key node).ok_or_error with
      ⟨o, p, ho, hp, hop⟩ | ⟨f, f', hf, hf'⟩
    · rw [ho, hp]
      exact ih.bind fun os ps hos => .ok (by rw [List.map_cons, List.map_cons, hop, hos])
    · rw [hf, hf']
      exact .error _ _

end Outcomes

/-- Splitting and sorting look at the status only. -/
lemma split_withoutMediaType (isError : Status → Bool) (os : List Outcome) :
    split isError (os.map Outcome.withoutMediaType) =
      ⟨(split isError os).results.map Outcome.withoutMediaType, (split isError os).errors⟩ := by
  simp only [split, List.filter_map, List.map_map]
  rw [List.map_mergeSort]
  · rfl
  · exact fun _ _ _ _ => rfl

end Responses

/-! ### Operations -/

namespace Operation

/-- The operation with results without their media types. -/
def withoutMediaTypes (op : Operation) : Operation :=
  { op with results := op.results.map Outcome.withoutMediaType }

def Resolved.withoutMediaTypes (r : Resolved) : Resolved :=
  { r with outcomes := r.outcomes.map Outcome.withoutMediaType }

/-- No other part of an operation looks at the media types of its results. -/
lemma assemble_withoutMediaTypes (o : Options) (isError : Status → Bool) (path : String)
    (method : Method) (op : Description.Operation) (inherited : ParameterTable) (r : Resolved) :
    assemble o isError path method op inherited r.withoutMediaTypes =
      (assemble o isError path method op inherited r).withoutMediaTypes := by
  simp only [assemble, withoutMediaTypes, Resolved.withoutMediaTypes,
    Responses.split_withoutMediaType, selectHeader, List.filterMap_map, List.flatMap_map]
  rfl

variable (hs : d.isSwagger) (hc : d.components = none)
include hs hc

lemma agree_resolve (ignored : List String) (op : Description.Operation) :
    Except.Agree (fun r s => r.withoutMediaTypes = s.withoutMediaTypes) (resolve d ignored op)
      (resolve (d.upgrade version) ignored op.upgrade) := by
  refine (Parameters.agree_resolve version hc hs ignored op.parameters).bind ?_
  rintro own _ rfl
  have hbody : Except.Agree Eq (bodyOf d op) (bodyOf (d.upgrade version) op.upgrade) := by
    unfold bodyOf Description.Operation.upgrade
    cases op.requestBody with
    | none => exact .ok rfl
    | some node => exact Parameters.agree_ofBody version hc node
  refine hbody.bind ?_
  rintro body _ rfl
  refine (Responses.agree_outcomes version hc hs op.responses).bind fun os ps hos => ?_
  exact .ok (by simp only [Resolved.withoutMediaTypes, hos])

end Operation

end ApiOperations
