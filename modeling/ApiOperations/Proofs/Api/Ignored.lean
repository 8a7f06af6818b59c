import ApiOperations.Proofs.Api.Tables
import ApiOperations.Proofs.Description.RoundTrip
import ApiOperations.Proofs.Operation.Dependencies

/-!
Ignored names in a model. A declared parameter with an ignored name is left out, whether the path or
the operation declares it, and also if a reference leads to it. The name of a request body is not
compared with the ignored names, so an operation has a parameter with an ignored name exactly if its
body goes by that name.
-/

namespace ApiOperations

open ApiOperations.Description (Document PathItem)

namespace Parameters

variable {d : Document} {body : Option Parameter}

/-- A body that can be built has the name of the content that counts. -/
lemma map_originalName_of_ofBody {node : Node Description.RequestBody}
    (h : ofBody d node = .ok body) :
    ∃ b, d.requestBody node = .ok b ∧
      body.map (·.originalName) =
        (preferred? b.content).map fun c => bodyName b.bodyName c.1 := by
  unfold ofBody at h
  split at h
  · cases h
  · rename_i b hb
    refine ⟨b, hb, ?_⟩
    split at h
    · rename_i hcontent
      cases h
      rw [hcontent]
      rfl
    · rename_i mediaType media hcontent
      rw [hcontent]
      dsimp only at h
      split at h
      · cases h
      · cases h
        rfl

end Parameters

namespace Operation

/-- The name that the request body of an operation goes by, if there is one with content. -/
def bodyName? (d : Document) (op : Description.Operation) : Option String :=
  match op.requestBody.map d.requestBody with
  | some (.ok b) =>
    (Parameters.preferred? b.content).map fun c => Parameters.bodyName b.bodyName c.1
  | _ => none

variable {d : Document} {o : Options} {isError : Status → Bool} {path : String} {method : Method}
  {op : Description.Operation} {inherited : ParameterTable} {built : Operation}

lemma map_originalName_of_bodyOf {body : Option Parameter} (h : bodyOf d op = .ok body) :
    body.map (·.originalName) = bodyName? d op := by
  unfold bodyOf at h
  split at h
  · rename_i hnone
    cases h
    rw [bodyName?, hnone]
    rfl
  · rename_i node hsome
    obtain ⟨b, hb, hname⟩ := Parameters.map_originalName_of_ofBody h
    rw [hname, bodyName?, hsome, Option.map_some, hb]

/-- An ignored parameter of an operation is its body. -/
lemma bodyOf_of_mem_ignored {nodes : List (Node Description.Parameter)}
    (hi : Parameters.resolve d o.ignored nodes = .ok inherited)
    (hb : buildWith d o isError path method op inherited = .ok built) {p : Parameter}
    (hp : p ∈ built.parameters.entries) (hignored : p.originalName ∈ o.ignored) :
    bodyOf d op = .ok (some p) := by
  refine ((origin_of_mem hi hb p hp).kept hignored).resolve_left fun hinherited => ?_
  exact (Parameters.declared_of_mem_entries hi hinherited).kept hignored

lemma exists_ignored_iff {nodes : List (Node Description.Parameter)}
    (hi : Parameters.resolve d o.ignored nodes = .ok inherited)
    (hb : buildWith d o isError path method op inherited = .ok built) {name : String}
    (hname : name ∈ o.ignored) :
    (∃ p ∈ built.parameters.entries, p.originalName = name) ↔ bodyName? d op = some name := by
  constructor
  · rintro ⟨p, hp, rfl⟩
    exact (map_originalName_of_bodyOf (bodyOf_of_mem_ignored hi hb hp hname)).symm
  · intro hbody
    obtain ⟨r, hr, rfl⟩ := buildWith_eq_ok_iff.mp hb
    obtain ⟨hown, hbodyOf, -⟩ := resolve_eq_ok_iff.mp hr
    have hentries : (allParameters inherited r).entries = _ :=
      entries_allParameters (Parameters.reachable_of_resolve hi).sound
        (Parameters.reachable_of_resolve hown).sound (isBody_of_bodyOf hbodyOf)
    rw [← map_originalName_of_bodyOf hbodyOf] at hbody
    obtain ⟨p, hp, hpname⟩ := Option.map_eq_some_iff.mp hbody
    refine ⟨p, ?_, hpname⟩
    show p ∈ (allParameters inherited r).entries
    rw [hentries, hp]
    exact List.mem_append_right _ List.mem_cons_self

end Operation

namespace Api

variable {d : Document} {o : Options} {api : Api}

/-- **Ignored parameters.** Every operation of a model comes from a declaration, and for an ignored
name it has a parameter exactly if that is the name of the declared request body. The parameter is
then the body. -/
theorem ignored_iff_bodyName (h : ofDocument d o = .ok api) {op : Operation}
    (hop : op ∈ api.operations) :
    ∃ path item method decl, (path, item) ∈ d.paths ∧ item.operation? method = some decl ∧
      outcome d o path item method decl = .ok op ∧
      (∀ p ∈ op.parameters.entries, p.originalName ∈ o.ignored → p.isBody) ∧
      ∀ name ∈ o.ignored, (∃ p ∈ op.parameters.entries, p.originalName = name) ↔
        Operation.bodyName? d decl = some name := by
  obtain ⟨path, item, method, decl, inherited, hpath, hdecl, hi, hb⟩ := exists_build_of_mem h hop
  refine ⟨path, item, method, decl, hpath, hdecl, outcome_eq_ok_iff.mpr ⟨inherited, hi, hb⟩,
    fun p hp hignored => ?_, fun name hname => ?_⟩
  · exact Operation.isBody_of_bodyOf (Operation.bodyOf_of_mem_ignored hi hb hp hignored) p rfl
  · exact Operation.exists_ignored_iff hi hb hname

/-- An operation that declares an ignored name for a header and for its body, under a path that
declares it for a query parameter. -/
def versioned : Document :=
  { Operation.bare with
    paths := [("/pets", { pets with
      parameters := [Operation.plain "api-version" .query]
      get := none
      post := some { Operation.search with
        parameters := [Operation.plain "api-version" .header, Operation.plain "id" .query]
        requestBody := some (.inline
          ⟨none, [("application/json", ⟨none⟩)], true, some "api-version"⟩) } })] }

theorem ignored_iff_bodyName_of_versioned :
    let o := Settings.default.toOptions
    ∃ api op, ofDocument versioned o = .ok api ∧ op ∈ api.operations ∧
      op.parameters.entries.map (·.originalName) = ["id", "api-version"] ∧
      ∃ path item method decl, (path, item) ∈ versioned.paths ∧
        item.operation? method = some decl ∧ outcome versioned o path item method decl = .ok op ∧
        (∀ p ∈ op.parameters.entries, p.originalName ∈ o.ignored → p.isBody) ∧
        ∀ name ∈ o.ignored, (∃ p ∈ op.parameters.entries, p.originalName = name) ↔
          Operation.bodyName? versioned decl = some name := by
  intro o
  have hrun : ofDocument versioned o = .ok _ := rfl
  exact ⟨_, _, hrun, List.mem_cons_self, by decide +kernel,
    ignored_iff_bodyName hrun List.mem_cons_self⟩

/-- The model has the ignored name once, as that of the body. -/
theorem ignored_name_of_versioned :
    let o := Settings.default.toOptions
    Document.ofText .json versioned.toJson.toCompact = .ok versioned ∧
      ∃ api op p, ofDocument versioned o = .ok api ∧ op ∈ api.operations ∧
        p ∈ op.parameters.entries ∧ p.originalName ∈ o.ignored := by
  intro o
  have hread : Document.ofText .json versioned.toJson.toCompact = .ok versioned :=
    Document.ofText_json_eq_ok_iff.mpr ⟨⟨_, Json.read_toCompact (by decide), rfl⟩, rfl⟩
  have hrun : ofDocument versioned o = .ok _ := rfl
  refine ⟨hread, _, _, _, hrun, List.mem_cons_self, List.mem_cons_of_mem _ List.mem_cons_self, ?_⟩
  decide +kernel

end Api

end ApiOperations
