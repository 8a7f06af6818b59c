import Mathlib.Data.List.Basic
import ApiOperations.Proofs.Api.Policy

/-!
The tables of a model. Wherever a table of parameters comes from, a list that was resolved or an
operation of a model, it was reached by inserting and merging, and so it is coherent.
-/

namespace ApiOperations.Api

open ApiOperations.Description (Document PathItem)

lemma outcome_eq_ok_iff {d : Document} {o : Options} {path : String} {item : PathItem}
    {method : Method} {decl : Description.Operation} {op : Operation} :
    outcome d o path item method decl = .ok op ↔
      ∃ inherited, Parameters.resolve d o.ignored item.parameters = .ok inherited ∧
        Operation.build d o path method decl inherited = .ok op := by
  unfold outcome
  cases Parameters.resolve d o.ignored item.parameters <;> simp

/-- An operation of a model was built from a declared pair whose path hands down its parameters. -/
lemma exists_build_of_mem {d : Document} {o : Options} {api : Api} (h : ofDocument d o = .ok api)
    {op : Operation} (hop : op ∈ api.operations) :
    ∃ path item method decl inherited, (path, item) ∈ d.paths ∧
      item.operation? method = some decl ∧
      Parameters.resolve d o.ignored item.parameters = .ok inherited ∧
      Operation.build d o path method decl inherited = .ok op := by
  rw [operations_of_ofDocument h, mem_built, outcomes, List.mem_flatMap] at hop
  obtain ⟨⟨path, item⟩, hpath, hop⟩ := hop
  obtain ⟨method, -, hop⟩ := List.mem_filterMap.mp hop
  obtain ⟨decl, hdecl, hop⟩ := Option.map_eq_some_iff.mp hop
  obtain ⟨inherited, hi, hb⟩ := outcome_eq_ok_iff.mp hop
  exact ⟨path, item, method, decl, inherited, hpath, hdecl, hi, hb⟩

/-- **Coherence.** A table that is reached by inserting and merging is coherent, and so are the
table of every list that is resolved and the table of every operation of a model. -/
theorem coherent_tables :
    (∀ t : ParameterTable, t.Reachable → t.Coherent) ∧
    (∀ (d : Document) (ignored : List String) (nodes : List (Node Description.Parameter))
      (t : ParameterTable), Parameters.resolve d ignored nodes = .ok t → t.Coherent) ∧
    ∀ (d : Document) (o : Options) (api : Api), ofDocument d o = .ok api →
      ∀ op ∈ api.operations, op.parameters.Coherent := by
  refine ⟨fun t ht => ht.sound.coherent, fun d ignored nodes t ht => ?_, fun d o api h op hop => ?_⟩
  · exact (Parameters.reachable_of_resolve ht).sound.coherent
  · obtain ⟨path, item, method, decl, inherited, -, -, hi, hb⟩ := exists_build_of_mem h hop
    have hreach := Operation.reachable_parameters (Parameters.reachable_of_resolve hi) hb
    exact hreach.sound.coherent

/-- A parameter with nothing but a name and a location. -/
def sent (name : String) (l : Location) : Parameter :=
  ⟨Name.ofString name, name, l, .any, false, none, none, none⟩

/-- A body comes in the place of a query parameter, and then another body drives it out. -/
def bodies : ParameterTable :=
  ((ParameterTable.empty.insert (sent "page" .query)).insert (sent "page" .body)).merge
    (ParameterTable.ofList [sent "id" .path, sent "filter" .body])

theorem coherent_tables_of_bodies :
    let d : Document := { Operation.bare with paths := [("/pets", pets)] }
    let o : Options := { Settings.default.toOptions with onError := .skip }
    (bodies.entries.map (fun p => (p.key, p.location)) = [("id", .path), ("filter", .body)] ∧
      bodies.Coherent) ∧
    (∃ t, Parameters.resolve d [] Operation.search.parameters = .ok t ∧ t.Coherent) ∧
    ∃ api, ofDocument d o = .ok api ∧ api.operations.length = 1 ∧
      ∀ op ∈ api.operations, op.parameters.Coherent := by
  intro d o
  have hreach : bodies.Reachable :=
    ((ParameterTable.Reachable.empty.insert _).insert _).merge _
  refine ⟨⟨by decide +kernel, coherent_tables.1 _ hreach⟩, ⟨_, rfl, ?_⟩, _, rfl, rfl, ?_⟩
  · exact coherent_tables.2.1 d [] Operation.search.parameters _ rfl
  · exact coherent_tables.2.2 d o _ rfl

end ApiOperations.Api
