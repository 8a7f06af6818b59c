import Mathlib.Data.List.Basic
import ApiOperations.Model.Api
import ApiOperations.Proofs.Except
import ApiOperations.Proofs.Parameter.Table

/-!
The parts of an operation that can be built.

A build succeeds when its parameters, its body and its responses do, and then the model is assembled
from them. The tables of parameters are reachable by insertions alone, and what a request body
becomes is a body.
-/

namespace ApiOperations

open ApiOperations.Description (Document)

namespace Parameters

variable {d : Document} {ignored : List String}

lemma resolve_eq_ok_iff {nodes : List (Node Description.Parameter)} {t : ParameterTable} :
    resolve d ignored nodes = .ok t ↔
      ∃ ps, declared d ignored 0 nodes = .ok ps ∧ ParameterTable.ofList ps = t :=
  Except.map_eq_ok_iff

lemma reachable_of_resolve {nodes : List (Node Description.Parameter)} {t : ParameterTable}
    (h : resolve d ignored nodes = .ok t) : t.Reachable := by
  obtain ⟨ps, -, rfl⟩ := resolve_eq_ok_iff.mp h
  exact ParameterTable.reachable_ofList ps

lemma isBody_of_ofBody {node : Node Description.RequestBody} {p : Parameter}
    (h : ofBody d node = .ok (some p)) : p.isBody := by
  unfold ofBody at h
  split at h
  · cases h
  · split at h
    · cases h
    · dsimp only at h
      split at h
      · cases h
      · cases h
        rfl

end Parameters

namespace Operation

variable {d : Document} {ignored : List String} {op : Description.Operation}

lemma resolve_eq_ok_iff {r : Resolved} :
    resolve d ignored op = .ok r ↔
      Parameters.resolve d ignored op.parameters = .ok r.own ∧ bodyOf d op = .ok r.body ∧
        Responses.outcomes d op.responses = .ok r.outcomes := by
  obtain ⟨own, body, outcomes⟩ := r
  simp only [resolve, Except.bind_eq_ok_iff, pure, Except.pure, Except.ok.injEq, Resolved.mk.injEq]
  constructor
  · rintro ⟨_, ho, _, hb, _, hr, rfl, rfl, rfl⟩
    exact ⟨ho, hb, hr⟩
  · rintro ⟨ho, hb, hr⟩
    exact ⟨_, ho, _, hb, _, hr, rfl, rfl, rfl⟩

lemma isBody_of_bodyOf {body : Option Parameter} (h : bodyOf d op = .ok body) :
    ∀ b ∈ body, b.isBody := by
  rintro b rfl
  unfold bodyOf at h
  split at h
  · cases h
  · exact Parameters.isBody_of_ofBody h

lemma buildWith_eq_ok_iff {o : Options} {isError : Status → Bool} {path : String} {method : Method}
    {inherited : ParameterTable} {built : Operation} :
    buildWith d o isError path method op inherited = .ok built ↔
      ∃ r, resolve d o.ignored op = .ok r ∧
        assemble o isError path method op inherited r = built := by
  unfold buildWith
  cases resolve d o.ignored op <;> simp

/-- The parameters of an operation come from merging and inserting. -/
lemma reachable_allParameters {inherited : ParameterTable} (hi : inherited.Reachable)
    (r : Resolved) : (allParameters inherited r).Reachable := by
  unfold allParameters
  split
  · exact hi.merge r.own
  · exact (hi.merge r.own).insert _

lemma reachable_parameters {o : Options} {isError : Status → Bool} {path : String} {method : Method}
    {inherited : ParameterTable} {built : Operation} (hi : inherited.Reachable)
    (h : buildWith d o isError path method op inherited = .ok built) :
    built.parameters.Reachable := by
  obtain ⟨r, -, rfl⟩ := buildWith_eq_ok_iff.mp h
  exact reachable_allParameters hi r

end Operation

end ApiOperations
