import Mathlib.Data.List.Basic
import ApiOperations.Proofs.Operation.Dependencies
import ApiOperations.Proofs.Parameter.Declarations

/-!
The names of parameters. Whatever way a parameter comes into the table of an operation, declared in a
list or as a request body, the name that it is kept under is the spelling of its original name.
-/

namespace ApiOperations

open ApiOperations.Description (Document)

/-- The parameter goes by the spelling of its original name. -/
def Parameter.Spelled (p : Parameter) : Prop :=
  p.name = Name.ofString p.originalName

lemma Parameter.Spelled.key_eq {p : Parameter} (h : p.Spelled) :
    p.key = (Name.ofString p.originalName).camel :=
  congrArg Name.camel h

namespace Parameters

variable {d : Document} {ignored : List String} {p : Parameter}

lemma spelled_of_ofDeclaration {name : String} {decl : Description.Parameter}
    (h : ofDeclaration d name decl = .ok p) : p.Spelled := by
  unfold ofDeclaration at h
  split at h
  · cases h
  · obtain ⟨type, -, ⟨⟩⟩ := Except.bind_eq_ok_iff.mp h
    rfl

lemma spelled_of_ofBody {node : Node Description.RequestBody} (h : ofBody d node = .ok (some p)) :
    p.Spelled := by
  unfold ofBody at h
  split at h
  · cases h
  · split at h
    · cases h
    · dsimp only at h
      split at h
      · cases h
      · cases h
        rfl

lemma spelled_of_declares {node : Node Description.Parameter}
    (h : Declares d ignored node (some p)) : p.Spelled := by
  cases h with
  | kept _ _ _ hp => exact spelled_of_ofDeclaration hp

lemma spelled_of_mem_entries {nodes : List (Node Description.Parameter)} {t : ParameterTable}
    (h : resolve d ignored nodes = .ok t) (hp : p ∈ t.entries) : p.Spelled := by
  obtain ⟨outs, houts, rfl⟩ := resolve_eq_ok_iff_lasting.mp h
  rw [ParameterTable.entries_ofList] at hp
  have hmem : some p ∈ outs :=
    List.reduceOption_mem_iff.mp ((ParameterTable.latest_sublist _).subset hp)
  obtain ⟨i, hi⟩ := List.mem_iff_getElem?.mp hmem
  obtain ⟨node, -, hnode⟩ := houts.flip.exists_getElem? hi
  exact spelled_of_declares hnode

end Parameters

namespace Operation

variable {d : Document} {o : Options} {isError : Status → Bool} {path : String} {method : Method}
  {op : Description.Operation} {inherited : ParameterTable} {built : Operation}

lemma spelled_of_bodyOf {p : Parameter} (h : bodyOf d op = .ok (some p)) : p.Spelled := by
  unfold bodyOf at h
  split at h
  · cases h
  · exact Parameters.spelled_of_ofBody h

lemma spelled_of_mem_parameters {ignored : List String} {nodes : List (Node Description.Parameter)}
    (hi : Parameters.resolve d ignored nodes = .ok inherited)
    (hb : buildWith d o isError path method op inherited = .ok built) :
    ∀ p ∈ built.parameters.entries, p.Spelled := by
  obtain ⟨r, hr, rfl⟩ := buildWith_eq_ok_iff.mp hb
  obtain ⟨hown, hbody, -⟩ := resolve_eq_ok_iff.mp hr
  intro p hp
  rcases mem_allParameters (Parameters.reachable_of_resolve hi).sound.keyed hp with hp | hp | hp
  · exact Parameters.spelled_of_mem_entries hi hp
  · exact Parameters.spelled_of_mem_entries hown hp
  · exact spelled_of_bodyOf (hp ▸ hbody)

end Operation

end ApiOperations
