import Mathlib.Data.List.Nodup
import Mathlib.Data.List.Perm.Basic
import ApiOperations.Proofs.Operation.Dependencies

/-!
The order in which an operation declares its responses.

Statuses that rank alike are equal, so entries of different statuses can be sorted in one way only.
Results and errors are then the same for every order of the response table, and with them all that an
operation reads off them.
-/

namespace ApiOperations

open ApiOperations.Description (Document)

/-! ### Sorting entries of different statuses -/

namespace Status

lemma rank_injective : Function.Injective rank := by
  intro s t h
  cases s <;> cases t <;> simp [rank] at h ⊢ <;> omega

lemma le_antisymm {s t : Status} (hst : s.le t) (hts : t.le s) : s = t := by
  rw [le_iff] at hst hts
  have h1 : s.rank.1 = t.rank.1 := by omega
  have h2 : s.rank.2.1 = t.rank.2.1 := by omega
  have h3 : s.rank.2.2 = t.rank.2.2 := by omega
  exact rank_injective (Prod.ext h1 (Prod.ext h2 h3))

lemma sort_eq_of_perm {α : Type} (status : α → Status) {xs ys : List α} (hp : xs.Perm ys)
    (hn : (xs.map status).Nodup) : sort status xs = sort status ys := by
  have hx := sort_perm status xs
  have hy := sort_perm status ys
  refine List.Perm.eq_of_pairwise ?_ (pairwise_sort status xs) (pairwise_sort status ys)
    (hx.trans (hp.trans hy.symm))
  intro a b ha hb hab hba
  have ha := hx.mem_iff.mp ha
  have hb := hp.mem_iff.mpr (hy.mem_iff.mp hb)
  exact List.inj_on_of_nodup_map hn ha hb (le_antisymm hab hba)

end Status

/-! ### Splitting them -/

namespace Responses

variable {d : Document} {t u : Table (Node Description.Response)} {os : List Outcome}

lemma split_eq_of_perm (isError : Status → Bool) {ps : List Outcome} (hp : os.Perm ps)
    (hn : (os.map (·.status)).Nodup) : split isError os = split isError ps := by
  have hresults : (split isError os).results = (split isError ps).results := by
    rw [results_split, results_split]
    refine Status.sort_eq_of_perm _ (hp.filter _) ?_
    exact hn.sublist (List.filter_sublist.map _)
  have herrors : (split isError os).errors = (split isError ps).errors := by
    rw [errors_split, errors_split]
    refine Status.sort_eq_of_perm _ ((hp.filter _).map _) ?_
    rw [List.map_map]
    exact hn.sublist (List.filter_sublist.map _)
  exact congrArg₂ Classified.mk hresults herrors

/-- A table in another order describes the same outcomes in another order. -/
lemma exists_outcomes_of_perm (hp : t.Perm u) (h : outcomes d t = .ok os) :
    ∃ ps, outcomes d u = .ok ps ∧ os.Perm ps := by
  have h := outcomes_eq_ok_iff.mp h
  obtain ⟨ps, hps, hperm⟩ := List.perm_comp_forall₂ hp.symm h
  exact ⟨ps, outcomes_eq_ok_iff.mpr hps, hperm.symm⟩

/-- The outcomes of a table have the statuses that its keys spell. -/
lemma filterMap_ofKey?_of_outcomes (h : outcomes d t = .ok os) :
    t.filterMap (fun e => Status.ofKey? e.1) = os.map (·.status) := by
  have hmap := map_status_of_forall₂ (outcomes_eq_ok_iff.mp h)
  have hid := congrArg (List.filterMap id) hmap
  simpa [List.filterMap_map] using hid

end Responses

/-! ### Operations -/

namespace Operation

variable {d : Document} {o : Options} {isError : Status → Bool} {path : String} {method : Method}
  {op : Description.Operation} {inherited : ParameterTable}

/-- The keys of the responses spell different statuses, as far as they spell any. -/
def DistinctStatuses (op : Description.Operation) : Prop :=
  (op.responses.filterMap fun e => Status.ofKey? e.1).Nodup

lemma buildWith_of_perm {op' : Description.Operation} {built : Operation}
    (hop : op' = { op with responses := op'.responses }) (hp : op.responses.Perm op'.responses)
    (hn : DistinctStatuses op) (h : buildWith d o isError path method op inherited = .ok built) :
    buildWith d o isError path method op' inherited = .ok built := by
  obtain ⟨r, hr, rfl⟩ := buildWith_eq_ok_iff.mp h
  obtain ⟨hown, hbody, hos⟩ := resolve_eq_ok_iff.mp hr
  obtain ⟨ps, hps, hperm⟩ := Responses.exists_outcomes_of_perm hp hos
  have hstatus : (r.outcomes.map (·.status)).Nodup := by
    rw [← Responses.filterMap_ofKey?_of_outcomes hos]
    exact hn
  have hsplit := Responses.split_eq_of_perm isError hperm hstatus
  refine buildWith_eq_ok_iff.mpr ⟨⟨r.own, r.body, ps⟩, resolve_eq_ok_iff.mpr ?_, ?_⟩
  · rw [hop]
    exact ⟨hown, hbody, hps⟩
  · rw [hop]
    unfold assemble
    rw [← hsplit]
    rfl

/-- **Order of responses.** Responses of different statuses may be declared in any order: an
operation builds in one order if and only if it builds in another, and then into the same model. -/
theorem buildWith_responses_perm {t : Table (Node Description.Response)}
    (hp : op.responses.Perm t) (hn : DistinctStatuses op) (built : Operation) :
    buildWith d o isError path method op inherited = .ok built ↔
      buildWith d o isError path method { op with responses := t } inherited = .ok built := by
  constructor
  · exact buildWith_of_perm rfl hp hn
  · have hn' : DistinctStatuses { op with responses := t } := (hp.filterMap _).nodup_iff.mp hn
    exact buildWith_of_perm rfl hp.symm hn'

theorem buildWith_list_reversed :
    let reversed : Description.Operation := { list with responses := list.responses.reverse }
    ∃ built, list.responses.Perm reversed.responses ∧ DistinctStatuses list ∧
      reversed.responses.names ≠ list.responses.names ∧
      buildWith store Settings.default.toOptions (fun _ => false) "/pets" .get reversed .empty =
        .ok built ∧
      built.results.length = 2 := by
  intro reversed
  have hp : list.responses.Perm reversed.responses := (List.reverse_perm _).symm
  have hn : DistinctStatuses list := by
    unfold DistinctStatuses
    decide +kernel
  have hb : buildWith store Settings.default.toOptions (fun _ => false) "/pets" .get list .empty =
      .ok _ := rfl
  refine ⟨_, hp, hn, by decide +kernel, (buildWith_responses_perm hp hn _).mp hb, ?_⟩
  exact (Status.sort_perm Outcome.status _).length_eq

end Operation

end ApiOperations
