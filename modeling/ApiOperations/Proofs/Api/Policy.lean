import Mathlib.Data.List.Basic
import ApiOperations.Proofs.Operation.Definitions
import ApiOperations.Proofs.Operation.Override

/-!
The two failure policies against the outcomes of the declared operations.

Every declared pair of a path and a method has an outcome, its model or its failure. The outcomes
stand in the order of the paths and then of the methods, and a pass over the document is one run
over them. Skipping sorts them into operations and failures; aborting stops at the first failure. An
outcome depends on nothing but the pair's own declaration, the parameters of its path and the
reusable definitions.
-/

namespace ApiOperations.Api

open ApiOperations.Description (Document PathItem)

/-! ### Outcomes -/

/-- The outcome of an operation that is declared for a method of a path. -/
def outcome (d : Document) (o : Options) (path : String) (item : PathItem) (method : Method)
    (op : Description.Operation) : Built :=
  match Parameters.resolve d o.ignored item.parameters with
  | .error cause => .error ⟨method, path, cause⟩
  | .ok inherited => Operation.build d o path method op inherited

/-- The outcome of a pair of a path and a method, if it is declared. -/
def outcome? (d : Document) (o : Options) (path : String) (item : PathItem) (method : Method) :
    Option Built :=
  (item.operation? method).map (outcome d o path item method)

/-- The outcomes of all declared pairs, by path and then by method. -/
def outcomes (d : Document) (o : Options) : List Built :=
  d.paths.flatMap fun (path, item) => Method.all.filterMap (outcome? d o path item)

/-- The operations among some outcomes. -/
def built (bs : List Built) : List Operation :=
  bs.filterMap Except.toOption

/-- The failures among some outcomes. -/
def failed (bs : List Built) : List OperationFailure :=
  bs.filterMap fun
    | .ok _ => none
    | .error e => some e

@[simp] lemma built_nil : built [] = [] := rfl
@[simp] lemma built_ok (op : Operation) (bs : List Built) : built (.ok op :: bs) = op :: built bs :=
  rfl
@[simp] lemma built_error (e : OperationFailure) (bs : List Built) :
    built (.error e :: bs) = built bs := rfl
@[simp] lemma failed_nil : failed [] = [] := rfl
@[simp] lemma failed_ok (op : Operation) (bs : List Built) :
    failed (.ok op :: bs) = failed bs := rfl
@[simp] lemma failed_error (e : OperationFailure) (bs : List Built) :
    failed (.error e :: bs) = e :: failed bs := rfl

lemma mem_built {op : Operation} {bs : List Built} : op ∈ built bs ↔ .ok op ∈ bs := by
  simp only [built, List.mem_filterMap]
  constructor
  · rintro ⟨b, hb, h⟩
    cases b with
    | error e => cases h
    | ok op' => cases h; exact hb
  · exact fun h => ⟨_, h, rfl⟩

lemma failed_eq_nil_iff {bs : List Built} : failed bs = [] ↔ ∀ b ∈ bs, ∃ op, b = .ok op := by
  induction bs with
  | nil => simp
  | cons b bs ih => cases b <;> simp [ih]

/-! ### A pass is a run over the outcomes -/

variable (d : Document) (o : Options)

lemma outcome_eq_buildUnder (path : String) (item : PathItem) :
    outcome d o path item =
      buildUnder d o path (Parameters.resolve d o.ignored item.parameters) := by
  funext method op
  unfold outcome buildUnder
  cases Parameters.resolve d o.ignored item.parameters <;> rfl

lemma gatherPath_eq (g : Gathered) (path : String) (item : PathItem) :
    gatherPath d o g (path, item) =
      (Method.all.filterMap (outcome? d o path item)).foldlM (Gathered.add o.onError) g := by
  have hmap : Method.all.filterMap (outcome? d o path item) =
      item.operations.map fun e => outcome d o path item e.1 e.2 := by
    simp only [PathItem.operations, List.map_filterMap]
    refine List.filterMap_congr fun m _ => ?_
    cases h : item.operation? m <;> simp [outcome?, h]
  rw [hmap, List.foldlM_map, outcome_eq_buildUnder]
  rfl

lemma gather_eq : gather d o = (outcomes d o).foldlM (Gathered.add o.onError) ⟨[], []⟩ := by
  unfold gather outcomes
  generalize (⟨[], []⟩ : Gathered) = g
  induction d.paths generalizing g with
  | nil => rfl
  | cons entry paths ih =>
    rw [List.foldlM_cons, List.flatMap_cons, List.foldlM_append, gatherPath_eq]
    exact bind_congr ih

/-- Skipping keeps every outcome, on one side or the other. -/
lemma foldlM_add_skip (g : Gathered) (bs : List Built) :
    bs.foldlM (Gathered.add .skip) g =
      .ok ⟨g.operations ++ built bs, g.failures ++ failed bs⟩ := by
  induction bs generalizing g with
  | nil => simp [pure, Except.pure]
  | cons b bs ih =>
    rw [List.foldlM_cons]
    cases b with
    | ok op =>
      show bs.foldlM (Gathered.add .skip) _ = _
      simp [ih]
    | error e =>
      show bs.foldlM (Gathered.add .skip) _ = _
      simp [ih]

/-- Aborting ends at the first failure, and otherwise keeps every operation. -/
lemma foldlM_add_abort (g : Gathered) (bs : List Built) :
    bs.foldlM (Gathered.add .abort) g =
      match failed bs with
      | [] => .ok ⟨g.operations ++ built bs, g.failures⟩
      | e :: _ => .error e := by
  induction bs generalizing g with
  | nil => simp [pure, Except.pure]
  | cons b bs ih =>
    rw [List.foldlM_cons]
    cases b with
    | ok op =>
      show bs.foldlM (Gathered.add .abort) _ = _
      simp [ih]
    | error e => rfl

/-- An outcome does not look at the policy. -/
lemma outcomes_onError (policy : FailurePolicy) :
    outcomes d { o with onError := policy } = outcomes d o := rfl

/-- The model that holds some operations and failures. -/
def ofGathered (g : Gathered) : Api where
  info := d.info
  servers := serversOf d
  operations := g.operations
  modules := services g.operations
  failures := g.failures

lemma ofDocument_of_skip (h : o.onError = .skip) :
    ofDocument d o = .ok (ofGathered d ⟨built (outcomes d o), failed (outcomes d o)⟩) := by
  simp only [ofDocument, gather_eq, h, foldlM_add_skip, List.nil_append]
  rfl

lemma ofDocument_of_abort (h : o.onError = .abort) :
    ofDocument d o =
      match failed (outcomes d o) with
      | [] => .ok (ofGathered d ⟨built (outcomes d o), []⟩)
      | e :: _ => .error e := by
  simp only [ofDocument, gather_eq, h, foldlM_add_abort, List.nil_append]
  cases failed (outcomes d o) <;> rfl

/-- Under either policy the operations of a model are the outcomes that are models. -/
lemma operations_of_ofDocument {d : Document} {o : Options} {api : Api}
    (h : ofDocument d o = .ok api) : api.operations = built (outcomes d o) := by
  cases hp : o.onError with
  | skip =>
    rw [ofDocument_of_skip d o hp] at h
    cases h
    rfl
  | abort =>
    rw [ofDocument_of_abort d o hp] at h
    split at h
    · cases h
      rfl
    · cases h

/-! ### What an outcome depends on -/

/-- Other paths, and the other methods of the path, do not change an outcome. -/
lemma outcome?_paths (paths : Table PathItem) (path : String) {item item' : PathItem}
    {method : Method} (hp : item'.parameters = item.parameters)
    (hm : item'.operation? method = item.operation? method) :
    outcome? { d with paths } o path item' method = outcome? d o path item method := by
  have hsame := d.sameDefinitions_paths paths
  unfold outcome?
  rw [hm]
  congr 1
  funext op
  simp only [outcome, hp, hsame.resolve_eq, Operation.build, hsame.buildWith_eq]

/-- **Agreement of the policies.** Skipping always gives a model, with the outcomes sorted into
operations and failures. Aborting gives the same model if there is no failure, and otherwise the
first one. The outcome of a pair is the same in every document that differs in other paths and in
other methods of the path only. -/
theorem policies_agree :
    (∃ skipped, ofDocument d { o with onError := .skip } = .ok skipped ∧
      skipped.operations = built (outcomes d o) ∧
      skipped.failures = failed (outcomes d o) ∧
      (∀ api, ofDocument d { o with onError := .abort } = .ok api ↔
        (∀ b ∈ outcomes d o, ∃ op, b = .ok op) ∧ api = skipped ∧ api.failures = []) ∧
      ∀ e, ofDocument d { o with onError := .abort } = .error e ↔
        skipped.failures.head? = some e) ∧
    ∀ (paths : Table PathItem) (path : String) (item item' : PathItem) (method : Method),
      item'.parameters = item.parameters →
      item'.operation? method = item.operation? method →
      outcome? { d with paths } o path item' method = outcome? d o path item method := by
  have hskip := ofDocument_of_skip d { o with onError := .skip } rfl
  have habort := ofDocument_of_abort d { o with onError := .abort } rfl
  rw [outcomes_onError] at hskip habort
  refine ⟨⟨_, hskip, rfl, rfl, fun api => ?_, fun e => ?_⟩,
    fun paths path _ _ _ => outcome?_paths d o paths path⟩
  · rw [habort, ← failed_eq_nil_iff]
    cases hf : failed (outcomes d o) with
    | nil =>
      simp only [Except.ok.injEq, true_and]
      constructor
      · rintro rfl
        exact ⟨rfl, rfl⟩
      · rintro ⟨rfl, -⟩
        rfl
    | cons e es => simp
  · rw [habort]
    cases hf : failed (outcomes d o) with
    | nil => simp [ofGathered]
    | cons e' es => simp [ofGathered]

/-- A path whose `get` can be built and whose `post` declares a parameter without a place. -/
def pets : PathItem :=
  ⟨[], some Operation.search,
    some { Operation.search with
      parameters := [.inline ⟨some "id", none, none, false, none, none, none, none, [], none⟩] },
    none, none, none, none, none, none⟩

theorem policies_agree_on_pets :
    let d : Document := { Operation.bare with paths := [("/pets", pets)] }
    let o := Settings.default.toOptions
    let e : OperationFailure := ⟨.post, "/pets", .parameter "id" (.missingField "in")⟩
    (∃ skipped, ofDocument d { o with onError := .skip } = .ok skipped ∧
      skipped.operations.length = 1 ∧ skipped.failures = [e]) ∧
    ofDocument d { o with onError := .abort } = .error e ∧
    outcome? { d with paths := [] } o "/pets" { pets with post := none } .get =
      outcome? d o "/pets" pets .get := by
  intro d o e
  obtain ⟨⟨skipped, hskip, hops, hfail, -, habort⟩, hframe⟩ := policies_agree d o
  have hone : skipped.failures = [e] := by rw [hfail]; rfl
  refine ⟨⟨skipped, hskip, by rw [hops]; rfl, hone⟩, (habort e).mpr (by rw [hone]; rfl), ?_⟩
  exact hframe [] "/pets" pets { pets with post := none } .get rfl rfl

end ApiOperations.Api
