import Mathlib.Data.List.Basic
import ApiOperations.Proofs.Operation.Parts

/-!
How the parameters of an operation override those of its path.

Three layers are put on one another: the inherited parameters, the operation's own and the body that
its request body becomes. An entry of a lower layer stays if no upper layer has its key and, when it
is a body, no upper layer has a body.
-/

namespace ApiOperations.Operation

open ApiOperations.Description (Document)

/-- An inherited parameter that neither the own parameters nor the body override. -/
def StaysInherited (own : List Parameter) (body : Option Parameter) (p : Parameter) : Prop :=
  (∀ q ∈ own, p.key ≠ q.key) ∧ (∀ b ∈ body, p.key ≠ b.key) ∧
    (p.isBody → (∀ q ∈ own, ¬q.isBody) ∧ body.isNone)

/-- An own parameter that the body does not override. -/
def StaysOwn (body : Option Parameter) (p : Parameter) : Prop :=
  (∀ b ∈ body, p.key ≠ b.key) ∧ (p.isBody → body.isNone)

instance (own : List Parameter) (body : Option Parameter) :
    DecidablePred (StaysInherited own body) := fun p =>
  inferInstanceAs (Decidable ((∀ q ∈ own, p.key ≠ q.key) ∧ (∀ b ∈ body, p.key ≠ b.key) ∧
    (p.isBody → (∀ q ∈ own, ¬q.isBody) ∧ body.isNone)))

instance (body : Option Parameter) : DecidablePred (StaysOwn body) := fun p =>
  inferInstanceAs (Decidable ((∀ b ∈ body, p.key ≠ b.key) ∧ (p.isBody → body.isNone)))

variable {body : Option Parameter}

/-- What a body overrides, it evicts. -/
lemma spares_toList_iff (hb : ∀ b ∈ body, b.isBody) (p : Parameter) :
    ParameterTable.spares body.toList p ↔ StaysOwn body p := by
  cases body with
  | none => simp [StaysOwn, ParameterTable.spares]
  | some b =>
    have hb : b.isBody := hb b rfl
    rw [ParameterTable.spares_iff]
    simp only [StaysOwn, Option.toList_some, List.mem_singleton, forall_eq, Option.mem_some_iff,
      forall_eq', Parameter.evicts_eq_false_iff, hb, true_and, Option.isNone_some,
      Bool.false_eq_true, imp_false, ne_comm]

lemma spares_append_iff (hb : ∀ b ∈ body, b.isBody) (own : List Parameter) (p : Parameter) :
    ParameterTable.spares (own ++ body.toList) p ↔ StaysInherited own body p := by
  rw [ParameterTable.spares_append, Bool.and_eq_true, spares_toList_iff hb,
    ParameterTable.spares_iff]
  simp only [Parameter.evicts_eq_false_iff, StaysOwn, StaysInherited]
  constructor
  · rintro ⟨ho, hk, hn⟩
    exact ⟨fun q hq e => (ho q hq).1 e.symm, hk,
      fun hp => ⟨fun q hq hqb => (ho q hq).2 ⟨hqb, hp⟩, hn hp⟩⟩
  · rintro ⟨ho, hk, hn⟩
    exact ⟨fun q hq => ⟨fun e => ho q hq e.symm, fun hqp => (hn hqp.2).1 q hq hqp.1⟩, hk,
      fun hp => (hn hp).2⟩

/-- The three layers as one run of insertions. -/
lemma allParameters_eq_foldl (inherited : ParameterTable) (r : Resolved) :
    allParameters inherited r =
      (r.own.entries ++ r.body.toList).foldl ParameterTable.insert inherited := by
  unfold allParameters
  cases r.body <;> simp [ParameterTable.merge]

lemma entries_allParameters {inherited : ParameterTable} {r : Resolved} (hi : inherited.Sound)
    (ho : r.own.Sound) (hb : ∀ b ∈ r.body, b.isBody) :
    (allParameters inherited r).entries =
      inherited.entries.filter (StaysInherited r.own.entries r.body) ++
        r.own.entries.filter (StaysOwn r.body) ++ r.body.toList := by
  have hbody : ParameterTable.latest r.body.toList = r.body.toList := by
    cases r.body <;> rfl
  rw [allParameters_eq_foldl, ParameterTable.entries_foldl_insert hi.keyed,
    ParameterTable.latest_append, ParameterTable.latest_of_settled ho.settled, hbody,
    List.append_assoc]
  congr 1
  · refine List.filter_congr fun p _ => ?_
    rw [← Bool.coe_iff_coe, spares_append_iff hb, decide_eq_true_iff]
  · congr 1
    refine List.filter_congr fun p _ => ?_
    rw [← Bool.coe_iff_coe, spares_toList_iff hb, decide_eq_true_iff]

/-- **Override.** The parameters of an operation are the inherited ones that are not overridden,
then its own ones that the body does not override, then the body, each layer in its order. Nothing
occurs twice. -/
theorem entries_parameters_of_buildWith {d e : Document} {ignored : List String}
    {nodes : List (Node Description.Parameter)} {inherited : ParameterTable} {o : Options}
    {isError : Status → Bool} {path : String} {method : Method} {op : Description.Operation}
    {built : Operation} (hi : Parameters.resolve e ignored nodes = .ok inherited)
    (hb : buildWith d o isError path method op inherited = .ok built) :
    ∃ own body, Parameters.resolve d o.ignored op.parameters = .ok own ∧ bodyOf d op = .ok body ∧
      built.parameters.entries =
        inherited.entries.filter (StaysInherited own.entries body) ++
          own.entries.filter (StaysOwn body) ++ body.toList ∧
      (built.parameters.entries.map Parameter.key).Nodup := by
  have hinherited := Parameters.reachable_of_resolve hi
  have hkeys := (reachable_parameters hinherited hb).sound.settled.nodup_keys
  obtain ⟨r, hr, rfl⟩ := buildWith_eq_ok_iff.mp hb
  obtain ⟨hown, hbody, -⟩ := resolve_eq_ok_iff.mp hr
  exact ⟨r.own, r.body, hown, hbody,
    entries_allParameters hinherited.sound (Parameters.reachable_of_resolve hown).sound
      (isBody_of_bodyOf hbody), hkeys⟩

/-- A document of version 3 that declares nothing. -/
def bare : Document :=
  ⟨some "3.0.3", none, ⟨"Bare", none, "1"⟩, [], [], none, none, none, [], [], [], []⟩

/-- A parameter of which only the name and the place are declared. -/
def plain (name : String) (place : Description.Place) : Node Description.Parameter :=
  .inline ⟨some name, some place, none, false, none, none, none, none, [], none⟩

/-- The operation declares `id` anew, in another place, and names its body `page`. -/
def search : Description.Operation :=
  ⟨none, none, none, [], [plain "note" .header, plain "id" .query],
    some (.inline ⟨none, [("application/json", ⟨none⟩)], true, some "page"⟩), [], none⟩

theorem parameters_of_search :
    ∃ inherited built,
      Parameters.resolve bare [] [plain "id" .path, plain "page" .query, plain "x-trace" .header] =
        .ok inherited ∧
      buildWith bare Settings.default.toOptions (fun _ => false) "/pets" .post search inherited =
        .ok built ∧
      (∃ own body, Parameters.resolve bare ["api-version"] search.parameters = .ok own ∧
        bodyOf bare search = .ok body ∧
        built.parameters.entries =
          inherited.entries.filter (StaysInherited own.entries body) ++
            own.entries.filter (StaysOwn body) ++ body.toList ∧
        (built.parameters.entries.map Parameter.key).Nodup) ∧
      built.parameters.entries.map (fun p => (p.key, p.location)) =
        [("xTrace", .header), ("note", .header), ("id", .query), ("page", .body)] := by
  have hi : Parameters.resolve bare []
      [plain "id" .path, plain "page" .query, plain "x-trace" .header] = .ok _ := rfl
  refine ⟨_, _, hi, rfl, ?_, by decide +kernel⟩
  exact entries_parameters_of_buildWith (o := Settings.default.toOptions) hi rfl

end ApiOperations.Operation
