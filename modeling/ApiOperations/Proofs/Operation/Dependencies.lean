import Mathlib.Data.List.Basic
import Mathlib.Data.List.Induction
import ApiOperations.Proofs.DataType.Formed
import ApiOperations.Proofs.Operation.Override
import ApiOperations.Proofs.Response.Partition

/-!
The named schemas that an operation depends on.

They are read off the types in its table of parameters and then off the type of each result, the
first occurrences in order. So they are the names in these types and no others: what was overridden,
ignored or made an error leaves none behind. A name in a type is that of a schema of the document.
-/

namespace ApiOperations

open ApiOperations.Description (Document)

/-! ### First occurrences -/

section FirstOccurrences

variable {α β : Type} [DecidableEq α]

lemma eraseDups_append_singleton (xs : List α) (x : α) :
    (xs ++ [x]).eraseDups = if x ∈ xs then xs.eraseDups else xs.eraseDups ++ [x] := by
  have hx : [x].eraseDups = [x] := rfl
  rw [List.eraseDups_append]
  by_cases h : x ∈ xs <;> simp [List.removeAll, h, hx]

lemma firstOccurrences_eq_eraseDups (xs : List α) : firstOccurrences xs = xs.eraseDups := by
  induction xs using List.reverseRecOn with
  | nil => rfl
  | append_singleton xs x ih =>
    have hlast : firstOccurrences (xs ++ [x]) = if (firstOccurrences xs).contains x then
        firstOccurrences xs else firstOccurrences xs ++ [x] := by
      rw [firstOccurrences, List.foldl_append]
      rfl
    rw [hlast, eraseDups_append_singleton, ih]
    simp

/-- What stands before a list decides which of its members are new. -/
lemma eraseDups_append_eraseDups {xs zs : List α} (h : xs.eraseDups = zs.eraseDups) (ys : List α) :
    (xs ++ ys.eraseDups).eraseDups = (zs ++ ys).eraseDups := by
  induction ys using List.reverseRecOn with
  | nil => simpa using h
  | append_singleton ys y ih =>
    have hmem : y ∈ xs ↔ y ∈ zs := by rw [← List.mem_eraseDups, h, List.mem_eraseDups]
    rw [← List.append_assoc, eraseDups_append_singleton, eraseDups_append_singleton]
    by_cases hy : y ∈ ys
    · simp [hy, ih]
    · simp [hy, ← List.append_assoc, eraseDups_append_singleton, hmem, ih]

lemma eraseDups_flatMap_eraseDups (f : β → List α) (xs : List β) :
    (xs.flatMap fun x => (f x).eraseDups).eraseDups = (xs.flatMap f).eraseDups := by
  induction xs using List.reverseRecOn with
  | nil => rfl
  | append_singleton xs x ih => simpa using eraseDups_append_eraseDups ih (f x)

end FirstOccurrences

lemma DataType.dependencies_eq (t : DataType) : t.dependencies = t.refs.eraseDups :=
  firstOccurrences_eq_eraseDups _

lemma ParameterTable.dependencies_eq (t : ParameterTable) :
    t.dependencies = (t.entries.flatMap (·.type.refs)).eraseDups := by
  simp only [dependencies, DataType.dependencies_eq, firstOccurrences_eq_eraseDups,
    eraseDups_flatMap_eraseDups]

/-! ### Names of schemas -/

/-- A schema of the document has this name in PascalCase. -/
def Description.Document.NamesSchema (d : Document) (n : String) : Prop :=
  ∃ key, (d.schemaTable.lookup key).isSome ∧ n = (Name.ofString key).pascal

namespace DataType

variable {d : Document} {t : DataType}

lemma formed_ofPointer {p : String} (h : ofPointer d p = .ok t) : t.Formed d.NamesSchema := by
  obtain ⟨name, -, hname, rfl⟩ := ofPointer_eq_ok_iff.mp h
  exact .ref ⟨name, Table.isSome_lookup_iff.mpr hname, rfl⟩

lemma formed_namesSchema_of_ofNode {node : Node Description.Schema} (h : ofNode d node = .ok t) :
    t.Formed d.NamesSchema :=
  formed_ofNode node (fun _ _ _ => formed_ofPointer) t h

end DataType

namespace Parameters

variable {d : Document} {ignored : List String}

lemma formed_typeOf {p : Description.Parameter} {l : Location} {t : DataType}
    (h : typeOf d p l = .ok t) : t.Formed d.NamesSchema := by
  unfold typeOf at h
  split at h
  · exact DataType.formed_namesSchema_of_ofNode h
  · split at h
    · cases h
    · exact DataType.formed_ofSchema _ (fun _ _ _ => DataType.formed_ofPointer) _ h
  · split at h
    · cases h
    · cases h
      exact .leaf rfl

/-- A parameter that is declared is not ignored, and the names in its type are those of schemas. -/
structure Declared (d : Document) (ignored : List String) (p : Parameter) : Prop where
  kept : p.originalName ∉ ignored
  formed : p.type.Formed d.NamesSchema

lemma declared_of_ofNode {node : Node Description.Parameter} {p : Parameter}
    (h : ofNode d ignored node = .ok (some p)) : Declared d ignored p := by
  obtain ⟨decl, -, h⟩ := Except.bind_eq_ok_iff.mp h
  split at h
  · cases h
  · split at h
    · cases h
    · rename_i name _ hname
      obtain ⟨q, hq, ⟨⟩⟩ := Except.bind_eq_ok_iff.mp h
      unfold ofDeclaration at hq
      split at hq
      · cases hq
      · obtain ⟨t, ht, ⟨⟩⟩ := Except.bind_eq_ok_iff.mp hq
        exact ⟨by simpa using hname, formed_typeOf ht⟩

lemma declared_of_mem {nodes : List (Node Description.Parameter)} {i : Nat} {ps : List Parameter}
    (h : declared d ignored i nodes = .ok ps) : ∀ p ∈ ps, Declared d ignored p := by
  induction nodes generalizing i ps with
  | nil =>
    cases h
    simp
  | cons node nodes ih =>
    unfold declared at h
    split at h
    · cases h
    · rename_i q hq
      obtain ⟨qs, hqs, ⟨⟩⟩ := Except.bind_eq_ok_iff.mp h
      intro p hp
      rcases List.mem_append.mp hp with hp | hp
      · rw [Option.mem_toList] at hp
        cases hp
        exact declared_of_ofNode hq
      · exact ih hqs p hp

lemma declared_of_mem_entries {nodes : List (Node Description.Parameter)} {t : ParameterTable}
    (h : resolve d ignored nodes = .ok t) {p : Parameter} (hp : p ∈ t.entries) :
    Declared d ignored p := by
  obtain ⟨ps, hps, rfl⟩ := resolve_eq_ok_iff.mp h
  rw [ParameterTable.entries_ofList] at hp
  exact declared_of_mem hps p ((ParameterTable.latest_sublist ps).subset hp)

lemma formed_of_ofBody {node : Node Description.RequestBody} {p : Parameter}
    (h : ofBody d node = .ok (some p)) : p.type.Formed d.NamesSchema := by
  unfold ofBody at h
  split at h
  · cases h
  · split at h
    · cases h
    · dsimp only at h
      split at h
      · cases h
      · rename_i t ht
        cases h
        split at ht
        · cases ht
          exact .leaf rfl
        · exact DataType.formed_namesSchema_of_ofNode ht

end Parameters

namespace Responses

variable {d : Document} {r : Description.Response} {t : DataType} {m : Option String} {n : String}

lemma namesSchema_of_contentType (h : contentType d r = .ok (t, m)) (hn : t.Mentions n) :
    d.NamesSchema n := by
  unfold contentType at h
  split at h
  · obtain ⟨u, hu, ⟨⟩⟩ := Except.map_eq_ok_iff.mp h
    exact (DataType.formed_namesSchema_of_ofNode hu).named_of_mentions hn
  · split at h
    · cases h
      cases hn
    · split at h
      · obtain ⟨u, hu, ⟨⟩⟩ := Except.map_eq_ok_iff.mp h
        exact (DataType.formed_namesSchema_of_ofNode hu).named_of_mentions hn
      · cases h
        cases hn

/-- An outcome that a table describes depends on the schemas that its type names. -/
structure Known (d : Document) (o : Outcome) : Prop where
  dependencies : o.dependencies = o.type.refs.eraseDups
  named : ∀ n, o.type.Mentions n → d.NamesSchema n

lemma known_of_describes {entry : String × Node Description.Response} {o : Outcome}
    (h : Describes d entry o) : Known d o := by
  obtain ⟨_, -, hr, -⟩ := h.response
  exact ⟨h.dependencies.trans (DataType.dependencies_eq _),
    fun _ => namesSchema_of_contentType hr⟩

lemma known_of_mem {table : Table (Node Description.Response)} {os : List Outcome}
    (h : List.Forall₂ (Describes d) table os) : ∀ o ∈ os, Known d o := by
  induction h with
  | nil => simp
  | cons he _ ih => exact List.forall_mem_cons.mpr ⟨known_of_describes he, ih⟩

lemma mem_of_mem_results {isError : Status → Bool} {os : List Outcome} {o : Outcome}
    (h : o ∈ (split isError os).results) : o ∈ os := by
  rw [results_split, (Status.sort_perm _ _).mem_iff] at h
  exact List.mem_of_mem_filter h

end Responses

/-! ### Operations -/

namespace Operation

variable {d : Document} {o : Options} {isError : Status → Bool} {path : String} {method : Method}
  {op : Description.Operation} {inherited : ParameterTable} {built : Operation}

lemma mem_allParameters {r : Resolved} {p : Parameter} (hi : inherited.Keyed)
    (h : p ∈ (allParameters inherited r).entries) :
    p ∈ inherited.entries ∨ p ∈ r.own.entries ∨ r.body = some p := by
  rw [allParameters_eq_foldl, ParameterTable.entries_foldl_insert hi, List.mem_append] at h
  rcases h with h | h
  · exact .inl (List.mem_of_mem_filter h)
  · have h := (ParameterTable.latest_sublist _).subset h
    rw [List.mem_append, Option.mem_toList] at h
    exact .inr h

/-- Where the parameters of an operation come from. -/
structure Origin (d : Document) (o : Options) (op : Description.Operation)
    (inherited : ParameterTable) (p : Parameter) : Prop where
  formed : p.type.Formed d.NamesSchema
  /-- No ignored parameter is added, unless it is the body. -/
  kept : p.originalName ∈ o.ignored → p ∈ inherited.entries ∨ bodyOf d op = .ok (some p)

lemma origin_of_mem {ignored : List String} {nodes : List (Node Description.Parameter)}
    (hi : Parameters.resolve d ignored nodes = .ok inherited)
    (hb : buildWith d o isError path method op inherited = .ok built) :
    ∀ p ∈ built.parameters.entries, Origin d o op inherited p := by
  obtain ⟨r, hr, rfl⟩ := buildWith_eq_ok_iff.mp hb
  obtain ⟨hown, hbody, -⟩ := resolve_eq_ok_iff.mp hr
  intro p hp
  have hkeyed := (Parameters.reachable_of_resolve hi).sound.keyed
  rcases mem_allParameters hkeyed hp with hp | hp | hp
  · exact ⟨(Parameters.declared_of_mem_entries hi hp).formed, fun _ => .inl hp⟩
  · have hdeclared := Parameters.declared_of_mem_entries hown hp
    exact ⟨hdeclared.formed, fun hignored => absurd hignored hdeclared.kept⟩
  · rw [hp] at hbody
    refine ⟨?_, fun _ => .inr hbody⟩
    unfold bodyOf at hbody
    split at hbody
    · cases hbody
    · exact Parameters.formed_of_ofBody hbody

lemma known_of_mem_results (hb : buildWith d o isError path method op inherited = .ok built) :
    ∀ r ∈ built.results, Responses.Known d r := by
  obtain ⟨r, hr, rfl⟩ := buildWith_eq_ok_iff.mp hb
  have hos := Responses.outcomes_eq_ok_iff.mp (resolve_eq_ok_iff.mp hr).2.2
  exact fun out hout => Responses.known_of_mem hos out (Responses.mem_of_mem_results hout)

lemma dependencies_eq_append (hb : buildWith d o isError path method op inherited = .ok built) :
    built.dependencies = built.parameters.dependencies ++ built.results.flatMap (·.dependencies) := by
  obtain ⟨r, -, rfl⟩ := buildWith_eq_ok_iff.mp hb
  rfl

lemma isError_eq_false_of_mem (hb : buildWith d o isError path method op inherited = .ok built) :
    ∀ r ∈ built.results, isError r.status = false := by
  obtain ⟨r, -, rfl⟩ := buildWith_eq_ok_iff.mp hb
  exact fun _ => Responses.isError_of_mem_results

/-- **Dependencies.** An operation depends on the schemas that its parameters name, each once in the
order of first occurrence, and then on those that each of its results names. Nothing else is named:
no parameter that is ignored is among its own, no error is among its results, and every name is that
of a schema of the document. -/
theorem dependencies_of_buildWith {ignored : List String}
    {nodes : List (Node Description.Parameter)}
    (hi : Parameters.resolve d ignored nodes = .ok inherited)
    (hb : buildWith d o isError path method op inherited = .ok built) :
    built.dependencies = (built.parameters.entries.flatMap (·.type.refs)).eraseDups ++
        built.results.flatMap (fun r => r.type.refs.eraseDups) ∧
      (∀ n, n ∈ built.dependencies ↔
        (∃ p ∈ built.parameters.entries, p.type.Mentions n) ∨ ∃ r ∈ built.results, r.type.Mentions n) ∧
      (∀ p ∈ built.parameters.entries, p.originalName ∈ o.ignored →
        p ∈ inherited.entries ∨ bodyOf d op = .ok (some p)) ∧
      (∀ r ∈ built.results, isError r.status = false) ∧
      ∀ n ∈ built.dependencies, d.NamesSchema n := by
  have horigin := origin_of_mem hi hb
  have hknown := known_of_mem_results hb
  have heq : built.dependencies = (built.parameters.entries.flatMap (·.type.refs)).eraseDups ++
      built.results.flatMap (fun r => r.type.refs.eraseDups) := by
    rw [dependencies_eq_append hb, ParameterTable.dependencies_eq]
    congr 1
    exact List.flatMap_congr fun r hr => (hknown r hr).dependencies
  have hmem : ∀ n, n ∈ built.dependencies ↔ (∃ p ∈ built.parameters.entries, p.type.Mentions n) ∨
      ∃ r ∈ built.results, r.type.Mentions n := by
    intro n
    simp only [heq, List.mem_append, List.mem_eraseDups, List.mem_flatMap, DataType.mem_refs_iff]
  refine ⟨heq, hmem, fun p hp => (horigin p hp).kept, isError_eq_false_of_mem hb, fun n hn => ?_⟩
  rcases (hmem n).mp hn with ⟨p, hp, hpn⟩ | ⟨r, hr, hrn⟩
  · exact (horigin p hp).formed.named_of_mentions hpn
  · exact (hknown r hr).named n hrn

/-- A document with three schemas. -/
def store : Document :=
  { bare with components := some ⟨[("pet", .inline Description.Schema.empty),
      ("tag", .inline Description.Schema.empty), ("problem", .inline Description.Schema.empty)],
      [], [], []⟩ }

/-- A query parameter of a type. -/
def typed (name : String) (schema : Node Description.Schema) : Node Description.Parameter :=
  .inline ⟨some name, some .query, none, false, some schema, none, none, none, [], none⟩

/-- A response of a type. -/
def answered (schema : Node Description.Schema) : Node Description.Response :=
  .inline ⟨none, some schema, [], []⟩

/-- An inherited parameter is overridden, one of its own is ignored, and one response is an error. -/
def list : Description.Operation :=
  ⟨none, none, none, [],
    [typed "id" (.inline Description.Schema.empty),
      typed "api-version" (.ref "#/components/schemas/problem"),
      typed "filter" (.inline { Description.Schema.empty with
        oneOf := [.ref "#/components/schemas/tag", .ref "#/definitions/tag"] })],
    none,
    [("404", answered (.ref "#/components/schemas/problem")),
      ("200", answered (.ref "#/components/schemas/pet"))], none⟩

theorem dependencies_of_list :
    ∃ inherited built,
      Parameters.resolve store [] [typed "id" (.ref "#/components/schemas/problem")] =
        .ok inherited ∧
      buildWith store Settings.default.toOptions (Status.le (.code 400)) "/pets" .get list inherited =
        .ok built ∧
      built.dependencies = ["Tag", "Pet"] ∧
      (∀ n, n ∈ built.dependencies ↔ (∃ p ∈ built.parameters.entries, p.type.Mentions n) ∨
        ∃ r ∈ built.results, r.type.Mentions n) ∧
      ∀ n ∈ built.dependencies, store.NamesSchema n := by
  have hrun : ((Parameters.resolve store []
      [typed "id" (.ref "#/components/schemas/problem")]).toOption.bind fun inherited =>
        (buildWith store Settings.default.toOptions (Status.le (.code 400)) "/pets" .get list
          inherited).toOption.map Operation.dependencies) = some ["Tag", "Pet"] := by
    decide +kernel
  obtain ⟨inherited, hi, hrun⟩ := Option.bind_eq_some_iff.mp hrun
  obtain ⟨built, hb, hdependencies⟩ := Option.map_eq_some_iff.mp hrun
  have hi := Except.toOption_eq_some_iff.mp hi
  have hb := Except.toOption_eq_some_iff.mp hb
  obtain ⟨-, hmem, -, -, hnames⟩ := dependencies_of_buildWith hi hb
  exact ⟨inherited, built, hi, hb, hdependencies, hmem, hnames⟩

end Operation

end ApiOperations
