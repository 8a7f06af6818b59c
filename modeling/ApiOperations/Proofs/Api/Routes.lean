import Mathlib.Data.List.Forall2
import Mathlib.Data.List.Nodup
import ApiOperations.Proofs.Api.Tables
import ApiOperations.Proofs.Description.RoundTrip
import ApiOperations.Proofs.Operation.Parts
import ApiOperations.Proofs.Route.Placeholders
import ApiOperations.Proofs.Table

/-!
The routes of a model. Every operation comes from its own declared pair of a method and a path. Its
route is the method with the path as it is renamed, and renaming may take two paths to one. So two
operations have one route exactly if their pairs share the method and have alike paths.
-/

namespace ApiOperations.Api

open ApiOperations.Description (Document PathItem)

variable {d : Document} {o : Options}

/-! ### Documents that are read -/

lemma unique_paths_of_readDocument {σ : Type} [Dialect σ] {n : Nat} {t : Tree σ}
    (h : Description.readDocument n t = some d) : d.paths.Unique := by
  obtain ⟨f, -, h⟩ := Option.bind_eq_some_iff.mp h
  obtain ⟨openapi, -, h⟩ := Option.bind_eq_some_iff.mp h
  obtain ⟨swagger, -, h⟩ := Option.bind_eq_some_iff.mp h
  obtain ⟨info, -, h⟩ := Option.bind_eq_some_iff.mp h
  obtain ⟨servers, -, h⟩ := Option.bind_eq_some_iff.mp h
  obtain ⟨paths, hpaths, h⟩ := Option.bind_eq_some_iff.mp h
  obtain ⟨components, -, h⟩ := Option.bind_eq_some_iff.mp h
  obtain ⟨host, -, h⟩ := Option.bind_eq_some_iff.mp h
  obtain ⟨basePath, -, h⟩ := Option.bind_eq_some_iff.mp h
  obtain ⟨schemes, -, h⟩ := Option.bind_eq_some_iff.mp h
  obtain ⟨definitions, -, h⟩ := Option.bind_eq_some_iff.mp h
  obtain ⟨parameters, -, h⟩ := Option.bind_eq_some_iff.mp h
  obtain ⟨responses, -, ⟨⟩⟩ := Option.bind_eq_some_iff.mp h
  exact Fields.unique_of_defaulted hpaths

/-- A document that is read declares each path once. -/
lemma unique_paths_of_ofText {format : TextFormat} {text : String}
    (h : Document.ofText format text = .ok d) : d.paths.Unique := by
  unfold Document.ofText at h
  split at h
  · cases h
  · rename_i e he
    obtain rfl := Document.eq_of_checkVersion_eq_ok h
    cases format with
    | json =>
      obtain ⟨t, -, ht⟩ := Option.bind_eq_some_iff.mp he
      exact unique_paths_of_readDocument ht
    | yaml =>
      obtain ⟨t, -, ht⟩ := Option.bind_eq_some_iff.mp he
      exact unique_paths_of_readDocument ht

/-! ### Operations and the pairs they come from -/

/-- The operation is the outcome of the declared pair. -/
def Makes (d : Document) (o : Options) (pair : Method × String) (op : Operation) : Prop :=
  ∃ item, (pair.2, item) ∈ d.paths ∧ outcome? d o pair.2 item pair.1 = some (.ok op)

/-- The operations of a document, each with the pair that makes it. -/
def made (d : Document) (o : Options) : List ((Method × String) × Operation) :=
  d.paths.flatMap fun (path, item) => Method.all.filterMap fun method =>
    ((outcome? d o path item method).bind Except.toOption).map ((method, path), ·)

lemma map_snd_made : (made d o).map Prod.snd = built (outcomes d o) := by
  simp only [made, built, outcomes, List.map_flatMap, List.map_filterMap, List.filterMap_flatMap,
    List.filterMap_filterMap, Option.map_map, Function.comp_def, Option.map_id']

lemma makes_of_mem_made {e : (Method × String) × Operation} (h : e ∈ made d o) :
    Makes d o e.1 e.2 := by
  obtain ⟨⟨path, item⟩, hpath, he⟩ := List.mem_flatMap.mp h
  obtain ⟨method, -, he⟩ := List.mem_filterMap.mp he
  obtain ⟨op, hop, rfl⟩ := Option.map_eq_some_iff.mp he
  obtain ⟨b, hb, hop⟩ := Option.bind_eq_some_iff.mp hop
  exact ⟨item, hpath, hb.trans (congrArg some (Except.toOption_eq_some_iff.mp hop))⟩

/-- A document declares each pair once. -/
lemma nodup_map_fst_made (hd : d.paths.Unique) : ((made d o).map Prod.fst).Nodup := by
  simp only [made, List.map_flatMap, List.map_filterMap, Option.map_map, Function.comp_def]
  refine List.nodup_flatMap.mpr ⟨fun e _ => ?_, hd.imp fun {e e'} hne => ?_⟩
  · refine List.Nodup.filterMap (fun m m' pair hm hm' => ?_) (by decide)
    obtain ⟨_, -, rfl⟩ := Option.map_eq_some_iff.mp hm
    obtain ⟨_, -, h⟩ := Option.map_eq_some_iff.mp hm'
    exact (congrArg Prod.fst h).symm
  · intro pair h h'
    obtain ⟨m, -, h⟩ := List.mem_filterMap.mp h
    obtain ⟨_, -, rfl⟩ := Option.map_eq_some_iff.mp h
    obtain ⟨m', -, h'⟩ := List.mem_filterMap.mp h'
    obtain ⟨_, -, h'⟩ := Option.map_eq_some_iff.mp h'
    exact hne (congrArg Prod.snd h').symm

lemma Makes.route {pair : Method × String} {op : Operation} (h : Makes d o pair op) :
    (op.method, op.path) = (pair.1, Route.normalize pair.2) := by
  obtain ⟨item, -, h⟩ := h
  obtain ⟨decl, -, h⟩ := Option.map_eq_some_iff.mp h
  obtain ⟨inherited, -, hb⟩ := outcome_eq_ok_iff.mp h
  obtain ⟨r, -, rfl⟩ := Operation.buildWith_eq_ok_iff.mp hb
  rfl

lemma Makes.route_eq_iff {p q : Method × String} {op op' : Operation} (h : Makes d o p op)
    (h' : Makes d o q op') :
    (op.method, op.path) = (op'.method, op'.path) ↔ p.1 = q.1 ∧ Route.Alike p.2 q.2 := by
  rw [h.route, h'.route, Prod.mk.injEq, Route.normalize_eq_iff]

/-- **Routes.** The operations of a model come from different pairs of a method and a path. Two of them
have one route exactly if their pairs have the same method and alike paths, so all routes are different
exactly if no two pairs are like that. -/
theorem routes_eq_iff {api : Api} (hd : d.paths.Unique) (h : ofDocument d o = .ok api) :
    ∃ pairs, List.Forall₂ (Makes d o) pairs api.operations ∧ pairs.Nodup ∧
      (∀ p q op op', Makes d o p op → Makes d o q op' →
        ((op.method, op.path) = (op'.method, op'.path) ↔ p.1 = q.1 ∧ Route.Alike p.2 q.2)) ∧
      ((api.operations.map fun op => (op.method, op.path)).Nodup ↔
        pairs.Pairwise fun p q => p.1 = q.1 → ¬Route.Alike p.2 q.2) := by
  rw [operations_of_ofDocument h, ← map_snd_made]
  refine ⟨(made d o).map Prod.fst, ?_, nodup_map_fst_made hd, fun _ _ _ _ => Makes.route_eq_iff, ?_⟩
  · rw [List.forall₂_map_left_iff, List.forall₂_map_right_iff, List.forall₂_same]
    exact fun e he => makes_of_mem_made he
  · rw [List.Nodup, List.map_map, List.pairwise_map, List.pairwise_map]
    refine List.Pairwise.iff_of_mem fun {e e'} he he' => ?_
    rw [← not_and]
    exact not_congr ((makes_of_mem_made he).route_eq_iff (makes_of_mem_made he'))

/-- A path with one `get`. -/
def found : PathItem :=
  { pets with post := none }

/-- Two paths that differ in a placeholder only. -/
def petPaths (name : String) : Document :=
  { Operation.bare with
    paths := [("/pets/{pet_id}", found), ("/pets/\x7b" ++ name ++ "\x7d", found)] }

lemma pair_of_makes {name : String} {pair : Method × String} {op : Operation}
    (h : Makes (petPaths name) o pair op) :
    pair = (.get, "/pets/{pet_id}") ∨ pair = (.get, "/pets/\x7b" ++ name ++ "\x7d") := by
  obtain ⟨method, path⟩ := pair
  obtain ⟨item, hitem, h⟩ := h
  have hget : item = found → method = .get := by
    rintro rfl
    obtain ⟨decl, hdecl, -⟩ := Option.map_eq_some_iff.mp h
    cases method <;> first | rfl | cases hdecl
  simp only [petPaths, List.mem_cons, Prod.mk.injEq, List.not_mem_nil, or_false] at hitem
  rcases hitem with ⟨rfl, hitem⟩ | ⟨rfl, hitem⟩
  · exact .inl (by rw [hget hitem])
  · exact .inr (by rw [hget hitem])

theorem routes_eq_iff_on_petPaths :
    let d := petPaths "owner"
    let o := Settings.default.toOptions
    Document.ofText .json d.toJson.toCompact = .ok d ∧ d.paths.Unique ∧
    ∃ api pairs, ofDocument d o = .ok api ∧ List.Forall₂ (Makes d o) pairs api.operations ∧
      pairs.length = 2 ∧ pairs.Nodup ∧
      (api.operations.map fun op => (op.method, op.path)).Nodup := by
  intro d o
  have hread : Document.ofText .json d.toJson.toCompact = .ok d :=
    Document.ofText_json_eq_ok_iff.mpr ⟨⟨_, Json.read_toCompact (by decide), rfl⟩, rfl⟩
  have hunique := unique_paths_of_ofText hread
  have hrun : ∃ api, ofDocument d o = .ok api ∧ api.operations.length = 2 := ⟨_, rfl, rfl⟩
  obtain ⟨api, hrun, hlength⟩ := hrun
  obtain ⟨pairs, hpairs, hnodup, -, hroutes⟩ := routes_eq_iff hunique hrun
  refine ⟨hread, hunique, api, pairs, hrun, hpairs, hpairs.length_eq.trans hlength, hnodup, ?_⟩
  have hdiffer : ¬Route.Alike "/pets/{pet_id}" "/pets/{owner}" := by
    intro halike
    have hnames := (Route.alike_of_placeholder_iff "/pets/".toList "pet_id".toList "owner".toList
      (by decide) (by decide) (by decide)).mp halike
    exact absurd hnames (by decide +kernel)
  have hpair : ∀ p ∈ pairs, p = (.get, "/pets/{pet_id}") ∨ p = (.get, "/pets/{owner}") := by
    intro p hp
    obtain ⟨i, hi⟩ := List.mem_iff_getElem?.mp hp
    obtain ⟨op, -, hmakes⟩ := hpairs.exists_getElem? hi
    exact pair_of_makes hmakes
  refine hroutes.mpr (hnodup.imp_of_mem fun {p q} hp hq hne _ => ?_)
  rcases hpair p hp with rfl | rfl <;> rcases hpair q hq with rfl | rfl
  · exact absurd rfl hne
  · exact hdiffer
  · exact fun halike => hdiffer halike.symm
  · exact absurd rfl hne

/-- Two spellings of one placeholder give one route to two operations. -/
theorem routes_agree_on_petPaths :
    let d := petPaths "petId"
    Document.ofText .json d.toJson.toCompact = .ok d ∧
    ∃ api, ofDocument d Settings.default.toOptions = .ok api ∧ api.operations.length = 2 ∧
      ¬(api.operations.map fun op => (op.method, op.path)).Nodup := by
  intro d
  have hread : Document.ofText .json d.toJson.toCompact = .ok d :=
    Document.ofText_json_eq_ok_iff.mpr ⟨⟨_, Json.read_toCompact (by decide), rfl⟩, rfl⟩
  refine ⟨hread, _, rfl, rfl, ?_⟩
  have halike : Route.Alike "/pets/{pet_id}" "/pets/{petId}" :=
    (Route.alike_of_placeholder_iff "/pets/".toList "pet_id".toList "petId".toList
      (by decide) (by decide) (by decide)).mpr (by decide +kernel)
  have hpath : Route.normalize "/pets/{pet_id}" = Route.normalize "/pets/{petId}" :=
    Route.normalize_eq_iff.mpr halike
  show ¬[(Method.get, Route.normalize "/pets/{pet_id}"),
    (Method.get, Route.normalize "/pets/{petId}")].Nodup
  rw [hpath]
  exact fun h => (List.nodup_cons.mp h).1 List.mem_cons_self

end ApiOperations.Api
