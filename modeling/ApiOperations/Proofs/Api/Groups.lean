import ApiOperations.Proofs.Api.Policy
import ApiOperations.Proofs.Places
import ApiOperations.Proofs.Summary

/-!
The three groupings. Each of them shares out the operations of a model: by the name of the service,
each on its own, or by the first literal segment of the path. So a summary has every operation once,
whatever the grouping.
-/

namespace ApiOperations

open ApiOperations.Description (Document PathItem)

/-! ### Groups -/

namespace Group

/-- The groups share out the places of a list of `n` members. -/
structure Partition (n : Nat) (gs : List Group) : Prop where
  perm : (gs.flatMap (·.members)).Perm (List.range n)
  ascending : ∀ g ∈ gs, g.members.Pairwise (· < ·)
  nonempty : ∀ g ∈ gs, g.members ≠ []

/-- The two places are in one group. -/
def Together (gs : List Group) (i j : Nat) : Prop :=
  ∃ g ∈ gs, i ∈ g.members ∧ j ∈ g.members

end Group

namespace PlacesByKey

variable {κ : Type} [DecidableEq κ] {ks : List κ} {t : List (κ × List Nat)} {gs : List Group}
  (h : PlacesByKey ks t) (hgs : gs.map (·.members) = t.map Prod.snd)
include h hgs

/-- Groups that hold what the entries hold. -/
lemma partition : Group.Partition ks.length gs := by
  have hentry : ∀ g ∈ gs, ∃ e ∈ t, e.2 = g.members := by
    intro g hg
    have hmem : g.members ∈ t.map Prod.snd := hgs ▸ List.mem_map_of_mem hg
    exact List.mem_map.mp hmem
  constructor
  · rw [List.flatMap_def, hgs, ← List.flatMap_def]
    exact h.perm_range
  · intro g hg
    obtain ⟨e, he, heq⟩ := hentry g hg
    exact heq ▸ h.ascending he
  · intro g hg
    obtain ⟨e, he, heq⟩ := hentry g hg
    exact heq ▸ h.ne_nil he

lemma together_groups_iff {i j : Nat} {k l : κ} (hi : ks[i]? = some k) (hj : ks[j]? = some l) :
    Group.Together gs i j ↔ k = l := by
  have hgroups : Group.Together gs i j ↔ ∃ is ∈ gs.map (·.members), i ∈ is ∧ j ∈ is := by
    simp only [Group.Together, List.mem_map, exists_exists_and_eq_and]
  rw [hgroups, hgs, ← h.together_iff hi hj]
  simp only [List.mem_map, exists_exists_and_eq_and]

end PlacesByKey

/-! ### Services -/

namespace Api

/-- The PascalCase names of the groups ascend. -/
def Ascending (gs : List Group) : Prop :=
  gs.Pairwise fun g g' => g.name.pascal < g'.name.pascal

/-- The groups as entries for their PascalCase names. -/
def byName (gs : List Group) : List (String × List Nat) :=
  gs.map fun g => (g.name.pascal, g.members)

variable {service : Name} {i : Nat} {gs : List Group}

lemma name_of_mem_addToService {g : Group} (h : g ∈ addToService service i gs) :
    g.name = service ∨ ∃ g' ∈ gs, g.name = g'.name := by
  induction gs with
  | nil => exact .inl (by rw [List.mem_singleton.mp h])
  | cons g' gs ih =>
    rw [addToService] at h
    split_ifs at h
    · rcases List.mem_cons.mp h with rfl | h
      · exact .inl rfl
      · exact .inr ⟨g, h, rfl⟩
    · rcases List.mem_cons.mp h with rfl | h
      · exact .inr ⟨g', List.mem_cons_self, rfl⟩
      · exact .inr ⟨g, List.mem_cons_of_mem g' h, rfl⟩
    · rcases List.mem_cons.mp h with rfl | h
      · exact .inr ⟨g, List.mem_cons_self, rfl⟩
      · exact (ih h).imp_right fun ⟨g'', hg'', heq⟩ => ⟨g'', List.mem_cons_of_mem g' hg'', heq⟩

lemma Ascending.addToService (h : Ascending gs) : Ascending (addToService service i gs) := by
  induction gs with
  | nil => exact List.pairwise_singleton _ _
  | cons g gs ih =>
    obtain ⟨hg, hgs⟩ := List.pairwise_cons.mp h
    rw [Api.addToService]
    split_ifs with hlt heq
    · refine List.pairwise_cons.mpr ⟨List.forall_mem_cons.mpr ⟨hlt, fun g' hg' => ?_⟩, h⟩
      exact hlt.trans (hg g' hg')
    · exact List.pairwise_cons.mpr ⟨hg, hgs⟩
    · refine List.pairwise_cons.mpr ⟨fun g' hg' => ?_, ih hgs⟩
      rcases name_of_mem_addToService hg' with hname | ⟨g'', hg'', hname⟩
      · rw [hname]
        exact lt_of_le_of_ne (not_lt.mp hlt) (Ne.symm heq)
      · rw [hname]
        exact hg g'' hg''

lemma puts_addToService (h : Ascending gs) :
    Puts service.pascal i (byName gs) (byName (addToService service i gs)) := by
  induction gs with
  | nil => exact .new (List.forall_mem_nil _) (.refl _)
  | cons g gs ih =>
    obtain ⟨hg, hgs⟩ := List.pairwise_cons.mp h
    rw [addToService]
    split_ifs with hlt heq
    · refine .new ?_ (.refl _)
      -- all names are greater than the new one
      refine List.forall_mem_map.mpr (List.forall_mem_cons.mpr ⟨hlt.ne', fun g' hg' => ?_⟩)
      exact (hlt.trans (hg g' hg')).ne'
    · rw [heq]
      exact .old g.members (byName gs) (.refl _) (.refl _)
    · exact (ih hgs).cons (Ne.symm heq)

/-- The service groups hold the places of the services, in the order of their names. -/
lemma services_spec (ops : List Operation) :
    PlacesByKey (ops.map (·.service.pascal)) (byName (services ops)) ∧ Ascending (services ops) := by
  refine List.foldl_zipIdx_induction (P := fun (ops : List Operation) (gs : List Group) =>
    PlacesByKey (ops.map (·.service.pascal)) (byName gs) ∧ Ascending gs) ?_ ?_ ops
  · exact ⟨.nil, .nil⟩
  · rintro ops gs op ⟨hplaces, hgs⟩
    rw [List.map_append, List.map_singleton]
    refine ⟨hplaces.puts ?_, hgs.addToService⟩
    rw [List.length_map]
    exact puts_addToService hgs

end Api

/-! ### Routes -/

namespace Grouping

/-- The segment is empty or begins with a placeholder. -/
def Silent (s : List Char) : Prop :=
  s = [] ∨ s.head? = some '{'

/-- The first segment of the path that is not silent is the key; if there is none the key is
`default`. -/
inductive Leads (path : String) : String → Prop
  | segment (before after : List (List Char)) (s : List Char)
      (h : path.toList.splitOn '/' = before ++ s :: after) (hs : ¬Silent s)
      (hbefore : ∀ b ∈ before, Silent b) : Leads path (String.ofList s)
  | silent (h : ∀ s ∈ path.toList.splitOn '/', Silent s) : Leads path "default"

lemma speaks_iff {s : List Char} : (!s.isEmpty && s.head? != some '{') = true ↔ ¬Silent s := by
  simp [Silent]

lemma leads_iff {path key : String} : Leads path key ↔ routeKey path = key := by
  constructor
  · intro h
    rw [routeKey]
    cases h with
    | segment before after s h hs hbefore =>
      have hsilent : ∀ b ∈ before, (!(!b.isEmpty && b.head? != some '{')) = true := by
        intro b hb
        rw [Bool.not_eq_true', ← Bool.not_eq_true, speaks_iff, not_not]
        exact hbefore b hb
      have hfind : (path.toList.splitOn '/').find? (fun s => !s.isEmpty && s.head? != some '{') =
          some s :=
        List.find?_eq_some_iff_append.mpr ⟨speaks_iff.mpr hs, before, after, h, hsilent⟩
      rw [hfind]
    | silent h =>
      have hfind := List.find?_eq_none.mpr fun s hs hspeaks => speaks_iff.mp hspeaks (h s hs)
      rw [hfind]
  · rintro rfl
    rw [routeKey]
    split
    · next s hfind =>
      obtain ⟨hs, before, after, h, hbefore⟩ := List.find?_eq_some_iff_append.mp hfind
      refine .segment before after s h (speaks_iff.mp hs) fun b hb => ?_
      have hsilent := hbefore b hb
      rwa [Bool.not_eq_true', ← Bool.not_eq_true, speaks_iff, not_not] at hsilent
    · next hfind =>
      refine .silent fun s hs => ?_
      have hsilent := List.find?_eq_none.mp hfind s hs
      rwa [speaks_iff, not_not] at hsilent

variable {key : String} {i : Nat} {t : Table (List Nat)}

lemma addToRoute_cases (key : String) (i : Nat) (t : Table (List Nat)) :
    (∃ before is after, t = before ++ (key, is) :: after ∧
      addToRoute key i t = before ++ (key, is ++ [i]) :: after) ∨
    (∀ e ∈ t, e.1 ≠ key) ∧ addToRoute key i t = t ++ [(key, [i])] := by
  induction t with
  | nil => exact .inr ⟨List.forall_mem_nil _, rfl⟩
  | cons e t ih =>
    obtain ⟨k, is⟩ := e
    rw [addToRoute]
    split_ifs with hk
    · subst hk
      exact .inl ⟨[], is, t, rfl, rfl⟩
    · rcases ih with ⟨before, js, after, rfl, heq⟩ | ⟨hne, heq⟩
      · exact .inl ⟨(k, is) :: before, js, after, rfl, by rw [heq]; rfl⟩
      · exact .inr ⟨List.forall_mem_cons.mpr ⟨hk, hne⟩, by rw [heq]; rfl⟩

lemma puts_addToRoute (key : String) (i : Nat) (t : Table (List Nat)) :
    Puts key i t (addToRoute key i t) := by
  rcases addToRoute_cases key i t with ⟨before, is, after, rfl, heq⟩ | ⟨hne, heq⟩
  · rw [heq]
    exact .old is (before ++ after) List.perm_middle List.perm_middle
  · rw [heq]
    exact .new hne (List.perm_append_singleton _ _)

/-- The entries stand in the order of their first places. -/
def InOrder (t : Table (List Nat)) : Prop :=
  t.Pairwise fun e e' => StartsBefore e.2 e'.2

/-- A place after all others keeps the order. -/
lemma InOrder.addToRoute (h : InOrder t) (hne : ∀ e ∈ t, e.2 ≠ [])
    (hlt : ∀ e ∈ t, ∀ j ∈ e.2, j < i) : InOrder (addToRoute key i t) := by
  have hlast : ∀ e ∈ t, ∃ j ∈ e.2, j < i := by
    intro e he
    obtain ⟨j, hj⟩ := List.exists_mem_of_ne_nil e.2 (hne e he)
    exact ⟨j, hj, hlt e he j hj⟩
  rcases addToRoute_cases key i t with ⟨before, is, after, rfl, heq⟩ | ⟨-, heq⟩
  · rw [heq]
    obtain ⟨hbefore, hrest, hcross⟩ := List.pairwise_append.mp h
    obtain ⟨hkey, hafter⟩ := List.pairwise_cons.mp hrest
    refine List.pairwise_append.mpr ⟨hbefore, List.pairwise_cons.mpr ⟨?_, hafter⟩, ?_⟩
    · intro e he j hj
      obtain ⟨m, hm, hmj⟩ := hkey e he j hj
      exact ⟨m, List.mem_append_left [i] hm, hmj⟩
    · intro e he
      obtain ⟨hmid, hpast⟩ := List.forall_mem_cons.mp (hcross e he)
      refine List.forall_mem_cons.mpr ⟨fun j hj => ?_, hpast⟩
      rcases List.mem_append.mp hj with hj | hj
      · exact hmid j hj
      · rw [List.mem_singleton.mp hj]
        exact hlast e (List.mem_append_left _ he)
  · rw [heq]
    refine List.pairwise_append.mpr ⟨h, List.pairwise_singleton _ _, fun e he e' he' j hj => ?_⟩
    rw [List.mem_singleton.mp he', List.mem_singleton] at hj
    rw [hj]
    exact hlast e he

/-- The entries of the route keys hold their places, in the order of first appearance. -/
lemma routes_spec (ops : List Operation) :
    PlacesByKey (ops.map fun op => routeKey op.path) (routes ops) ∧ InOrder (routes ops) := by
  refine List.foldl_zipIdx_induction (P := fun (ops : List Operation) t =>
    PlacesByKey (ops.map fun op => routeKey op.path) t ∧ InOrder t) ?_ ?_ ops
  · exact ⟨.nil, .nil⟩
  · rintro ops t op ⟨hplaces, ht⟩
    rw [List.map_append, List.map_singleton]
    refine ⟨hplaces.puts ?_, ht.addToRoute (fun e he => hplaces.ne_nil he) fun e he j hj => ?_⟩
    · rw [List.length_map]
      exact puts_addToRoute _ _ t
    · have hlt := hplaces.lt_length he hj
      rwa [List.length_map] at hlt

end Grouping

/-! ### All groupings -/

namespace Api

variable {d : Document} {o : Options} {api : Api}

lemma modules_of_ofDocument (h : ofDocument d o = .ok api) :
    api.modules = services api.operations := by
  obtain ⟨g, -, ⟨⟩⟩ := Except.bind_eq_ok_iff.mp h
  rfl

lemma members_byName (gs : List Group) : gs.map (·.members) = (byName gs).map Prod.snd := by
  rw [byName, List.map_map]
  rfl

lemma members_routes (t : Table (List Nat)) :
    (t.map fun e => Group.mk (Name.ofString e.1) e.2).map (·.members) = t.map Prod.snd := by
  rw [List.map_map]
  rfl

/-- Groups of one operation each. -/
lemma groups_operation : Grouping.operation.groups api =
    api.operations.zipIdx.map fun e => ⟨e.1.name, [e.2]⟩ := rfl

lemma partition_groups (h : ofDocument d o = .ok api) (grouping : Grouping) :
    Group.Partition api.operations.length (grouping.groups api) := by
  cases grouping with
  | service =>
    have hservices := (services_spec api.operations).1.partition (members_byName _)
    rw [List.length_map, ← modules_of_ofDocument h] at hservices
    exact hservices
  | operation =>
    rw [groups_operation]
    constructor
    · rw [List.flatMap_map, ← List.map_eq_flatMap, List.zipIdx_map_snd, List.range_eq_range']
    · exact List.forall_mem_map.mpr fun e _ => List.pairwise_singleton _ _
    · exact List.forall_mem_map.mpr fun e _ => List.cons_ne_nil _ _
  | route =>
    have hroutes := (Grouping.routes_spec api.operations).1.partition (members_routes _)
    rw [List.length_map] at hroutes
    exact hroutes

variable {i j : Nat} {op op' : Operation}

lemma together_service_iff (h : ofDocument d o = .ok api) (hi : api.operations[i]? = some op)
    (hj : api.operations[j]? = some op') :
    Group.Together (Grouping.service.groups api) i j ↔ op.service.pascal = op'.service.pascal := by
  rw [Grouping.groups, modules_of_ofDocument h]
  refine (services_spec api.operations).1.together_groups_iff (members_byName _) ?_ ?_
  · rw [List.getElem?_map, hi, Option.map_some]
  · rw [List.getElem?_map, hj, Option.map_some]

lemma together_operation_iff (hi : api.operations[i]? = some op) :
    Group.Together (Grouping.operation.groups api) i j ↔ i = j := by
  rw [groups_operation, Group.Together]
  constructor
  · rintro ⟨g, hg, hig, hjg⟩
    obtain ⟨e, -, rfl⟩ := List.mem_map.mp hg
    rw [List.mem_singleton.mp hig, List.mem_singleton.mp hjg]
  · rintro rfl
    have hmem : (op, i) ∈ api.operations.zipIdx := List.mem_zipIdx_iff_getElem?.mpr hi
    exact ⟨_, List.mem_map_of_mem hmem, List.mem_cons_self, List.mem_cons_self⟩

lemma together_route_iff (hi : api.operations[i]? = some op) (hj : api.operations[j]? = some op') :
    Group.Together (Grouping.route.groups api) i j ↔
      ∃ key, Grouping.Leads op.path key ∧ Grouping.Leads op'.path key := by
  have hkeys : Group.Together (Grouping.route.groups api) i j ↔
      Grouping.routeKey op.path = Grouping.routeKey op'.path := by
    refine (Grouping.routes_spec api.operations).1.together_groups_iff (members_routes _) ?_ ?_
    · rw [List.getElem?_map, hi, Option.map_some]
    · rw [List.getElem?_map, hj, Option.map_some]
  simp only [hkeys, Grouping.leads_iff, exists_eq_left']
  exact eq_comm

/-- A summary has every operation once. -/
lemma entries_perm (h : ofDocument d o = .ok api) (grouping : Grouping) :
    (Summary.entries (Summary.ofApi api grouping)).Perm (api.operations.map Summary.operation) := by
  let shown := fun i : Nat => api.operations[i]?.map Summary.operation
  calc Summary.entries (Summary.ofApi api grouping)
      = ((grouping.groups api).flatMap (·.members)).filterMap shown :=
        Summary.entries_ofApi api grouping
    List.Perm _ ((List.range api.operations.length).filterMap shown) :=
        (partition_groups h grouping).perm.filterMap shown
    _ = api.operations.map Summary.operation :=
        List.filterMap_getElem?_range api.operations Summary.operation

/-- **Groupings.** Each grouping shares out the operations of a model. The service groups are in the
order of their names, and the operations of a group have the same service; the route groups are in the
order of their first operations, and the paths of a group have the same first literal segment. The
summary of the model has every operation once under each grouping. -/
theorem groupings_of_ofDocument (h : ofDocument d o = .ok api) :
    (∀ grouping : Grouping, Group.Partition api.operations.length (grouping.groups api)) ∧
    Grouping.service.groups api = api.modules ∧
    Ascending api.modules ∧
    (Grouping.route.groups api).Pairwise (fun g g' => StartsBefore g.members g'.members) ∧
    (∀ (i j : Nat) (op op' : Operation),
      api.operations[i]? = some op → api.operations[j]? = some op' →
        (Group.Together api.modules i j ↔ op.service.pascal = op'.service.pascal) ∧
        (Group.Together (Grouping.operation.groups api) i j ↔ i = j) ∧
        (Group.Together (Grouping.route.groups api) i j ↔
          ∃ key, Grouping.Leads op.path key ∧ Grouping.Leads op'.path key)) ∧
    ∀ grouping : Grouping,
      (Summary.entries (Summary.ofApi api grouping)).Perm
        (api.operations.map Summary.operation) := by
  refine ⟨partition_groups h, rfl, ?_, ?_, fun i j op op' hi hj => ⟨?_, ?_, ?_⟩, entries_perm h⟩
  · rw [modules_of_ofDocument h]
    exact (services_spec api.operations).2
  · exact List.pairwise_map.mpr (Grouping.routes_spec api.operations).2
  · exact together_service_iff h hi hj
  · exact together_operation_iff hi
  · exact together_route_iff hi hj

/-- Two operations of one service on two paths, and between them one of another service. -/
def market : Document :=
  let trade := { Operation.search with tags := ["shop"] }
  let feed := { Operation.search with tags := ["animals"] }
  { Operation.bare with
    paths := [("/pets", ⟨[], some trade, some feed, none, none, none, none, none, none⟩),
      ("/{city}/stock", ⟨[], some trade, none, none, none, none, none, none, none⟩)] }

theorem groupings_of_market :
    ∃ api, ofDocument market Settings.default.toOptions = .ok api ∧
      (api.operations.map fun op => (op.service.pascal, op.path)) =
        [("Shop", "/pets"), ("Animals", "/pets"), ("Shop", "/{city}/stock")] ∧
      (∀ grouping : Grouping, Group.Partition 3 (grouping.groups api)) ∧
      api.modules.map (fun g => (g.name.pascal, g.members)) = [("Animals", [1]), ("Shop", [0, 2])] ∧
      Ascending api.modules ∧
      (Grouping.route.groups api).map (fun g => (g.name.pascal, g.members)) =
        [("Pets", [0, 1]), ("Stock", [2])] ∧
      (Grouping.route.groups api).Pairwise (fun g g' => StartsBefore g.members g'.members) ∧
      Group.Together api.modules 0 2 ∧ ¬Group.Together (Grouping.route.groups api) 0 2 ∧
      ∀ grouping : Grouping,
        (Summary.entries (Summary.ofApi api grouping)).Perm
          (api.operations.map Summary.operation) := by
  have hrun : ∃ api op₀ op₁ op₂, ofDocument market Settings.default.toOptions = .ok api ∧
      api.operations = [op₀, op₁, op₂] ∧
      (op₀.service.pascal, op₀.path) = ("Shop", "/pets") ∧
      (op₁.service.pascal, op₁.path) = ("Animals", "/pets") ∧
      (op₂.service.pascal, op₂.path) = ("Shop", "/{city}/stock") ∧
      api.modules.map (fun g => (g.name.pascal, g.members)) = [("Animals", [1]), ("Shop", [0, 2])] ∧
      (Grouping.route.groups api).map (fun g => (g.name.pascal, g.members)) =
        [("Pets", [0, 1]), ("Stock", [2])] :=
    ⟨_, _, _, _, rfl, rfl, by decide +kernel, by decide +kernel, by decide +kernel,
      by decide +kernel, by decide +kernel⟩
  obtain ⟨api, op₀, op₁, op₂, hrun, hops, h₀, h₁, h₂, hmodules, hroutes⟩ := hrun
  obtain ⟨hpartition, -, hservices, hbefore, htogether, hentries⟩ := groupings_of_ofDocument hrun
  rw [hops] at hpartition
  obtain ⟨hservice, -, hroute⟩ := htogether 0 2 op₀ op₂ (by rw [hops]; rfl) (by rw [hops]; rfl)
  refine ⟨api, hrun, ?_, hpartition, hmodules, hservices, hroutes, hbefore, ?_, ?_, hentries⟩
  · rw [hops, List.map_cons, List.map_cons, List.map_singleton, h₀, h₁, h₂]
  · rw [hservice, (Prod.mk.inj h₀).1, (Prod.mk.inj h₂).1]
  · rw [hroute, (Prod.mk.inj h₀).2, (Prod.mk.inj h₂).2]
    rintro ⟨key, hpets, hstock⟩
    have hpets : "pets" = key := by rw [← Grouping.leads_iff.mp hpets]; decide +kernel
    have hstock : "stock" = key := by rw [← Grouping.leads_iff.mp hstock]; decide +kernel
    exact absurd (hpets.trans hstock.symm) (by decide)

end Api

end ApiOperations
