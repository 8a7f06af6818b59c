import Mathlib.Data.List.Basic
import Mathlib.Data.List.Forall2
import Mathlib.Data.List.Nodup
import ApiOperations.Model.Response.Classification
import ApiOperations.Proofs.Except

/-!
Responses split into results and errors.

Every entry of a response table describes one outcome, and the outcomes are told apart by their
status alone. Splitting them loses none and repeats none, and sorting keeps the entries of one status
in the order of declaration. So a status occurs as often in the results and the errors together as
keys of the table spell it.
-/

namespace ApiOperations

open ApiOperations.Description (Document)

/-! ### Sorting by status -/

namespace Status

lemma le_iff {s t : Status} : s.le t ↔
    s.rank.1 < t.rank.1 ∨ s.rank.1 = t.rank.1 ∧
      (s.rank.2.1 < t.rank.2.1 ∨ s.rank.2.1 = t.rank.2.1 ∧ s.rank.2.2 ≤ t.rank.2.2) := by
  simp [le]

lemma le_refl (s : Status) : s.le s := by
  simp [le_iff]

lemma le_trans {s t u : Status} (hst : s.le t) (htu : t.le u) : s.le u := by
  rw [le_iff] at *
  omega

lemma le_total (s t : Status) : s.le t || t.le s := by
  rw [Bool.or_eq_true, le_iff, le_iff]
  omega

variable {α : Type} (status : α → Status)

/-- The list sorted by a status of its members. -/
def sort (xs : List α) : List α :=
  xs.mergeSort fun a b => (status a).le (status b)

lemma sort_perm (xs : List α) : (sort status xs).Perm xs :=
  List.mergeSort_perm _ _

lemma pairwise_sort (xs : List α) :
    (sort status xs).Pairwise fun a b => (status a).le (status b) := by
  refine List.pairwise_mergeSort ?_ ?_ xs
  · exact fun a b c => le_trans
  · exact fun a b => le_total _ _

/-- Sorting leaves the members of one status in their order. -/
lemma filter_sort (s : Status) (xs : List α) :
    (sort status xs).filter (status · = s) = xs.filter (status · = s) := by
  have hpair : (xs.filter (status · = s)).Pairwise fun a b => (status a).le (status b) := by
    refine List.pairwise_of_forall_mem_list fun a ha b hb => ?_
    have ha := of_decide_eq_true (List.mem_filter.mp ha).2
    have hb := of_decide_eq_true (List.mem_filter.mp hb).2
    rw [ha, hb]
    exact s.le_refl
  have hsub : (xs.filter (status · = s)).Sublist (sort status xs) := by
    refine List.sublist_mergeSort ?_ ?_ hpair List.filter_sublist
    · exact fun a b c => le_trans
    · exact fun a b => le_total _ _
  have hsub := hsub.filter (status · = s)
  rw [List.filter_filter] at hsub
  simp only [Bool.and_self] at hsub
  exact (hsub.eq_of_length ((sort_perm status xs).filter _).length_eq.symm).symm

/-- What holds of all members in their order still holds, after sorting, of those of one status. -/
lemma pairwise_sort_of_pairwise {R : α → α → Prop} {xs : List α} (h : xs.Pairwise R) :
    (sort status xs).Pairwise fun a b =>
      (status a).le (status b) ∧ (status a = status b → R a b) := by
  refine List.pairwise_iff_forall_sublist.mpr fun {a b} hab => ?_
  refine ⟨List.pairwise_iff_forall_sublist.mp (pairwise_sort status xs) hab, fun hstatus => ?_⟩
  -- the two are members of one status, and these are left where they were
  have hab := hab.filter (status · = status b)
  rw [filter_sort] at hab
  simp only [List.filter_cons, List.filter_nil, hstatus, decide_true, if_true] at hab
  exact List.pairwise_iff_forall_sublist.mp h (hab.trans List.filter_sublist)

end Status

namespace Responses

/-! ### What a table describes -/

section Description

variable (d : Document)

/-- The entry of a response table describes the outcome: the key spells the status, and all else is
that of the response which the node leads to. -/
structure Describes (entry : String × Node Description.Response) (o : Outcome) : Prop where
  status : Status.ofKey? entry.1 = some o.status
  response : ∃ r, d.response entry.2 = .ok r ∧ contentType d r = .ok (o.type, o.mediaType) ∧
    o.description = r.description.bind Text.documentation ∧
    o.header = r.headers.head?.map Prod.fst
  dependencies : o.dependencies = o.type.dependencies

variable {d}

lemma ofEntry_eq_ok_iff {key : String} {node : Node Description.Response} {o : Outcome} :
    ofEntry d key node = .ok o ↔ Describes d (key, node) o := by
  unfold ofEntry
  cases hkey : Status.ofKey? key with
  | none =>
    constructor
    · rintro ⟨⟩
    · intro h
      cases hkey.symm.trans h.status
  | some s =>
    constructor
    · intro h
      obtain ⟨_, ⟨⟩, h⟩ := Except.bind_eq_ok_iff.mp h
      obtain ⟨r, hr, h⟩ := Except.bind_eq_ok_iff.mp h
      obtain ⟨⟨t, m⟩, ht, ⟨⟩⟩ := Except.bind_eq_ok_iff.mp h
      exact ⟨hkey, ⟨r, hr, ht, rfl, rfl⟩, rfl⟩
    · obtain ⟨s', t, m, description, dependencies, header⟩ := o
      rintro ⟨hs, ⟨r, hr, ht, hd, hh⟩, hdeps⟩
      cases hkey.symm.trans hs
      dsimp only at hr ht hd hh hdeps
      subst hd hh hdeps
      exact Except.bind_eq_ok_iff.mpr ⟨_, rfl, Except.bind_eq_ok_iff.mpr
        ⟨r, hr, Except.bind_eq_ok_iff.mpr ⟨_, ht, rfl⟩⟩⟩

lemma outcomes_eq_ok_iff {t : Table (Node Description.Response)} {os : List Outcome} :
    outcomes d t = .ok os ↔ List.Forall₂ (Describes d) t os := by
  induction t generalizing os with
  | nil => simp [outcomes, eq_comm]
  | cons entry rest ih =>
    obtain ⟨key, node⟩ := entry
    rw [List.forall₂_cons_left_iff]
    simp only [← ofEntry_eq_ok_iff, ← ih, outcomes]
    cases ofEntry d key node with
    | error f => simp
    | ok o =>
      simp only [Except.bind_eq_ok_iff, Except.ok.injEq, pure, Except.pure]
      constructor
      · rintro ⟨os', hos', rfl⟩
        exact ⟨o, os', rfl, hos', rfl⟩
      · rintro ⟨_, os', rfl, hos', rfl⟩
        exact ⟨os', hos', rfl⟩

/-- The outcomes of a table have the statuses that its keys spell. -/
lemma map_status_of_forall₂ {t : Table (Node Description.Response)} {os : List Outcome}
    (h : List.Forall₂ (Describes d) t os) :
    t.map (fun e => Status.ofKey? e.1) = (os.map (·.status)).map some := by
  induction h with
  | nil => rfl
  | cons he _ ih => rw [List.map_cons, List.map_cons, List.map_cons, he.status, ih]

end Description

/-! ### What a split does -/

/-- What an error keeps of an outcome. -/
def errorOf (o : Outcome) : ErrorResponse :=
  ⟨o.status, o.description⟩

variable (isError : Status → Bool) (os : List Outcome)

lemma results_split : (split isError os).results =
    Status.sort Outcome.status (os.filter fun o => !isError o.status) :=
  rfl

lemma errors_split : (split isError os).errors =
    Status.sort ErrorResponse.status ((os.filter fun o => isError o.status).map errorOf) :=
  rfl

variable {isError os}

lemma isError_of_mem_results {o : Outcome} (h : o ∈ (split isError os).results) :
    isError o.status = false := by
  rw [results_split, (Status.sort_perm _ _).mem_iff] at h
  simpa using (List.mem_filter.mp h).2

lemma isError_of_mem_errors {e : ErrorResponse} (h : e ∈ (split isError os).errors) :
    isError e.status = true := by
  rw [errors_split, (Status.sort_perm _ _).mem_iff] at h
  obtain ⟨o, ho, rfl⟩ := List.mem_map.mp h
  exact (List.mem_filter.mp ho).2

variable (isError os)

/-- Results and errors together have the statuses of the outcomes. -/
lemma map_status_split_perm :
    ((split isError os).results.map (·.status) ++ (split isError os).errors.map (·.status)).Perm
      (os.map (·.status)) := by
  have hr := (Status.sort_perm Outcome.status (os.filter fun o => !isError o.status)).map
    Outcome.status
  have he := (Status.sort_perm ErrorResponse.status
    ((os.filter fun o => isError o.status).map errorOf)).map ErrorResponse.status
  rw [List.map_map] at he
  refine (hr.append he).trans (List.perm_append_comm.trans ?_)
  have hos := (List.filter_append_perm (fun o : Outcome => isError o.status) os).map
    Outcome.status
  rwa [List.map_append] at hos

/-- The results and the errors of a table, next to the outcomes that its entries describe. -/
structure Partition (d : Document) (t : Table (Node Description.Response)) (c : Classified) :
    Prop where
  /-- Each entry describes one outcome. -/
  described : List.Forall₂ (Describes d) t os
  results : c.results.Perm (os.filter fun o => !isError o.status)
  errors : c.errors.Perm ((os.filter fun o => isError o.status).map errorOf)
  /-- The statuses are those that the keys spell. -/
  statuses : ((c.results.map (·.status) ++ c.errors.map (·.status)).map some).Perm
    (t.map fun e => Status.ofKey? e.1)
  disjoint : (c.results.map (·.status)).Disjoint (c.errors.map (·.status))
  results_sorted : c.results.Pairwise fun a b => a.status.le b.status
  errors_sorted : c.errors.Pairwise fun a b => a.status.le b.status
  /-- The entries of one status are all on one side, in the order of the table. -/
  results_stable : ∀ s, isError s = false →
    c.results.filter (·.status = s) = os.filter (·.status = s)
  errors_stable : ∀ s, isError s = true →
    c.errors.filter (·.status = s) = (os.filter (·.status = s)).map errorOf

variable {isError os} {d : Document} {t : Table (Node Description.Response)} {c : Classified}

lemma classify_eq_ok_iff : classify d isError t = .ok c ↔
    ∃ os, List.Forall₂ (Describes d) t os ∧ split isError os = c := by
  simp only [← outcomes_eq_ok_iff]
  exact Except.map_eq_ok_iff

/-- A document with one reusable response. -/
def catalog : Document :=
  ⟨some "3.0.3", none, ⟨"Catalog", none, "1"⟩, [], [],
    some ⟨[("problem", .inline Description.Schema.empty)],
      [("Missing", .inline ⟨some " not found\n", none,
        [("text/plain", ⟨none⟩), ("application/json", ⟨some (.ref "#/components/schemas/problem")⟩)],
        []⟩)], [], []⟩, none, none, [], [], [], []⟩

/-- A response with nothing but a text. -/
def said (text : String) : Node Description.Response :=
  .inline ⟨some text, none, [], []⟩

/-- Keys that are written as their statuses are displayed spell different statuses if they differ. -/
lemma nodup_ofKey?_of_display {ks : List String} (hnodup : ks.Nodup)
    (h : ∀ k ∈ ks, (Status.ofKey? k).map Status.display = some k) :
    (ks.map Status.ofKey?).Nodup := by
  refine hnodup.map_on fun k hk l hl hkl => ?_
  have hk := h k hk
  rw [hkl, h l hl] at hk
  exact (Option.some.inj hk).symm

/-- **One entry for each status.** No status occurs twice among results and errors if and only if no
two keys of the table spell the same one. Keys that differ do so if each is written as its status is
displayed. -/
theorem nodup_status_iff (h : classify d isError t = .ok c) :
    ((c.results.map (·.status) ++ c.errors.map (·.status)).Nodup ↔
      (t.map fun e => Status.ofKey? e.1).Nodup) ∧
    (t.names.Nodup → (∀ k ∈ t.names, (Status.ofKey? k).map Status.display = some k) →
      (c.results.map (·.status) ++ c.errors.map (·.status)).Nodup) := by
  obtain ⟨os, hos, rfl⟩ := classify_eq_ok_iff.mp h
  have hkeys : (t.map fun e => Status.ofKey? e.1).Nodup ↔ (os.map (·.status)).Nodup := by
    rw [map_status_of_forall₂ hos, List.nodup_map_iff (fun _ _ => Option.some.inj)]
  rw [(map_status_split_perm isError os).nodup_iff, ← hkeys]
  refine ⟨Iff.rfl, fun hnames hdisplay => ?_⟩
  have hnodup := nodup_ofKey?_of_display hnames hdisplay
  rwa [Table.names, List.map_map] at hnodup

theorem nodup_status_of_displayed :
    let t := [("4XX", said "client"), ("200", said "fine"), ("default", said "other")]
    ∃ c, classify catalog (Status.le (.code 400)) t = .ok c ∧
      (t.map fun e => Status.ofKey? e.1).Nodup ∧ (Table.names t).Nodup ∧
      (∀ k ∈ Table.names t, (Status.ofKey? k).map Status.display = some k) ∧
      (c.results.map (·.status) ++ c.errors.map (·.status)).Nodup := by
  intro t
  have h : classify catalog (Status.le (.code 400)) t = .ok _ := rfl
  have hnames : (Table.names t).Nodup := by decide +kernel
  have hdisplay : ∀ k ∈ Table.names t, (Status.ofKey? k).map Status.display = some k := by
    decide +kernel
  have hnodup := (nodup_status_iff h).2 hnames hdisplay
  exact ⟨_, h, (nodup_status_iff h).1.mp hnodup, hnames, hdisplay, hnodup⟩

/-- Keys that differ may spell one status, and then it has two results. -/
theorem two_results_of_one_status :
    let t := [("200", said "fine"), ("0200", said "fine")]
    (Table.names t).Nodup ∧ ∃ c, classify catalog (fun _ => false) t = .ok c ∧
      ¬(c.results.map (·.status)).Nodup := by
  intro t
  have h : classify catalog (fun _ => false) t = .ok _ := rfl
  refine ⟨by decide +kernel, _, h, fun hnodup => ?_⟩
  rw [results_split, ((Status.sort_perm Outcome.status _).map Outcome.status).nodup_iff] at hnodup
  exact absurd hnodup (by decide +kernel)

end Responses
end ApiOperations
