import Mathlib.Data.List.Basic
import ApiOperations.Proofs.List
import ApiOperations.Proofs.Operation.ResponseOrder

/-!
The header that an operation surfaces.

A response that is no error and declares headers nominates the first one of them. The results of an
operation come sorted, with one header each at most, so what they name one after another is what the
response table nominates, by status and then by place. The header of the operation is chosen among
these nominations. An error nominates nothing, whatever headers it declares.
-/

namespace ApiOperations

open ApiOperations.Description (Document)

/-! ### Nominations -/

/-- The first header of a response, with the status of the response and its place in the table. -/
structure Nomination where
  status : Status
  place : Nat
  header : String

namespace Nomination

/-- The order of nominations: by status, and by place where the statuses are equal. -/
def Before (m n : Nomination) : Prop :=
  m.status.le n.status ∧ (m.status = n.status → m.place < n.place)

lemma Before.ne {m n : Nomination} (h : m.Before n) : m ≠ n := by
  rintro rfl
  exact Nat.lt_irrefl _ (h.2 rfl)

lemma Before.asymm {m n : Nomination} (h : m.Before n) : ¬n.Before m := by
  intro h'
  have hstatus := Status.le_antisymm h.1 h'.1
  exact Nat.lt_asymm (h.2 hstatus) (h'.2 hstatus.symm)

/-- The header that a policy chooses among nominations: the first one. Where it must be unique, there
is none if they differ. -/
def choose (policy : HeaderPolicy) (ns : List Nomination) : Option String :=
  match policy with
  | .firstWins => ns.head?.map (·.header)
  | .requireUnique =>
    if ∀ m ∈ ns, ∀ n ∈ ns, m.header = n.header then ns.head?.map (·.header) else none

/-- A header that every nomination names is chosen under any policy. -/
lemma choose_of_forall {policy : HeaderPolicy} {ns : List Nomination} {header : String}
    (hne : ns ≠ []) (h : ∀ n ∈ ns, n.header = header) : choose policy ns = some header := by
  have hhead : ns.head?.map (·.header) = some header := by
    rw [List.head?_eq_some_head hne, Option.map_some, h _ (List.head_mem hne)]
  cases policy with
  | firstWins => exact hhead
  | requireUnique =>
    have hall : ∀ m ∈ ns, ∀ n ∈ ns, m.header = n.header := fun m hm n hn =>
      (h m hm).trans (h n hn).symm
    exact (if_pos hall).trans hhead

end Nomination

namespace Responses

variable (d : Document) (isError : Status → Bool)

/-- A table makes a nomination: the key at its place spells its status, which is no error, and the
response that the node leads to declares its header first. -/
def Nominates (t : Table (Node Description.Response)) (n : Nomination) : Prop :=
  ∃ key node r, t[n.place]? = some (key, node) ∧ Status.ofKey? key = some n.status ∧
    isError n.status = false ∧ d.response node = .ok r ∧
    r.headers.head?.map Prod.fst = some n.header

/-- All nominations that a table makes, in their order. -/
structure Nominations (t : Table (Node Description.Response)) (ns : List Nomination) : Prop where
  mem_iff : ∀ n, n ∈ ns ↔ Nominates d isError t n
  ordered : ns.Pairwise Nomination.Before

variable {d isError} {t u : Table (Node Description.Response)} {ms ns : List Nomination}

lemma Nominations.nodup (h : Nominations d isError t ns) : ns.Nodup :=
  h.ordered.imp Nomination.Before.ne

/-- The order leaves nothing open. -/
lemma Nominations.unique (hm : Nominations d isError t ms) (hn : Nominations d isError t ns) :
    ms = ns := by
  have hperm : ms.Perm ns := by
    refine (List.perm_ext_iff_of_nodup hm.nodup hn.nodup).mpr fun n => ?_
    rw [hm.mem_iff, hn.mem_iff]
  exact hperm.eq_of_pairwise (fun _ _ _ _ h h' => (h.asymm h').elim) hm.ordered hn.ordered

/-- Two entries have the same key, and unless the key spells an error, the same response. -/
def SameUnlessError (isError : Status → Bool) (e e' : String × Node Description.Response) : Prop :=
  e.1 = e'.1 ∧ (e.2 = e'.2 ∨ ∃ s, Status.ofKey? e.1 = some s ∧ isError s = true)

lemma SameUnlessError.symm {e e' : String × Node Description.Response}
    (h : SameUnlessError isError e e') : SameUnlessError isError e' e := by
  obtain ⟨hkey, hnode⟩ := h
  exact ⟨hkey.symm, hnode.imp Eq.symm fun ⟨s, hs, he⟩ => ⟨s, hkey ▸ hs, he⟩⟩

lemma Nominates.of_sameUnlessError {n : Nomination}
    (h : List.Forall₂ (SameUnlessError isError) t u) (hn : Nominates d isError t n) :
    Nominates d isError u n := by
  obtain ⟨key, node, r, hentry, hkey, hstatus, hr, hheader⟩ := hn
  obtain ⟨⟨key', node'⟩, hentry', rfl, hnode⟩ := h.exists_getElem? hentry
  rcases hnode with rfl | ⟨s, hs, he⟩
  · exact ⟨_, _, r, hentry', hkey, hstatus, hr, hheader⟩
  · -- the entry is no error, as its status is that of a nomination
    cases hkey.symm.trans hs
    rw [hstatus] at he
    cases he

lemma Nominations.of_sameUnlessError (h : List.Forall₂ (SameUnlessError isError) t u)
    (hn : Nominations d isError t ns) : Nominations d isError u ns := by
  have hback : List.Forall₂ (SameUnlessError isError) u t :=
    h.flip.imp fun _ _ => SameUnlessError.symm
  refine ⟨fun n => (hn.mem_iff n).trans ?_, hn.ordered⟩
  exact ⟨Nominates.of_sameUnlessError h, Nominates.of_sameUnlessError hback⟩

/-! ### What results name -/

/-- The nomination of an outcome with its place. -/
def nomination? (e : Outcome × Nat) : Option Nomination :=
  e.1.header.map fun header => ⟨e.1.status, e.2, header⟩

/-- The nominations of outcomes, found by sorting these with their places. -/
def nominations (isError : Status → Bool) (os : List Outcome) : List Nomination :=
  (Status.sort (fun e => e.1.status) (os.zipIdx.filter fun e => !isError e.1.status)).filterMap
    nomination?

variable {os : List Outcome}

/-- Sorting outcomes with their places sorts the outcomes. -/
lemma map_fst_sort_zipIdx :
    (Status.sort (fun e => e.1.status) (os.zipIdx.filter fun e => !isError e.1.status)).map
      Prod.fst = (split isError os).results := by
  have hfilter : (os.zipIdx.filter fun e => !isError e.1.status).map Prod.fst =
      os.filter fun o => !isError o.status := by
    rw [← List.zipIdx_map_fst 0 os, List.filter_map, List.zipIdx_map_fst]
    rfl
  rw [results_split, ← hfilter]
  exact List.map_mergeSort fun _ _ _ _ => rfl

lemma map_header_nominations :
    (nominations isError os).map (·.header) =
      (split isError os).results.filterMap (·.header) := by
  rw [← map_fst_sort_zipIdx, List.filterMap_map, nominations, List.map_filterMap]
  refine List.filterMap_congr fun e _ => ?_
  simp [nomination?, Function.comp_def]

lemma mem_nominations {n : Nomination} :
    n ∈ nominations isError os ↔ ∃ o, os[n.place]? = some o ∧ isError o.status = false ∧
      o.status = n.status ∧ o.header = some n.header := by
  obtain ⟨status, place, header⟩ := n
  simp only [nominations, List.mem_filterMap, (Status.sort_perm _ _).mem_iff, List.mem_filter,
    List.mem_zipIdx_iff_getElem?, nomination?, Option.map_eq_some_iff, Nomination.mk.injEq,
    Bool.not_eq_true', Prod.exists]
  constructor
  · rintro ⟨o, i, ⟨ho, he⟩, h, hh, rfl, rfl, rfl⟩
    exact ⟨o, ho, he, rfl, hh⟩
  · rintro ⟨o, ho, he, rfl, hh⟩
    exact ⟨o, place, ⟨ho, he⟩, header, hh, rfl, rfl, rfl⟩

lemma pairwise_nominations : (nominations isError os).Pairwise Nomination.Before := by
  have hplaces : os.zipIdx.Pairwise fun e e' => e.2 < e'.2 := by
    rw [← List.pairwise_map (f := Prod.snd), List.zipIdx_map_snd]
    exact List.pairwise_lt_range'
  refine (Status.pairwise_sort_of_pairwise _ (hplaces.filter _)).filterMap _ ?_
  intro e e' hee' m hm n hn
  obtain ⟨_, -, rfl⟩ := Option.map_eq_some_iff.mp hm
  obtain ⟨_, -, rfl⟩ := Option.map_eq_some_iff.mp hn
  exact hee'

/-- The outcomes of a table make the nominations of the table. -/
lemma nominations_of_forall₂ (h : List.Forall₂ (Describes d) t os) :
    Nominations d isError t (nominations isError os) := by
  refine ⟨fun n => mem_nominations.trans ?_, pairwise_nominations⟩
  constructor
  · rintro ⟨o, ho, he, hs, hh⟩
    obtain ⟨⟨key, node⟩, hentry, hdescribes⟩ := h.flip.exists_getElem? ho
    obtain ⟨r, hr, -, -, hheader⟩ := hdescribes.response
    exact ⟨key, node, r, hentry, hs ▸ hdescribes.status, hs ▸ he, hr, hheader ▸ hh⟩
  · rintro ⟨key, node, r, hentry, hkey, he, hr, hh⟩
    obtain ⟨o, ho, hdescribes⟩ := h.exists_getElem? hentry
    have hs : o.status = n.status := Option.some.inj (hdescribes.status.symm.trans hkey)
    obtain ⟨r', hr', -, -, hheader⟩ := hdescribes.response
    cases hr.symm.trans hr'
    exact ⟨o, ho, hs ▸ he, hs, hheader.trans hh⟩

end Responses

/-! ### The header of an operation -/

namespace Operation

/-- The header of an operation is chosen among what its results name. -/
lemma selectHeader_eq_choose (policy : HeaderPolicy) {results : List Outcome}
    {ns : List Nomination} (h : results.filterMap (·.header) = ns.map (·.header)) :
    selectHeader policy results = Nomination.choose policy ns := by
  unfold selectHeader Nomination.choose
  rw [h]
  cases ns with
  | nil => cases policy <;> rfl
  | cons n ns =>
    have hall : (ns.map (·.header)).all (· == n.header) ↔
        ∀ m ∈ n :: ns, ∀ m' ∈ n :: ns, m.header = m'.header := by
      simp only [List.all_map, List.all_eq_true, Function.comp_apply, beq_iff_eq]
      constructor
      · intro hn m hm m' hm'
        have heq : ∀ k ∈ n :: ns, k.header = n.header := List.forall_mem_cons.mpr ⟨rfl, hn⟩
        rw [heq m hm, heq m' hm']
      · intro hn m hm
        exact hn m (List.mem_cons_of_mem n hm) n List.mem_cons_self
    cases policy with
    | firstWins =>
      simp only [List.map_cons, List.head?_cons, Option.map_some, ite_self]
    | requireUnique =>
      simp only [List.map_cons, List.head?_cons, Option.map_some]
      exact if_congr hall rfl rfl

variable {d : Document} {o : Options} {isError : Status → Bool} {path : String} {method : Method}
  {op : Description.Operation} {inherited : ParameterTable} {built : Operation}

lemma exists_nominations (h : buildWith d o isError path method op inherited = .ok built) :
    ∃ ns, Responses.Nominations d isError op.responses ns ∧
      built.responseHeader = Nomination.choose o.headerPolicy ns := by
  obtain ⟨r, hr, rfl⟩ := buildWith_eq_ok_iff.mp h
  have hos := Responses.outcomes_eq_ok_iff.mp (resolve_eq_ok_iff.mp hr).2.2
  exact ⟨_, Responses.nominations_of_forall₂ hos,
    selectHeader_eq_choose _ Responses.map_header_nominations.symm⟩

/-- **Header.** An operation surfaces the header that the policy chooses among the nominations of its
response table. Other headers of errors, or other errors, would not change it. -/
theorem responseHeader_eq_choose (h : buildWith d o isError path method op inherited = .ok built) :
    ∃ ns, Responses.Nominations d isError op.responses ns ∧
      built.responseHeader = Nomination.choose o.headerPolicy ns ∧
      ∀ (op' : Description.Operation) (built' : Operation),
        List.Forall₂ (Responses.SameUnlessError isError) op.responses op'.responses →
        buildWith d o isError path method op' inherited = .ok built' →
        built'.responseHeader = built.responseHeader := by
  obtain ⟨ns, hns, hheader⟩ := exists_nominations h
  refine ⟨ns, hns, hheader, fun op' built' hsame h' => ?_⟩
  obtain ⟨ns', hns', hheader'⟩ := exists_nominations h'
  rw [hheader', hheader, (hns.of_sameUnlessError hsame).unique hns']

/-- A response with headers and nothing else. -/
def headed (names : List String) : Node Description.Response :=
  .inline ⟨none, none, [], names.map (·, .null)⟩

/-- An operation whose results name the same header and whose error names the given ones. -/
def create (reasons : List String) : Description.Operation :=
  ⟨none, none, none, [], [], none,
    [("default", headed ["Location"]), ("404", headed reasons),
      ("0201", headed ["Location", "X-Rate"]), ("200", headed [])], none⟩

/-- The error is no nomination, and the last result has no header. -/
lemma header_of_nominates_create {reasons : List String} {n : Nomination}
    (h : Responses.Nominates store Settings.default.toOptions.threshold.isError
      (create reasons).responses n) : n.header = "Location" := by
  obtain ⟨status, place, header⟩ := n
  obtain ⟨key, node, r, hentry, hkey, hstatus, hr, hheader⟩ := h
  match place with
  | 0 | 2 =>
    cases hentry
    cases hr
    exact (Option.some.inj hheader).symm
  | 1 =>
    cases hentry
    have h404 : Status.ofKey? "404" = some (.code 404) := by decide +kernel
    cases h404.symm.trans hkey
    cases hstatus
  | 3 =>
    cases hentry
    cases hr
    cases hheader
  | _ + 4 => cases hentry

theorem responseHeader_of_create :
    let o := { Settings.default.toOptions with headerPolicy := .requireUnique }
    ∃ built ns,
      buildWith store o o.threshold.isError "/pets" .post (create ["X-Reason"]) .empty =
        .ok built ∧
      Responses.Nominations store o.threshold.isError (create ["X-Reason"]).responses ns ∧
      ⟨.code 201, 2, "Location"⟩ ∈ ns ∧ built.responseHeader = some "Location" ∧
      List.Forall₂ (Responses.SameUnlessError o.threshold.isError)
        (create ["X-Reason"]).responses (create []).responses ∧
      ∃ built', buildWith store o o.threshold.isError "/pets" .post (create []) .empty =
        .ok built' ∧ built'.responseHeader = some "Location" := by
  intro o
  have hruns : ∀ reasons, ∃ built,
      buildWith store o o.threshold.isError "/pets" .post (create reasons) .empty = .ok built :=
    fun _ => ⟨_, rfl⟩
  obtain ⟨built, hb⟩ := hruns ["X-Reason"]
  obtain ⟨built', hb'⟩ := hruns []
  obtain ⟨ns, hns, hchoose, hframe⟩ := responseHeader_eq_choose hb
  have hmem : ⟨.code 201, 2, "Location"⟩ ∈ ns :=
    (hns.mem_iff _).mpr ⟨_, _, _, rfl, by decide +kernel, by decide, rfl, rfl⟩
  have hheader : built.responseHeader = some "Location" :=
    hchoose.trans (Nomination.choose_of_forall (List.ne_nil_of_mem hmem) fun n hn =>
      header_of_nominates_create ((hns.mem_iff n).mp hn))
  have hsame : List.Forall₂ (Responses.SameUnlessError o.threshold.isError)
      (create ["X-Reason"]).responses (create []).responses :=
    .cons ⟨rfl, .inl rfl⟩ (.cons ⟨rfl, .inr ⟨.code 404, by decide +kernel, by decide⟩⟩
      (.cons ⟨rfl, .inl rfl⟩ (.cons ⟨rfl, .inl rfl⟩ .nil)))
  exact ⟨built, ns, hb, hns, hmem, hheader, hsame, built', hb',
    (hframe _ built' hsame hb').trans hheader⟩

end Operation

end ApiOperations
