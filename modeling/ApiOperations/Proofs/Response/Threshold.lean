import Mathlib.Data.List.Basic
import ApiOperations.Proofs.Operation.ResponseOrder

/-!
Errors from a lowest code on.

Responses could as well be sorted before they are split: whatever the test for errors, results and
errors are what it leaves of one sorted list. So a test that finds fewer errors leaves more results and
takes none away. A threshold cuts the sorted list, the default aside, and its cut moves up with the
lowest code of an error.
-/

namespace ApiOperations

open ApiOperations.Description (Document)

/-! ### Sorting and choosing -/

namespace Status

variable {α : Type} {status : α → Status} {xs ys : List α}

lemma mem_iff_of_filter_eq (h : ∀ s, xs.filter (status · = s) = ys.filter (status · = s)) (a : α) :
    a ∈ xs ↔ a ∈ ys := by
  have hfilter : a ∈ xs.filter (status · = status a) ↔ a ∈ ys.filter (status · = status a) := by
    rw [h]
  simpa using hfilter

/-- A sorted list is told by its members of each status. -/
lemma eq_of_filter_eq (hxs : xs.Pairwise fun a b => (status a).le (status b))
    (hys : ys.Pairwise fun a b => (status a).le (status b))
    (h : ∀ s, xs.filter (status · = s) = ys.filter (status · = s)) : xs = ys := by
  induction xs generalizing ys with
  | nil =>
    cases ys with
    | nil => rfl
    | cons y ys =>
      exact absurd ((mem_iff_of_filter_eq h y).mpr List.mem_cons_self) List.not_mem_nil
  | cons x xs ih =>
    have hmem := mem_iff_of_filter_eq h
    cases ys with
    | nil => exact absurd ((hmem x).mp List.mem_cons_self) List.not_mem_nil
    | cons y ys =>
      obtain ⟨hx, hxs'⟩ := List.pairwise_cons.mp hxs
      obtain ⟨hy, hys'⟩ := List.pairwise_cons.mp hys
      have hyx : (status y).le (status x) := by
        rcases List.mem_cons.mp ((hmem x).mp List.mem_cons_self) with rfl | hx
        · exact le_refl _
        · exact hy x hx
      have hxy : (status x).le (status y) := by
        rcases List.mem_cons.mp ((hmem y).mpr List.mem_cons_self) with rfl | hy
        · exact le_refl _
        · exact hx y hy
      have hstatus : status x = status y := le_antisymm hxy hyx
      -- the two heads have one status, so each is the first of it in its list
      have hheads := h (status y)
      rw [List.filter_cons_of_pos (by simpa using hstatus), List.filter_cons_of_pos (by simp)]
        at hheads
      obtain ⟨rfl, -⟩ := List.cons.inj hheads
      have htails : ∀ s, xs.filter (status · = s) = ys.filter (status · = s) := by
        intro s
        have hs := h s
        by_cases hx : status x = s
        · simpa [hx] using hs
        · simpa [hx] using hs
      rw [ih hxs' hys' htails]

/-- Sorting and then choosing comes to choosing and then sorting. -/
lemma filter_sort_comm (p : α → Bool) (xs : List α) :
    (sort status xs).filter p = sort status (xs.filter p) := by
  refine eq_of_filter_eq ((pairwise_sort status xs).filter p) (pairwise_sort status _) fun s => ?_
  have hswap : ∀ zs : List α, (zs.filter p).filter (status · = s) =
      (zs.filter (status · = s)).filter p := by
    intro zs
    rw [List.filter_filter, List.filter_filter]
    simp only [Bool.and_comm]
  calc ((sort status xs).filter p).filter (status · = s)
    _ = ((sort status xs).filter (status · = s)).filter p := hswap _
    _ = (xs.filter (status · = s)).filter p := by rw [filter_sort]
    _ = (xs.filter p).filter (status · = s) := (hswap xs).symm
    _ = (sort status (xs.filter p)).filter (status · = s) := (filter_sort status s _).symm

end Status

/-! ### Results and errors in one sorted list -/

namespace Responses

variable {isError isError' : Status → Bool} {os : List Outcome}

lemma results_eq_filter_sort : (split isError os).results =
    (Status.sort Outcome.status os).filter fun o => !isError o.status := by
  rw [results_split, Status.filter_sort_comm]

lemma errors_eq_filter_sort : (split isError os).errors =
    ((Status.sort Outcome.status os).filter fun o => isError o.status).map errorOf := by
  rw [errors_split, Status.filter_sort_comm]
  exact (List.map_mergeSort (f := errorOf) fun _ _ _ _ => rfl).symm

/-- A test that finds fewer errors leaves more results. -/
lemma results_sublist_of_imp (h : ∀ s, isError' s = true → isError s = true) :
    (split isError os).results.Sublist (split isError' os).results := by
  rw [results_eq_filter_sort, results_eq_filter_sort]
  refine List.monotone_filter_right _ fun o ho => ?_
  have hmore := h o.status
  simp only [Bool.not_eq_true'] at ho ⊢
  by_contra herror
  rw [hmore (by simpa using herror)] at ho
  cases ho

lemma errors_sublist_of_imp (h : ∀ s, isError' s = true → isError s = true) :
    (split isError' os).errors.Sublist (split isError os).errors := by
  rw [errors_eq_filter_sort, errors_eq_filter_sort]
  exact (List.monotone_filter_right _ fun o => h o.status).map errorOf

end Responses

/-! ### Thresholds -/

namespace Status

/-- The one status comes strictly before the other. -/
def Before (s t : Status) : Prop :=
  s.le t ∧ ¬t.le s

lemma rank_fst {s : Status} (h : s ≠ .default) : s.rank.1 = 0 := by
  cases s with
  | code n => rfl
  | hundred d => rfl
  | default => exact absurd rfl h

namespace Threshold

variable {s t : Status}

/-- A status is an error from its lowest code on, the default aside. -/
lemma isError_iff (θ : Threshold) (hs : s ≠ .default) :
    θ.isError s = true ↔ θ.floor ≤ s.rank.2.1 := by
  cases s with
  | code n => simp [isError, rank]
  | hundred d => simp [isError, rank]
  | default => exact absurd rfl hs

/-- What comes after an error is an error, the default aside. -/
lemma isError_of_le (θ : Threshold) (hs : s ≠ .default) (ht : t ≠ .default) (hle : s.le t)
    (h : θ.isError s = true) : θ.isError t = true := by
  rw [isError_iff θ hs] at h
  rw [isError_iff θ ht]
  rw [le_iff, rank_fst hs, rank_fst ht] at hle
  omega

lemma before_of_isError (θ : Threshold) (hs : s ≠ .default) (ht : t ≠ .default)
    (hresult : θ.isError s = false) (herror : θ.isError t = true) : s.Before t := by
  have hnot : ¬t.le s := fun hle => by
    rw [θ.isError_of_le ht hs hle herror] at hresult
    cases hresult
  have htotal := le_total s t
  rw [Bool.or_eq_true] at htotal
  exact ⟨htotal.resolve_right hnot, hnot⟩

/-- A higher floor makes no further errors. -/
lemma isError_of_floor_le {f g : Nat} (hfg : f ≤ g) (defaultIsError : Bool)
    (h : (Threshold.mk g defaultIsError).isError s = true) :
    (Threshold.mk f defaultIsError).isError s = true := by
  by_cases hs : s = .default
  · subst hs
    exact h
  · rw [isError_iff _ hs] at h ⊢
    exact hfg.trans h

end Threshold
end Status

namespace Responses

variable {d : Document} {isError : Status → Bool} {t : Table (Node Description.Response)}
  {c : Classified}

/-- The default aside, every result comes strictly before every error. -/
def Cut (c : Classified) : Prop :=
  ∀ r ∈ c.results, ∀ e ∈ c.errors, r.status ≠ .default → e.status ≠ .default →
    r.status.Before e.status

lemma cut_split (θ : Status.Threshold) (os : List Outcome) : Cut (split θ.isError os) :=
  fun _ hr _ he hrdefault hedefault =>
    θ.before_of_isError hrdefault hedefault (isError_of_mem_results hr) (isError_of_mem_errors he)

/-- **Thresholds.** A table that is classified at all is classified under every threshold, and the
threshold cuts it: exact codes and hundreds among the results come strictly before those among the
errors. With a higher floor the same results are there in the same order, perhaps with others between
them, and the errors are among those that there were. -/
theorem threshold_cuts (h : classify d isError t = .ok c) {f g : Nat} (hfg : f ≤ g)
    (defaultIsError : Bool) :
    ∃ low high, classify d (Status.Threshold.mk f defaultIsError).isError t = .ok low ∧
      classify d (Status.Threshold.mk g defaultIsError).isError t = .ok high ∧
      low.results.Sublist high.results ∧ high.errors.Sublist low.errors ∧ Cut low ∧ Cut high := by
  obtain ⟨os, hos, -⟩ := classify_eq_ok_iff.mp h
  have hfewer : ∀ s, (Status.Threshold.mk g defaultIsError).isError s = true →
      (Status.Threshold.mk f defaultIsError).isError s = true := fun s =>
    Status.Threshold.isError_of_floor_le hfg defaultIsError
  exact ⟨_, _, classify_eq_ok_iff.mpr ⟨os, hos, rfl⟩, classify_eq_ok_iff.mpr ⟨os, hos, rfl⟩,
    results_sublist_of_imp hfewer, errors_sublist_of_imp hfewer, cut_split _ os, cut_split _ os⟩

/-- Hundreds beside codes of their own, and the default. -/
def bounds : Table (Node Description.Response) :=
  [("3XX", said "moved"), ("default", said "other"), ("300", said "choose"), ("404", said "missing"),
    ("2XX", said "fine"), ("299", said "odd")]

/-- One floor lies inside a hundred, the other right after the lowest code of the next one. -/
theorem threshold_cuts_bounds :
    ∃ c low high, classify catalog (fun _ => false) bounds = .ok c ∧ 250 ≤ 301 ∧
      classify catalog (Status.Threshold.mk 250 false).isError bounds = .ok low ∧
      classify catalog (Status.Threshold.mk 301 false).isError bounds = .ok high ∧
      low.results.Sublist high.results ∧ high.errors.Sublist low.errors ∧ Cut low ∧ Cut high ∧
      low.results.length = 2 ∧ high.results.length = 5 := by
  have hrun : classify catalog (fun _ => false) bounds = .ok _ := rfl
  have hfloors : 250 ≤ 301 := by decide
  obtain ⟨low, high, hlow, hhigh, hresults, herrors, hcuts⟩ := threshold_cuts hrun hfloors false
  refine ⟨_, low, high, hrun, hfloors, hlow, hhigh, hresults, herrors, hcuts.1, hcuts.2, ?_, ?_⟩
  · cases hlow
    exact (Status.sort_perm Outcome.status _).length_eq
  · cases hhigh
    exact (Status.sort_perm Outcome.status _).length_eq

end Responses

end ApiOperations
