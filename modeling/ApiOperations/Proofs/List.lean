import Mathlib.Data.List.Basic
import Mathlib.Data.List.Forall2

/-!
Ways through a list. A partial function is run over the members, which gives a result for all of
them or none; or the members are put one by one into a list that is kept in some form; or two lists
are gone through side by side; or a stretch is taken from the front.
-/

namespace List

variable {α β γ : Type}

/-! ### Runs -/

/-- What a run over a list gives comes from its members. -/
lemma exists_mem_of_mapM_eq_some {f : α → Option β} {xs : List α} {ys : List β}
    (h : xs.mapM f = some ys) {y : β} (hy : y ∈ ys) : ∃ x ∈ xs, f x = some y := by
  induction xs generalizing ys with
  | nil =>
    cases h
    cases hy
  | cons x xs ih =>
    rw [mapM_cons] at h
    obtain ⟨z, hz, h⟩ := Option.bind_eq_some_iff.mp h
    obtain ⟨zs, hzs, ⟨⟩⟩ := Option.bind_eq_some_iff.mp h
    rcases mem_cons.mp hy with rfl | hy
    · exact ⟨x, mem_cons_self, hz⟩
    · obtain ⟨w, hw, hwy⟩ := ih hzs hy
      exact ⟨w, mem_cons_of_mem x hw, hwy⟩

lemma mapM_map_eq_some {f : β → Option γ} {g : α → β} {h : α → γ} {xs : List α}
    (hf : ∀ x ∈ xs, f (g x) = some (h x)) : (xs.map g).mapM f = some (xs.map h) := by
  induction xs with
  | nil => rfl
  | cons x xs ih =>
    obtain ⟨hx, hxs⟩ := forall_mem_cons.mp hf
    rw [map_cons, mapM_cons, hx, ih hxs]
    rfl

lemma mapM_map_eq_self {f : β → Option α} {g : α → β} {xs : List α}
    (hf : ∀ x ∈ xs, f (g x) = some x) : (xs.map g).mapM f = some xs := by
  have hrun := mapM_map_eq_some (h := id) hf
  rwa [map_id] at hrun

/-! ### Putting members into a list -/

variable {insert : List α → α → List α} {acc xs : List α}

lemma mem_of_mem_foldl (hinsert : ∀ l a, ∀ b ∈ insert l a, b = a ∨ b ∈ l) {b : α}
    (hb : b ∈ xs.foldl insert acc) : b ∈ acc ∨ b ∈ xs := by
  induction xs generalizing acc with
  | nil => exact .inl hb
  | cons x xs ih =>
    rcases ih hb with hb | hb
    · rcases hinsert acc x b hb with rfl | hb
      · exact .inr mem_cons_self
      · exact .inl hb
    · exact .inr (mem_cons_of_mem x hb)

/-- Members that are always put at the end keep their order. -/
lemma foldl_eq_append {R : α → α → Prop}
    (hinsert : ∀ l a, (∀ b ∈ l, R b a) → insert l a = l ++ [a]) (h : (acc ++ xs).Pairwise R) :
    xs.foldl insert acc = acc ++ xs := by
  induction xs generalizing acc with
  | nil => exact (append_nil acc).symm
  | cons x xs ih =>
    have hlast : ∀ b ∈ acc, R b x := fun b hb => (pairwise_append.mp h).2.2 b hb x mem_cons_self
    rw [foldl_cons, hinsert acc x hlast, ih, append_assoc, singleton_append]
    rwa [append_assoc, singleton_append]

lemma foldl_eq_self {R : α → α → Prop}
    (hinsert : ∀ l a, (∀ b ∈ l, R b a) → insert l a = l ++ [a]) (h : xs.Pairwise R) :
    xs.foldl insert [] = xs :=
  foldl_eq_append hinsert (h : ([] ++ xs).Pairwise R)

/-! ### Lists side by side -/

lemma Forall₂.exists_getElem? {R : α → β → Prop} {xs : List α} {ys : List β} (h : Forall₂ R xs ys)
    {i : Nat} {x : α} (hx : xs[i]? = some x) : ∃ y, ys[i]? = some y ∧ R x y := by
  induction h generalizing i with
  | nil => cases hx
  | cons hab _ ih =>
    cases i with
    | zero =>
      cases hx
      exact ⟨_, rfl, hab⟩
    | succ i => exact ih hx

/-- What stands beside two lists in a row falls into two lists as well. -/
lemma Forall₂.exists_append {R : α → β → Prop} {xs xs' : List α} {ys : List β}
    (h : Forall₂ R (xs ++ xs') ys) :
    ∃ zs zs', ys = zs ++ zs' ∧ Forall₂ R xs zs ∧ Forall₂ R xs' zs' := by
  induction xs generalizing ys with
  | nil => exact ⟨[], ys, rfl, .nil, h⟩
  | cons x xs ih =>
    rw [cons_append, forall₂_cons_left_iff] at h
    obtain ⟨y, ys, hxy, h, rfl⟩ := h
    obtain ⟨zs, zs', rfl, hzs, hzs'⟩ := ih h
    exact ⟨y :: zs, zs', rfl, .cons hxy hzs, hzs'⟩

/-! ### Stretches -/

/-- A stretch of members with a property ends where a member without it follows, or none at all. -/
lemma append_inj_of_head {p : α → Bool} {xs xs' ys ys' : List α} (hxs : ∀ x ∈ xs, p x = true)
    (hxs' : ∀ x ∈ xs', p x = true) (hys : ∀ y ∈ ys.head?, p y = false)
    (hys' : ∀ y ∈ ys'.head?, p y = false) (h : xs ++ ys = xs' ++ ys') : xs = xs' ∧ ys = ys' := by
  have hends : ∀ zs : List α, (∀ z ∈ zs.head?, p z = false) → zs.takeWhile p = [] := by
    intro zs hzs
    cases zs with
    | nil => rfl
    | cons z zs => exact takeWhile_cons_of_neg (by simp [hzs z rfl])
  have hstretch : xs = xs' := by
    have hwhile := congrArg (takeWhile p) h
    rwa [takeWhile_append_of_pos hxs, takeWhile_append_of_pos hxs', hends ys hys, hends ys' hys',
      append_nil, append_nil] at hwhile
  subst hstretch
  exact ⟨rfl, append_cancel_left h⟩

end List
