import Mathlib.Data.List.Induction
import Mathlib.Data.List.Nodup
import Mathlib.Data.List.Perm.Basic
import ApiOperations.Proofs.List

/-!
The places of a list, key by key.

A list of keys is gone through, and each place is put into the entry of its key, or into a new entry
if the key has none. In whatever order the entries are kept, in the end each key has one entry, with
all places of the key in ascending order. So the entries share out the places of the list.
-/

namespace List

variable {α β : Type}

/-! ### Places -/

lemma mem_idxsOf_iff [DecidableEq α] {xs : List α} {x : α} {i : Nat} :
    i ∈ xs.idxsOf x ↔ xs[i]? = some x := by
  simp only [mem_idxsOf_iff_exists_getElem_pos, getElem?_eq_some_iff, beq_iff_eq]

lemma idxsOf_concat_self [DecidableEq α] (xs : List α) (x : α) :
    (xs ++ [x]).idxsOf x = xs.idxsOf x ++ [xs.length] := by
  simp [idxsOf_append, idxsOf_cons]

lemma idxsOf_concat_of_ne [DecidableEq α] (xs : List α) {x y : α} (h : y ≠ x) :
    (xs ++ [y]).idxsOf x = xs.idxsOf x := by
  simp [idxsOf_append, idxsOf_cons, h]

/-- A list has its members at the places below its length, in order. -/
lemma filterMap_getElem?_range (xs : List α) (f : α → β) :
    (range xs.length).filterMap (fun i => xs[i]?.map f) = xs.map f := by
  induction xs using List.reverseRecOn with
  | nil => rfl
  | append_singleton xs x ih =>
    have hbefore : ∀ i ∈ range xs.length, (xs ++ [x])[i]?.map f = xs[i]?.map f := by
      intro i hi
      rw [getElem?_append_left (mem_range.mp hi)]
    rw [length_append, length_singleton, range_succ, filterMap_append, map_append,
      filterMap_congr hbefore, ih]
    simp

/-- What holds of a fold over the members with their places, member by member. -/
lemma foldl_zipIdx_induction {σ : Type} {P : List α → σ → Prop} {add : σ → α × Nat → σ} {s : σ}
    (start : P [] s) (step : ∀ xs s x, P xs s → P (xs ++ [x]) (add s (x, xs.length)))
    (xs : List α) : P xs (xs.zipIdx.foldl add s) := by
  induction xs using List.reverseRecOn with
  | nil => exact start
  | append_singleton xs x ih =>
    rw [zipIdx_append, foldl_append, Nat.zero_add]
    exact step xs _ x ih

end List

namespace ApiOperations

variable {κ : Type}

/-- The first of some places comes before all the others. -/
def StartsBefore (is js : List Nat) : Prop :=
  ∀ j ∈ js, ∃ i ∈ is, i < j

/-! ### One step -/

/-- A place is put under a key: into the entry of the key, or into a new one. -/
inductive Puts (k : κ) (i : Nat) (t t' : List (κ × List Nat)) : Prop
  | old (is : List Nat) (rest : List (κ × List Nat)) (h : t.Perm ((k, is) :: rest))
      (h' : t'.Perm ((k, is ++ [i]) :: rest))
  | new (h : ∀ e ∈ t, e.1 ≠ k) (h' : t'.Perm ((k, [i]) :: t))

lemma Puts.cons {k : κ} {i : Nat} {t t' : List (κ × List Nat)} (h : Puts k i t t')
    {e : κ × List Nat} (he : e.1 ≠ k) : Puts k i (e :: t) (e :: t') := by
  cases h with
  | old is rest h h' =>
    exact .old is (e :: rest) ((h.cons e).trans (.swap ..)) ((h'.cons e).trans (.swap ..))
  | new h h' => exact .new (List.forall_mem_cons.mpr ⟨he, h⟩) ((h'.cons e).trans (.swap ..))

/-! ### Whole lists -/

variable [DecidableEq κ] {ks : List κ} {t t' : List (κ × List Nat)}

/-- The entries hold the places of a list of keys, one entry for each key. -/
structure PlacesByKey (ks : List κ) (t : List (κ × List Nat)) : Prop where
  nodup : (t.map Prod.fst).Nodup
  mem_iff : ∀ k, k ∈ t.map Prod.fst ↔ k ∈ ks
  places : ∀ e ∈ t, e.2 = ks.idxsOf e.1

namespace PlacesByKey

lemma nil : PlacesByKey ([] : List κ) [] :=
  ⟨List.nodup_nil, fun _ => Iff.rfl, List.forall_mem_nil _⟩

lemma perm (h : PlacesByKey ks t) (ht : t.Perm t') : PlacesByKey ks t' where
  nodup := (ht.map Prod.fst).nodup_iff.mp h.nodup
  mem_iff k := (ht.map Prod.fst).mem_iff.symm.trans (h.mem_iff k)
  places e he := h.places e (ht.mem_iff.mpr he)

/-- The next place belongs to a key that has an entry. -/
lemma extend {k : κ} {is : List Nat} {rest : List (κ × List Nat)}
    (h : PlacesByKey ks ((k, is) :: rest)) :
    PlacesByKey (ks ++ [k]) ((k, is ++ [ks.length]) :: rest) := by
  obtain ⟨hk, -⟩ := List.nodup_cons.mp h.nodup
  obtain ⟨hplace, hplaces⟩ := List.forall_mem_cons.mp h.places
  refine ⟨h.nodup, fun l => ?_, List.forall_mem_cons.mpr ⟨?_, fun e he => ?_⟩⟩
  · have hmem : k ∈ ks := (h.mem_iff k).mp List.mem_cons_self
    rw [List.mem_append, List.mem_singleton, ← h.mem_iff l]
    constructor
    · exact .inl
    · rintro (hl | rfl)
      · exact hl
      · exact (h.mem_iff l).mpr hmem
  · rw [List.idxsOf_concat_self, ← hplace]
  · have hne : k ≠ e.1 := by
      intro heq
      have hmem : e.1 ∈ rest.map Prod.fst := List.mem_map_of_mem he
      exact hk (heq ▸ hmem)
    rw [List.idxsOf_concat_of_ne ks hne]
    exact hplaces e he

/-- The next place belongs to a key that has no entry. -/
lemma add (h : PlacesByKey ks t) {k : κ} (hk : ∀ e ∈ t, e.1 ≠ k) :
    PlacesByKey (ks ++ [k]) ((k, [ks.length]) :: t) := by
  have hentry : k ∉ t.map Prod.fst := by
    intro hmem
    obtain ⟨e, he, heq⟩ := List.mem_map.mp hmem
    exact hk e he heq
  refine ⟨List.nodup_cons.mpr ⟨hentry, h.nodup⟩, fun l => ?_, List.forall_mem_cons.mpr ⟨?_, ?_⟩⟩
  · rw [List.map_cons, List.mem_cons, List.mem_append, List.mem_singleton, h.mem_iff l, or_comm]
  · have hnone : ks.idxsOf k = [] := by
      refine List.eq_nil_iff_forall_not_mem.mpr fun i hi => hentry ?_
      exact (h.mem_iff k).mpr (List.mem_of_getElem? (List.mem_idxsOf_iff.mp hi))
    rw [List.idxsOf_concat_self, hnone, List.nil_append]
  · intro e he
    rw [List.idxsOf_concat_of_ne ks (hk e he).symm]
    exact h.places e he

lemma puts (h : PlacesByKey ks t) {k : κ} (hput : Puts k ks.length t t') :
    PlacesByKey (ks ++ [k]) t' := by
  cases hput with
  | old is rest ht ht' => exact (h.perm ht).extend.perm ht'.symm
  | new hk ht' => exact (h.add hk).perm ht'.symm

/-! ### What the entries hold -/

lemma mem_places_iff (h : PlacesByKey ks t) {e : κ × List Nat} (he : e ∈ t) {i : Nat} :
    i ∈ e.2 ↔ ks[i]? = some e.1 := by
  rw [h.places e he, List.mem_idxsOf_iff]

lemma lt_length (h : PlacesByKey ks t) {e : κ × List Nat} (he : e ∈ t) {i : Nat} (hi : i ∈ e.2) :
    i < ks.length :=
  (List.getElem?_eq_some_iff.mp ((h.mem_places_iff he).mp hi)).1

lemma ascending (h : PlacesByKey ks t) {e : κ × List Nat} (he : e ∈ t) :
    e.2.Pairwise (· < ·) := by
  rw [h.places e he]
  exact List.pairwise_idxsOf

lemma ne_nil (h : PlacesByKey ks t) {e : κ × List Nat} (he : e ∈ t) : e.2 ≠ [] := by
  obtain ⟨i, hi⟩ := List.mem_iff_getElem?.mp ((h.mem_iff e.1).mp (List.mem_map_of_mem he))
  exact List.ne_nil_of_mem ((h.mem_places_iff he).mpr hi)

/-- Every place of the list is in an entry. -/
lemma exists_entry (h : PlacesByKey ks t) {i : Nat} {k : κ} (hi : ks[i]? = some k) :
    ∃ e ∈ t, e.1 = k ∧ i ∈ e.2 := by
  obtain ⟨e, he, rfl⟩ := List.mem_map.mp ((h.mem_iff k).mpr (List.mem_of_getElem? hi))
  exact ⟨e, he, rfl, (h.mem_places_iff he).mpr hi⟩

/-- The entries share out the places. -/
lemma perm_range (h : PlacesByKey ks t) : (t.flatMap Prod.snd).Perm (List.range ks.length) := by
  have hnodup : (t.flatMap Prod.snd).Nodup := by
    refine List.nodup_flatMap.mpr ⟨fun e he => ?_, ?_⟩
    · rw [h.places e he]
      exact List.nodup_idxsOf
    · refine (List.pairwise_map.mp h.nodup).imp_of_mem fun {e e'} he he' hne i hi hi' => hne ?_
      have hkey := (h.mem_places_iff he).mp hi
      have hkey' := (h.mem_places_iff he').mp hi'
      exact Option.some.inj (hkey.symm.trans hkey')
  refine (List.perm_ext_iff_of_nodup hnodup List.nodup_range).mpr fun i => ?_
  rw [List.mem_flatMap, List.mem_range]
  constructor
  · rintro ⟨e, he, hi⟩
    exact h.lt_length he hi
  · intro hi
    obtain ⟨e, he, -, hmem⟩ := h.exists_entry (List.getElem?_eq_getElem hi)
    exact ⟨e, he, hmem⟩

/-- Two places are in one entry exactly if they have the same key. -/
lemma together_iff (h : PlacesByKey ks t) {i j : Nat} {k l : κ} (hi : ks[i]? = some k)
    (hj : ks[j]? = some l) : (∃ e ∈ t, i ∈ e.2 ∧ j ∈ e.2) ↔ k = l := by
  constructor
  · rintro ⟨e, he, hie, hje⟩
    rw [h.mem_places_iff he, hi, Option.some.injEq] at hie
    rw [h.mem_places_iff he, hj, Option.some.injEq] at hje
    exact hie.trans hje.symm
  · rintro rfl
    obtain ⟨e, he, rfl, hie⟩ := h.exists_entry hi
    exact ⟨e, he, hie, (h.mem_places_iff he).mpr hj⟩

end PlacesByKey

end ApiOperations
