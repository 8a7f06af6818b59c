import ApiOperations.Proofs.List
import ApiOperations.Table

/-!
Tables that come from lists of entries. Such a table has each name once, its values come from the
list, and as a list of entries it gives itself.
-/

namespace ApiOperations.Table

variable {α : Type}

/-- No name stands for two values. -/
def Unique (t : Table α) : Prop :=
  t.Pairwise fun e e' => e.1 ≠ e'.1

lemma Unique.nodup_names {t : Table α} (h : t.Unique) : t.names.Nodup :=
  List.pairwise_map.mpr h

lemma isSome_lookup_iff {t : Table α} {k : String} : (t.lookup k).isSome ↔ k ∈ t.names := by
  simp [List.lookup_isSome_iff, names]

lemma mem_put {t : Table α} {k : String} {v : α} {e : String × α} (h : e ∈ put k v t) :
    e = (k, v) ∨ e ∈ t := by
  induction t with
  | nil => exact .inl (List.mem_singleton.mp h)
  | cons e' t ih =>
    rw [put] at h
    split_ifs at h
    · exact (List.mem_cons.mp h).imp_right (List.mem_cons_of_mem _)
    · rcases List.mem_cons.mp h with rfl | h
      · exact .inr List.mem_cons_self
      · exact (ih h).imp_right (List.mem_cons_of_mem _)

lemma put_of_forall_ne {t : Table α} {k : String} (v : α) (h : ∀ e ∈ t, e.1 ≠ k) :
    put k v t = t ++ [(k, v)] := by
  induction t with
  | nil => rfl
  | cons e t ih =>
    obtain ⟨hk, ht⟩ := List.forall_mem_cons.mp h
    rw [put, if_neg hk, ih ht, List.cons_append]

lemma Unique.put {t : Table α} (h : t.Unique) (k : String) (v : α) : (put k v t).Unique := by
  induction t with
  | nil => exact List.pairwise_singleton _ _
  | cons e t ih =>
    obtain ⟨he, ht⟩ := List.pairwise_cons.mp h
    rw [Table.put]
    split_ifs with hk
    · subst hk
      exact List.pairwise_cons.mpr ⟨he, ht⟩
    · refine List.pairwise_cons.mpr ⟨fun e' he' => ?_, ih ht⟩
      rcases mem_put he' with rfl | he'
      · exact hk
      · exact he e' he'

lemma mem_of_mem_ofEntries {es : List (String × α)} {e : String × α} (h : e ∈ ofEntries es) :
    e ∈ es :=
  (List.mem_of_mem_foldl (fun _ _ _ => mem_put) h).resolve_left List.not_mem_nil

lemma unique_ofEntries (es : List (String × α)) : (ofEntries es).Unique :=
  List.foldlRecOn es _ List.Pairwise.nil fun _ ht e _ => Unique.put ht e.1 e.2

lemma Unique.ofEntries_eq {t : Table α} (h : t.Unique) : ofEntries t = t :=
  List.foldl_eq_self (fun _ e => put_of_forall_ne e.2) h

end ApiOperations.Table
