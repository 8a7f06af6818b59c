import Mathlib.Data.List.Basic
import ApiOperations.Model.Parameter.Table

/-!
Tables of parameters in closed form.

Inserting parameters one after another leaves those that no later one evicts, in the order of
insertion. Two entries that are left never evict one another: their keys differ, and at most one of
them is a body. This, and that every entry stands under its own key, is what an insertion preserves;
from it follows all that the views of a table promise.
-/

namespace ApiOperations

namespace Parameter

/-- Inserting `p` removes `q`. -/
def evicts (p q : Parameter) : Bool :=
  q.key == p.key || (p.isBody && q.isBody)

lemma evicts_iff {p q : Parameter} :
    p.evicts q ↔ p.key = q.key ∨ (p.isBody ∧ q.isBody) := by
  simp only [evicts, Bool.or_eq_true, Bool.and_eq_true, beq_iff_eq]
  rw [eq_comm]

lemma evicts_eq_false_iff {p q : Parameter} :
    p.evicts q = false ↔ p.key ≠ q.key ∧ ¬(p.isBody ∧ q.isBody) := by
  rw [← Bool.not_eq_true, evicts_iff, not_or]

end Parameter

namespace ParameterTable

/-! ### What insertions leave -/

/-- Every entry stands under its own key. -/
def Keyed (t : ParameterTable) : Prop :=
  ∀ e ∈ t.slots, e.1 = e.2.key

lemma keyed_empty : empty.Keyed := by
  simp [Keyed, empty]

lemma mem_slots_insert {t : ParameterTable} {p : Parameter} {e : String × Parameter}
    (he : e ∈ (t.insert p).slots) : e ∈ t.slots ∨ e = (p.key, p) := by
  simp only [insert, List.mem_append, List.mem_singleton] at he
  refine he.imp_left fun he => ?_
  have he := (List.mem_filter.mp he).1
  split at he
  · exact (List.mem_filter.mp he).1
  · exact he

lemma Keyed.insert {t : ParameterTable} (h : t.Keyed) (p : Parameter) : (t.insert p).Keyed := by
  intro e he
  obtain he | rfl := mem_slots_insert he
  · exact h e he
  · rfl

/-- In a table with its entries under their own keys, an insertion removes what it evicts. -/
lemma entries_insert {t : ParameterTable} (h : t.Keyed) (p : Parameter) :
    (t.insert p).entries = t.entries.filter (!p.evicts ·) ++ [p] := by
  simp only [insert, entries, List.map_append, List.map_cons, List.map_nil, List.filter_map]
  congr 2
  cases hp : p.isBody
  · refine List.filter_congr fun e he => ?_
    simp [Parameter.evicts, hp, h e he, bne]
  · simp only [if_true, List.filter_filter]
    refine List.filter_congr fun e he => ?_
    simp only [Parameter.evicts, hp, h e he, bne, Function.comp, Bool.true_and]
    cases e.2.key == p.key <;> cases e.2.isBody <;> rfl

/-- None of the parameters evicts `p`. -/
def spares (later : List Parameter) (p : Parameter) : Bool :=
  later.all fun q => !q.evicts p

lemma spares_iff {later : List Parameter} {p : Parameter} :
    spares later p ↔ ∀ q ∈ later, q.evicts p = false := by
  simp [spares]

@[simp] lemma filter_spares_nil (ps : List Parameter) : ps.filter (spares []) = ps :=
  List.filter_eq_self.mpr fun _ _ => rfl

lemma spares_append (ps qs : List Parameter) (p : Parameter) :
    spares (ps ++ qs) p = (spares ps p && spares qs p) :=
  List.all_append

/-- The parameters of a list that no later one of it evicts. -/
def latest : List Parameter → List Parameter
  | [] => []
  | p :: ps => if spares ps p then p :: latest ps else latest ps

lemma latest_append (ps qs : List Parameter) :
    latest (ps ++ qs) = (latest ps).filter (spares qs) ++ latest qs := by
  induction ps with
  | nil => simp [latest]
  | cons p ps ih =>
    simp only [List.cons_append, latest, spares_append, ih]
    cases hp : spares ps p <;> cases hq : spares qs p <;> simp [hq]

lemma latest_sublist (ps : List Parameter) : (latest ps).Sublist ps := by
  induction ps with
  | nil => exact .slnil
  | cons p ps ih =>
    rw [latest]
    split
    · exact ih.cons_cons p
    · exact ih.cons p

/-- Insertion after insertion keeps what no later parameter evicts. -/
lemma entries_foldl_insert {t : ParameterTable} (h : t.Keyed) (ps : List Parameter) :
    (ps.foldl insert t).entries = t.entries.filter (spares ps) ++ latest ps := by
  induction ps generalizing t with
  | nil => simp [latest]
  | cons p ps ih =>
    rw [List.foldl_cons, ih (h.insert p), entries_insert h]
    have hsplit : t.entries.filter (spares (p :: ps)) =
        (t.entries.filter (!p.evicts ·)).filter (spares ps) := by
      rw [List.filter_filter]
      refine List.filter_congr fun q _ => ?_
      simp [spares, Bool.and_comm]
    rw [hsplit]
    cases hp : spares ps p <;> simp [latest, hp]

/-- The table of a list holds what no later parameter of the list evicts. -/
lemma entries_ofList (ps : List Parameter) : (ofList ps).entries = latest ps := by
  rw [ofList, entries_foldl_insert keyed_empty]
  rfl

/-! ### Entries do not evict one another -/

/-- No parameter of the list evicts another. -/
def Settled (ps : List Parameter) : Prop :=
  ps.Pairwise fun p q => q.evicts p = false

/-- A list that is settled loses nothing when it is inserted. -/
lemma latest_of_settled {ps : List Parameter} (h : Settled ps) : latest ps = ps := by
  induction ps with
  | nil => rfl
  | cons p ps ih =>
    obtain ⟨hp, hps⟩ := List.pairwise_cons.mp h
    rw [latest, if_pos (spares_iff.mpr hp), ih hps]

/-- What every insertion preserves. -/
structure Sound (t : ParameterTable) : Prop where
  keyed : t.Keyed
  settled : Settled t.entries

lemma sound_empty : empty.Sound :=
  ⟨keyed_empty, List.Pairwise.nil⟩

lemma Sound.insert {t : ParameterTable} (h : t.Sound) (p : Parameter) : (t.insert p).Sound := by
  refine ⟨h.keyed.insert p, ?_⟩
  rw [entries_insert h.keyed]
  refine List.pairwise_append.mpr
    ⟨h.settled.filter _, List.pairwise_singleton _ _, fun q hq r hr => ?_⟩
  obtain rfl := List.mem_singleton.mp hr
  simpa using (List.mem_filter.mp hq).2

lemma Sound.foldl_insert {t : ParameterTable} (h : t.Sound) (ps : List Parameter) :
    (ps.foldl ParameterTable.insert t).Sound := by
  induction ps generalizing t with
  | nil => exact h
  | cons p ps ih => exact ih (h.insert p)

/-- The tables that inserting and merging reach from the empty one. -/
inductive Reachable : ParameterTable → Prop
  | empty : Reachable empty
  | insert {t : ParameterTable} : Reachable t → ∀ p, Reachable (t.insert p)
  | merge {t : ParameterTable} : Reachable t → ∀ u, Reachable (t.merge u)

lemma Reachable.sound {t : ParameterTable} (h : t.Reachable) : t.Sound := by
  induction h with
  | empty => exact sound_empty
  | insert _ p ih => exact ih.insert p
  | merge _ u ih => exact ih.foldl_insert u.entries

lemma reachable_ofList (ps : List Parameter) : Reachable (ofList ps) := by
  suffices h : ∀ t, Reachable t → Reachable (ps.foldl ParameterTable.insert t) from h _ .empty
  induction ps with
  | nil => exact fun t ht => ht
  | cons p ps ih => exact fun t ht => ih _ (ht.insert p)

/-! ### Views -/

/-- What a table shows of one location: the entries there, and of bodies the one. -/
def view (t : ParameterTable) : Location → List Parameter
  | .body => t.body?.toList
  | l => t.located l

/-- Every location, in the order in which summaries list them. -/
def locations : List Location :=
  [.path, .query, .form, .header, .cookie, .body]

/-- What holds of every table that is built by inserting and merging. -/
structure Coherent (t : ParameterTable) : Prop where
  keyed : t.Keyed
  /-- An entry is found under its own key and nothing else is. -/
  get?_iff : ∀ k p, t.get? k = some p ↔ p ∈ t.entries ∧ p.key = k
  keys : (t.entries.map Parameter.key).Nodup
  bodies : (t.entries.filter Parameter.isBody).length ≤ 1
  /-- An entry is seen at its own location only. -/
  mem_view : ∀ l p, p ∈ t.view l ↔ p ∈ t.entries ∧ p.location = l
  /-- A view keeps the order of the table. -/
  view_sublist : ∀ l, (t.view l).Sublist t.entries
  /-- The views together hold every entry once. -/
  views_perm : (locations.flatMap t.view).Perm t.entries

lemma Settled.nodup_keys {ps : List Parameter} (h : Settled ps) :
    (ps.map Parameter.key).Nodup := by
  refine List.pairwise_map.mpr (h.imp fun {p q} hpq => ?_)
  exact (Parameter.evicts_eq_false_iff.mp hpq).1.symm

lemma Settled.length_bodies_le {ps : List Parameter} (h : Settled ps) :
    (ps.filter Parameter.isBody).length ≤ 1 := by
  have hb : (ps.filter Parameter.isBody).Pairwise fun _ _ => False := by
    refine List.Pairwise.imp_of_mem (fun {p q} hp hq hpq => ?_) (h.filter _)
    have hp := (List.mem_filter.mp hp).2
    have hq := (List.mem_filter.mp hq).2
    exact (Parameter.evicts_eq_false_iff.mp hpq).2 ⟨hq, hp⟩
  rcases hps : ps.filter Parameter.isBody with _ | ⟨p, _ | ⟨q, qs⟩⟩
  · simp
  · simp
  · rw [hps] at hb
    exact ((List.pairwise_cons.mp hb).1 q (by simp)).elim

lemma Sound.get?_eq_some_iff {t : ParameterTable} (h : t.Sound) {k : String} {p : Parameter} :
    t.get? k = some p ↔ p ∈ t.entries ∧ p.key = k := by
  have hkeys : t.slots.map Prod.fst = t.entries.map Parameter.key := by
    rw [entries, List.map_map]
    exact List.map_congr_left h.keyed
  have hnodup := hkeys ▸ h.settled.nodup_keys
  rw [get?, List.lookup_eq_some_iff]
  constructor
  · rintro ⟨as, bs, hs, -⟩
    have hm : (k, p) ∈ t.slots := by simp [hs]
    exact ⟨List.mem_map_of_mem hm, (h.keyed _ hm).symm⟩
  · rintro ⟨hp, rfl⟩
    obtain ⟨⟨k, q⟩, hm, rfl⟩ := List.mem_map.mp hp
    obtain ⟨as, bs, hs⟩ := List.append_of_mem hm
    have hk : k = q.key := h.keyed _ hm
    refine ⟨as, bs, by rw [hs, hk], fun e he => ?_⟩
    rw [hs, List.map_append, List.map_cons, List.nodup_append] at hnodup
    have hne : e.1 ≠ k := hnodup.2.2 e.1 (List.mem_map_of_mem he) k (by simp)
    exact bne_iff_ne.mpr (hk ▸ hne.symm)

/-- With at most one body, every view is the part of the table at its location. -/
lemma view_eq_filter {t : ParameterTable} (h : (t.entries.filter Parameter.isBody).length ≤ 1)
    (l : Location) : t.view l = t.entries.filter (·.location == l) := by
  cases l with
  | body =>
    have hb : t.entries.filter (·.location == .body) = t.entries.filter Parameter.isBody := rfl
    rw [view, body?, hb, ← List.head?_filter, ← List.take_one, List.take_of_length_le h]
  | _ => rfl

/-- Sorting a list into the values of a function loses and repeats nothing. -/
lemma flatMap_filter_perm {α β : Type} [DecidableEq β] (f : α → β) {bs : List β} (hbs : bs.Nodup)
    {xs : List α} (h : ∀ x ∈ xs, f x ∈ bs) :
    (bs.flatMap fun b => xs.filter (f · == b)).Perm xs := by
  induction bs generalizing xs with
  | nil =>
    have hxs : xs = [] := List.eq_nil_iff_forall_not_mem.mpr fun x hx => by simpa using h x hx
    simp [hxs]
  | cons b bs ih =>
    obtain ⟨hb, hbs⟩ := List.nodup_cons.mp hbs
    have hrest : ∀ x ∈ xs.filter (f · != b), f x ∈ bs := by
      intro x hx
      obtain ⟨hx, hne⟩ := List.mem_filter.mp hx
      exact (List.mem_cons.mp (h x hx)).resolve_left (by simpa using hne)
    have hcongr : (bs.flatMap fun c => xs.filter (f · == c)) =
        bs.flatMap fun c => (xs.filter (f · != b)).filter (f · == c) := by
      refine List.flatMap_congr fun c hc => ?_
      rw [List.filter_filter]
      refine List.filter_congr fun x _ => ?_
      by_cases hx : f x = c
      · have hne : c ≠ b := fun e => hb (e ▸ hc)
        simp [hx, hne]
      · simp [hx]
    rw [List.flatMap_cons, hcongr]
    exact ((ih hbs hrest).append_left _).trans (List.filter_append_perm _ xs)

lemma Sound.coherent {t : ParameterTable} (h : t.Sound) : t.Coherent where
  keyed := h.keyed
  get?_iff _ _ := h.get?_eq_some_iff
  keys := h.settled.nodup_keys
  bodies := h.settled.length_bodies_le
  mem_view l p := by simp [view_eq_filter h.settled.length_bodies_le]
  view_sublist l := by
    rw [view_eq_filter h.settled.length_bodies_le]
    exact List.filter_sublist
  views_perm := by
    simp only [funext fun l => view_eq_filter h.settled.length_bodies_le l]
    exact flatMap_filter_perm Parameter.location (by decide) fun p _ => by
      cases p.location <;> decide

end ParameterTable

end ApiOperations
