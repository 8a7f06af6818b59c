import ApiOperations.Proofs.Table
import ApiOperations.Proofs.Tree.Spelling
import ApiOperations.Tree.Reading

/-!
Values that are found again in what is written for them. A reading rereads a way of writing if it finds
in the tree of a written value the value that was written, as long as that was read before and all its
numbers are integers. The combinators of readings keep this property, so that it is shown for a type
of records from what holds of its fields.
-/

namespace ApiOperations

open Json (Value)
open ApiOperations.Tree (spell spellMember spell_array spell_object)

variable {σ α β γ : Type} [Dialect σ] [Spelling σ]

/-- What `r` reads from some tree and `w` writes nests no deeper than that tree, or than `c`, and `r`
reads it again. -/
structure RereadsAt (c : Nat) (r : Tree σ → Option α) (w : α → Value) : Prop where
  fits {k : Nat} {t : Tree σ} {x : α} : c ≤ k → t.Fits k → r t = some x → (w x).Fits k
  again {k : Nat} {t : Tree σ} {x : α} :
    t.Fits k → r t = some x → (w x).Integral → r (spell (w x)) = some x

/-- Of two ways to read a tree the second one counts if the first one fails. Its values must not be
taken for some of the first kind once they are written. -/
lemma RereadsAt.or {c : Nat} {a : Tree σ → Option α} {b : Tree σ → Option β} {r : Tree σ → Option γ}
    {f : α → γ} {g : β → γ} {w : γ → Value} (ha : RereadsAt c a fun x => w (f x))
    (hb : RereadsAt c b fun y => w (g y)) (hdistinct : ∀ y, a (spell (w (g y))) = none)
    (hr : ∀ t, r t = ((a t).map f).or ((b t).map g)) : RereadsAt c r w := by
  have hcases : ∀ {t z}, r t = some z →
      (∃ x, a t = some x ∧ f x = z) ∨ ∃ y, b t = some y ∧ g y = z := by
    intro t z h
    rw [hr, Option.or_eq_some_iff] at h
    rcases h with h | ⟨_, h⟩
    · exact .inl (Option.map_eq_some_iff.mp h)
    · exact .inr (Option.map_eq_some_iff.mp h)
  constructor
  · intro k t z hk ht h
    rcases hcases h with ⟨x, hx, rfl⟩ | ⟨y, hy, rfl⟩
    · exact ha.fits hk ht hx
    · exact hb.fits hk ht hy
  · intro k t z ht h hi
    rcases hcases h with ⟨x, hx, rfl⟩ | ⟨y, hy, rfl⟩
    · rw [hr, ha.again ht hx hi]
      rfl
    · rw [hr, hdistinct, hb.again ht hy hi]
      rfl

/-- The reading rereads within every bound from `c` on. -/
def Reading.Rereads (c : Nat) (r : Reading σ α) (w : α → Value) : Prop :=
  ∀ n, c ≤ n → RereadsAt c (r n) w

namespace Reading

lemma Rereads.mono {c d : Nat} {r : Reading σ α} {w : α → Value} (h : r.Rereads c w) (hcd : c ≤ d) :
    r.Rereads d w := fun n hn =>
  ⟨fun hk => (h n (hcd.trans hn)).fits (hcd.trans hk), (h n (hcd.trans hn)).again⟩

/-! ### Leaves -/

lemma rereads_text {c : Nat} : (text : Reading σ String).Rereads c .string := fun _ _ =>
  ⟨fun _ _ _ => Value.fits_string _ _, fun {_ _ s} _ _ _ => Spelling.text?_text s⟩

lemma rereads_flag {c : Nat} : (flag : Reading σ Bool).Rereads c .bool := fun _ _ =>
  ⟨fun _ _ _ => Value.fits_bool _ _, fun {_ _ b} _ _ _ => Spelling.flag?_bool b⟩

/-- Named values are written as their names. -/
lemma rereads_variant {c : Nat} {names : List (String × α)} {word : α → String}
    (hword : ∀ x, names.lookup (word x) = some x) :
    (variant names : Reading σ α).Rereads c fun x => .string (word x) := by
  intro n _
  refine ⟨fun _ _ _ => Value.fits_string _ _, fun {_ _ x} _ _ _ => ?_⟩
  rw [Tree.spell_string, variant, Spelling.text?_text]
  exact hword x

/-! ### Lists and tables -/

/-- The items of a list are read one level deeper. -/
lemma exists_of_list_eq_some {r : Reading σ α} {n k : Nat} {t : Tree σ} {xs : List α}
    (ht : t.Fits k) (h : list r n t = some xs) :
    ∃ m l, n = m + 1 ∧ k = l + 1 ∧ ∀ x ∈ xs, ∃ t : Tree σ, t.Fits l ∧ r m t = some x := by
  have hfits := ht.untagged
  unfold list at h
  generalize t.untagged = t at h hfits
  cases hfits with
  | leaf _ => simp [Spelling.isEmpty_eq] at h
  | list hitems =>
    cases n with
    | zero => cases h
    | succ m =>
      refine ⟨m, _, rfl, rfl, fun x hx => ?_⟩
      obtain ⟨t, ht, htx⟩ := List.exists_mem_of_mapM_eq_some h hx
      exact ⟨t, hitems t ht, htx⟩
  | record _ _ | tagged _ => cases n <;> cases h

lemma Rereads.list {c : Nat} {r : Reading σ α} {w : α → Value} (h : r.Rereads (c - 1) w) :
    (list r).Rereads c fun xs => .array (xs.map w) := by
  intro n hn
  constructor
  · intro k t xs hk ht hxs
    obtain ⟨m, l, rfl, rfl, hread⟩ := exists_of_list_eq_some ht hxs
    intro v hv
    obtain ⟨x, hx, rfl⟩ := List.mem_map.mp hv
    obtain ⟨t, ht, htx⟩ := hread x hx
    exact (h m (by omega)).fits (by omega) ht htx
  · intro k t xs ht hxs hi
    obtain ⟨m, l, rfl, rfl, hread⟩ := exists_of_list_eq_some ht hxs
    have hagain : ∀ x ∈ xs, r m (spell (w x)) = some x := by
      intro x hx
      obtain ⟨t, ht, htx⟩ := hread x hx
      refine (h m (by omega)).again ht htx ?_
      exact Value.integral_array.mp hi (w x) (List.mem_map_of_mem hx)
    rw [spell_array, List.map_map]
    exact List.mapM_map_eq_self hagain

/-- The key and the value of an entry of a table. -/
def entry (r : Reading σ α) (n : Nat) (e : Tree σ × Tree σ) : Option (String × α) := do
  return (← text n e.1, ← r n e.2)

omit [Spelling σ] in
lemma table_record (r : Reading σ α) (n : Nat) (es : List (Tree σ × Tree σ)) :
    table r (n + 1) (.record es) = (es.mapM (entry r n)).map Table.ofEntries :=
  rfl

omit [Spelling σ] in
/-- A table that is read has each name once. -/
lemma unique_of_table_eq_some {r : Reading σ α} {n : Nat} {t : Tree σ} {xs : Table α}
    (h : table r n t = some xs) : xs.Unique := by
  unfold table at h
  split at h
  · split_ifs at h
    cases h
    exact List.Pairwise.nil
  · obtain ⟨es, -, rfl⟩ := Option.map_eq_some_iff.mp h
    exact Table.unique_ofEntries es
  · cases h

/-- The values of a table are read one level deeper. -/
lemma exists_of_table_eq_some {r : Reading σ α} {n k : Nat} {t : Tree σ} {xs : Table α}
    (ht : t.Fits k) (h : table r n t = some xs) :
    xs.Unique ∧ ∃ m l, n = m + 1 ∧ k = l + 1 ∧ ∀ e ∈ xs, ∃ t : Tree σ, t.Fits l ∧ r m t = some e.2 := by
  have hfits := ht.untagged
  unfold table at h
  generalize t.untagged = t at h hfits
  cases hfits with
  | leaf _ => simp [Spelling.isEmpty_eq] at h
  | record _ hvalues =>
    cases n with
    | zero => cases h
    | succ m =>
      obtain ⟨es, hes, rfl⟩ := Option.map_eq_some_iff.mp h
      refine ⟨Table.unique_ofEntries es, m, _, rfl, rfl, fun e he => ?_⟩
      obtain ⟨e', he', hread⟩ :=
        List.exists_mem_of_mapM_eq_some hes (Table.mem_of_mem_ofEntries he)
      obtain ⟨key, _, hread⟩ := Option.bind_eq_some_iff.mp hread
      obtain ⟨value, hvalue, ⟨⟩⟩ := Option.bind_eq_some_iff.mp hread
      exact ⟨e'.2, hvalues e' he', hvalue⟩
  | list _ | tagged _ => cases n <;> cases h

lemma Rereads.table {c : Nat} {r : Reading σ α} {w : α → Value} (h : r.Rereads (c - 1) w) :
    (table r).Rereads c fun xs => .object (xs.map fun e => (e.1, w e.2)) := by
  intro n hn
  constructor
  · intro k t xs hk ht hxs
    obtain ⟨_, m, l, rfl, rfl, hread⟩ := exists_of_table_eq_some ht hxs
    intro m' hm'
    obtain ⟨e, he, rfl⟩ := List.mem_map.mp hm'
    obtain ⟨t, ht, hte⟩ := hread e he
    exact (h m (by omega)).fits (by omega) ht hte
  · intro k t xs ht hxs hi
    obtain ⟨hunique, m, l, rfl, rfl, hread⟩ := exists_of_table_eq_some ht hxs
    have hagain : ∀ e ∈ xs, entry r m (spellMember (e.1, w e.2)) = some e := by
      intro e he
      obtain ⟨t, ht, hte⟩ := hread e he
      have hvalue : r m (spell (w e.2)) = some e.2 := by
        refine (h m (by omega)).again ht hte ?_
        exact Value.integral_object.mp hi (e.1, w e.2) (List.mem_map_of_mem he)
      have hkey : text m (Tree.leaf (Spelling.text e.1 : σ)) = some e.1 := Spelling.text?_text e.1
      rw [entry, spellMember, hkey, hvalue]
      rfl
    rw [spell_object, List.map_map, Function.comp_def, table_record, List.mapM_map_eq_self hagain]
    exact congrArg some hunique.ofEntries_eq

/-! ### Settled trees -/

/-- What is read from settled leaves is read again from the leaves of a JSON text. -/
lemma Rereads.settled {c : Nat} {r : Reading Atom α} {w : α → Value} (h : r.Rereads c w) :
    (settled r : Reading Json.Leaf α).Rereads c w := by
  intro n hn
  constructor
  · intro k t x hk ht hx
    obtain ⟨t', ht', hx⟩ := Option.bind_eq_some_iff.mp hx
    exact (h n hn).fits hk (Tree.fits_of_settle ht ht').2 hx
  · intro k t x ht hx hi
    obtain ⟨t', ht', hx⟩ := Option.bind_eq_some_iff.mp hx
    have hfits : t'.Fits n := (Tree.fits_of_settle ht ht').1
    rw [Reading.settled, Tree.settle_spell hi ((h n hn).fits hn hfits hx), Option.bind_some]
    exact (h n hn).again hfits hx hi

end Reading

end ApiOperations
