import ApiOperations.Proofs.Tree.Rereading

/-!
Records that are found again in what is written for them. A record is written as a row of members, each
with a value or without one. Opening the tree of a row gives each field the slot of its member, so a
reading that goes through the fields in the order of the row finds every value it found before.
-/

namespace ApiOperations

open Json (Value)
open ApiOperations.Tree (spell spellMember spell_object)

variable {σ α β : Type} [Dialect σ] [Spelling σ]

/-! ### Rows -/

/-- The members that an object may have, in their order, each with its value or with none. -/
abbrev Row := List (String × Option Value)

namespace Row

/-- The members that are there. -/
def members (row : Row) : List (String × Value) :=
  row.flatMap fun c => (c.2.map fun v => (c.1, v)).toList

def names (row : Row) : List String :=
  row.map Prod.fst

@[simp] lemma members_nil : members [] = [] := rfl

@[simp] lemma members_cons_none (name : String) (row : Row) :
    members ((name, none) :: row) = members row := rfl

@[simp] lemma members_cons_some (name : String) (v : Value) (row : Row) :
    members ((name, some v) :: row) = (name, v) :: members row := rfl

/-- The value of a list that is left out when it is empty. -/
def ofList : List Value → Option Value
  | [] => none
  | vs => some (.array vs)

/-- The value of a table that is left out when it is empty. -/
def ofTable : List (String × Value) → Option Value
  | [] => none
  | ms => some (.object ms)

lemma mem_members {row : Row} {m : String × Value} : m ∈ row.members ↔ (m.1, some m.2) ∈ row := by
  simp only [members, List.mem_flatMap, Option.mem_toList, Option.map_eq_some_iff]
  constructor
  · rintro ⟨⟨name, v?⟩, hc, v, hv, rfl⟩
    obtain rfl : v? = some v := hv
    exact hc
  · intro hm
    exact ⟨_, hm, m.2, rfl, rfl⟩

end Row

/-- The slot of a value that may be absent. -/
def Slot.ofValue? : Option Value → Slot σ
  | none => .omitted
  | some v => .given (spell v)

namespace Fields

omit [Spelling σ] in
/-- A table that may be omitted has each name once. -/
lemma unique_of_defaulted {f : Fields σ} {name : String} {r : Reading σ α} {xs : Table α}
    (h : f.defaulted name (Reading.table r) [] = some xs) : xs.Unique := by
  unfold defaulted at h
  split at h
  · exact Reading.unique_of_table_eq_some h
  · cases h
    exact List.Pairwise.nil

/-- The slots have what the row has. -/
def Shows (f : Fields σ) (row : Row) : Prop :=
  ∀ c ∈ row, f.slot c.1 = .ofValue? c.2

/-- Whatever is given fits. -/
def Fits (k : Nat) (f : Fields σ) : Prop :=
  ∀ name t, f.slot name = .given t → t.Fits k

end Fields

namespace Reading

/-- The slots that a row fills. -/
def rowSlots (row : Row) : List (String × Slot σ) :=
  row.members.map fun m => (m.1, .given (spell m.2))

lemma lookup_rowSlots_of_notMem {row : Row} {name : String} (h : name ∉ row.names) :
    (rowSlots row : List (String × Slot σ)).lookup name = none := by
  rw [List.lookup_eq_none_iff]
  intro s hs
  obtain ⟨m, hm, rfl⟩ := List.mem_map.mp hs
  rw [bne_iff_ne]
  rintro rfl
  exact h (List.mem_map_of_mem (Row.mem_members.mp hm))

lemma lookup_rowSlots {row : Row} (h : row.names.Nodup) {c : String × Option Value} (hc : c ∈ row) :
    ((rowSlots row).lookup c.1).getD .omitted = (.ofValue? c.2 : Slot σ) := by
  induction row with
  | nil => cases hc
  | cons c' row ih =>
    obtain ⟨name, v?⟩ := c'
    obtain ⟨hname, hrow⟩ := List.nodup_cons.mp h
    rcases List.mem_cons.mp hc with rfl | hmem
    · cases v? with
      | none =>
        change ((rowSlots row).lookup name).getD .omitted = _
        rw [lookup_rowSlots_of_notMem hname]
        rfl
      | some v =>
        rw [rowSlots, Row.members_cons_some, List.map_cons, List.lookup_cons, beq_self_eq_true]
        rfl
    · have hne : (c.1 == name) = false := by
        rw [beq_eq_false_iff_ne]
        have hc : c.1 ∈ Row.names row := List.mem_map_of_mem hmem
        exact ne_of_mem_of_not_mem hc hname
      cases v? with
      | none => exact ih hrow hmem
      | some v =>
        rw [rowSlots, Row.members_cons_some, List.map_cons, List.lookup_cons, hne]
        exact ih hrow hmem

lemma slotsOf_row {names : List String} {row : Row} (h : row.names.Nodup)
    (hnames : ∀ name ∈ row.names, name ∈ names) :
    slotsOf names (row.members.map spellMember) = some (rowSlots row : List (String × Slot σ)) := by
  induction row with
  | nil => rfl
  | cons c row ih =>
    obtain ⟨name, v?⟩ := c
    obtain ⟨hname, hrow⟩ := List.nodup_cons.mp h
    obtain ⟨hmem, htail⟩ : name ∈ names ∧ ∀ name ∈ Row.names row, name ∈ names :=
      List.forall_mem_cons.mp hnames
    cases v? with
    | none => exact ih hrow htail
    | some v =>
      have hkey : fieldName? names (.leaf (Spelling.text name : σ)) = some (some name) := by
        rw [fieldName?, Spelling.key?_text]
        exact congrArg some (if_pos (List.contains_iff_mem.mpr hmem))
      rw [Row.members_cons_some, List.map_cons, spellMember, slotsOf, ih hrow htail, hkey]
      simp only [Option.bind_eq_bind, Option.bind_some, lookup_rowSlots_of_notMem hname]
      rfl

/-- A record that is written as a row is opened with the slots of the row. -/
lemma openRecord_row {names : List String} {row : Row} (h : row.names.Nodup)
    (hnames : ∀ name ∈ row.names, name ∈ names) (n : Nat) :
    openRecord names (n + 1) (spell (.object row.members) : Tree σ) = some ⟨rowSlots row, n⟩ := by
  rw [spell_object]
  change (slotsOf names (row.members.map spellMember)).map _ = _
  rw [slotsOf_row h hnames]
  rfl

/-! ### Opened records -/

omit [Spelling σ] in
lemma exists_of_mem_slotsOf {names : List String} {entries : List (Tree σ × Tree σ)}
    {slots : List (String × Slot σ)} (h : slotsOf names entries = some slots) {name : String}
    {t : Tree σ} (ht : (name, .given t) ∈ slots) : ∃ e ∈ entries, e.2 = t := by
  induction entries generalizing slots with
  | nil =>
    cases h
    cases ht
  | cons e entries ih =>
    obtain ⟨key, value⟩ := e
    obtain ⟨slots', hslots', h⟩ := Option.bind_eq_some_iff.mp h
    obtain ⟨name?, _, h⟩ := Option.bind_eq_some_iff.mp h
    have hrest : (name, .given t) ∈ slots' → ∃ e ∈ (key, value) :: entries, e.2 = t := by
      intro ht
      obtain ⟨e, he, het⟩ := ih hslots' ht
      exact ⟨e, List.mem_cons_of_mem _ he, het⟩
    cases name? with
    | none =>
      obtain rfl : slots' = slots := Option.some.inj h
      exact hrest ht
    | some name' =>
      obtain ⟨_, rfl⟩ : _ ∧ (name', Slot.given value) :: slots' = slots := by simpa using h
      rcases List.mem_cons.mp ht with heq | ht
      · obtain ⟨rfl, rfl⟩ : name = name' ∧ t = value := by simpa using heq
        exact ⟨_, List.mem_cons_self, rfl⟩
      · exact hrest ht

omit [Dialect σ] [Spelling σ] in
lemma mem_of_mem_positionalSlots {names : List String} {items : List (Tree σ)} {name : String}
    {t : Tree σ} (ht : (name, .given t) ∈ positionalSlots names items) : t ∈ items := by
  induction names generalizing items with
  | nil => cases ht
  | cons name' names ih =>
    cases items with
    | nil =>
      rcases List.mem_cons.mp ht with heq | ht
      · cases heq
      · exact ih ht
    | cons t' items =>
      rcases List.mem_cons.mp ht with heq | ht
      · cases heq
        exact List.mem_cons_self
      · exact List.mem_cons_of_mem _ (ih ht)

omit [Dialect σ] [Spelling σ] in
lemma mem_slots_of_slot_eq {f : Fields σ} {name : String} {t : Tree σ} (h : f.slot name = .given t) :
    (name, .given t) ∈ f.slots := by
  cases hlookup : f.slots.lookup name with
  | none => simp [Fields.slot, hlookup] at h
  | some s =>
    obtain ⟨before, after, hslots, _⟩ := List.lookup_eq_some_iff.mp hlookup
    obtain rfl : s = .given t := by simpa [Fields.slot, hlookup] using h
    rw [hslots]
    exact List.mem_append_right before List.mem_cons_self

/-- Opening a record takes one container, and what its fields are given fits what is left. -/
lemma exists_of_openNamed_eq_some {names : List String} {n k : Nat} {t : Tree σ} {f : Fields σ}
    (ht : t.Fits k) (h : openNamed names n t = some f) :
    n = f.depth + 1 ∧ ∃ l, k = l + 1 ∧ f.Fits l := by
  have hfits := ht.untagged
  unfold openNamed at h
  generalize t.untagged = t at h hfits
  cases hfits with
  | leaf _ => simp [Spelling.isEmpty_eq] at h
  | @record l entries _ hvalues =>
    cases n with
    | zero => cases h
    | succ m =>
      obtain ⟨slots, hslots, rfl⟩ := Option.map_eq_some_iff.mp h
      refine ⟨rfl, l, rfl, fun name t hgiven => ?_⟩
      obtain ⟨e, he, rfl⟩ := exists_of_mem_slotsOf hslots (mem_slots_of_slot_eq hgiven)
      exact hvalues e he
  | list _ | tagged _ => cases n <;> cases h

lemma exists_of_openRecord_eq_some {names : List String} {n k : Nat} {t : Tree σ} {f : Fields σ}
    (ht : t.Fits k) (h : openRecord names n t = some f) :
    n = f.depth + 1 ∧ ∃ l, k = l + 1 ∧ f.Fits l := by
  have hfits := ht.untagged
  unfold openRecord at h
  split at h
  · rename_i items m htree
    rw [htree] at hfits
    obtain ⟨_, rfl⟩ : _ ∧ (⟨positionalSlots names items, m⟩ : Fields σ) = f := by simpa using h
    cases hfits with
    | @list l _ hitems =>
      exact ⟨rfl, l, rfl, fun name t hgiven =>
        hitems t (mem_of_mem_positionalSlots (mem_slots_of_slot_eq hgiven))⟩
  · exact exists_of_openNamed_eq_some ht h

/-! ### Absent values -/

omit [Spelling σ] in
lemma eq_some_of_optional {r : Reading σ α} {n : Nat} {t : Tree σ} {x : α}
    (h : Reading.optional r n t = some (some x)) : r n t = some x := by
  have hmap : ∀ {y? : Option α}, y?.map some = some (some x) → y? = some x := by
    rintro (_ | y) hy
    · cases hy
    · exact Option.some.inj hy
  unfold Reading.optional at h
  split at h
  · split at h
    · cases h
    · cases h
    · exact hmap h
  · exact hmap h

/-- A written value is not taken for an absent one, unless it is null. -/
lemma optional_spell {r : Reading σ α} {n : Nat} {v : Value} (hnull : v ≠ .null) (hv : v.Integral) :
    Reading.optional r n (spell v) = (r n (spell v)).map some := by
  cases v with
  | null => exact absurd rfl hnull
  | array items | object members => rfl
  | bool b => simp [Reading.optional, Spelling.absent?_bool]
  | string s => simp [Reading.optional, Spelling.absent?_text]
  | number n =>
    cases n with
    | int n => simp [Reading.optional, spell, Spelling.absent?_int]
    | float x => exact (Value.integral_number.mp hv).elim

/-- What the reading finds where a value may be absent is never written as null. -/
def NeverNull (r : Reading σ α) (w : α → Value) : Prop :=
  ∀ (n k : Nat) (t : Tree σ) (x : α),
    t.Fits k → Reading.optional r n t = some (some x) → w x ≠ .null

lemma neverNull_of_forall (r : Reading σ α) {w : α → Value} (h : ∀ x, w x ≠ .null) : r.NeverNull w :=
  fun _ _ _ x _ _ => h x

end Reading

/-! ### Fields -/

namespace Fields

/-- After `get` gave `x` for an opened record, the values of the row fit, and `get` gives `x` for each
record of the same depth that shows them. -/
structure Recovers (f : Fields σ) (k : Nat) (get : Fields σ → Option α) (x : α) (row : Row) : Prop where
  fits : ∀ c ∈ row, ∀ v ∈ c.2, v.Fits k
  again : (∀ c ∈ row, ∀ v ∈ c.2, v.Integral) →
    ∀ f' : Fields σ, f'.depth = f.depth → f'.Shows row → get f' = some x

namespace Recovers

variable {f : Fields σ} {k : Nat}

lemma pure (x : α) : Recovers f k (fun _ => Pure.pure x) x [] :=
  ⟨fun _ hc => (List.not_mem_nil hc).elim, fun _ _ _ _ => rfl⟩

lemma bind {get : Fields σ → Option β} {rest : β → Fields σ → Option α} {y : β} {x : α}
    {c : String × Option Value} {row : Row} (hget : Recovers f k get y [c])
    (hrest : Recovers f k (rest y) x row) :
    Recovers f k (fun f => get f >>= fun y => rest y f) x (c :: row) := by
  constructor
  · intro c' hc'
    rcases List.mem_cons.mp hc' with rfl | hc'
    · exact hget.fits c' List.mem_cons_self
    · exact hrest.fits c' hc'
  · intro hi f' hdepth hshows
    obtain ⟨hc, hrow⟩ := List.forall_mem_cons.mp hi
    obtain ⟨hfirst, hothers⟩ := List.forall_mem_cons.mp hshows
    have hy : get f' = some y :=
      hget.again (List.forall_mem_singleton.mpr hc) f' hdepth (List.forall_mem_singleton.mpr hfirst)
    rw [hy]
    exact hrest.again hrow f' hdepth hothers

end Recovers

/-- At least `c` containers may be open below the fields, and what is given fits `k`, at least `c`. -/
structure Within (c k : Nat) (f : Fields σ) : Prop where
  depth : c ≤ f.depth
  bound : c ≤ k
  fits : f.Fits k

namespace Within

variable {c k : Nat} {f : Fields σ} {name : String} {r : Reading σ α} {w : α → Value}

/-- A field that is written. -/
lemma recovers_written {get : Fields σ → Option β} {y : β} {v : Value} (hv : v.Fits k)
    (hget : ∀ f' : Fields σ, f'.depth = f.depth → f'.slot name = .given (spell v) → v.Integral →
      get f' = some y) :
    Recovers f k get y [(name, some v)] := by
  constructor
  · intro c hc v' hv'
    obtain rfl := List.mem_singleton.mp hc
    obtain rfl : v = v' := Option.some.inj hv'
    exact hv
  · intro hi f' hdepth hshows
    exact hget f' hdepth (hshows _ (List.mem_singleton.mpr rfl))
      (hi _ (List.mem_singleton.mpr rfl) v rfl)

/-- A field whose value is given and written. -/
lemma recovers_given {get : Fields σ → Option β} {y : β} (hf : f.Within c k) (hr : r.Rereads c w)
    {t : Tree σ} (ht : f.slot name = .given t) {x : α} (hx : r f.depth t = some x)
    (hget : ∀ f' : Fields σ, f'.slot name = .given (spell (w x)) → (w x).Integral →
      r f'.depth (spell (w x)) = some x → get f' = some y) :
    Recovers f k get y [(name, some (w x))] := by
  have hfits : t.Fits k := hf.fits name t ht
  have hvalue : (w x).Fits k := (hr f.depth hf.depth).fits hf.bound hfits hx
  refine recovers_written hvalue fun f' hdepth hslot hi => hget f' hslot hi ?_
  rw [hdepth]
  exact (hr f.depth hf.depth).again hfits hx hi

/-- A field that is absent and not written. -/
lemma recovers_absent {get : Fields σ → Option β} {y : β}
    (hget : ∀ f' : Fields σ, f'.slot name = .omitted → get f' = some y) :
    Recovers f k get y [(name, none)] := by
  constructor
  · intro c hc v hv
    obtain rfl := List.mem_singleton.mp hc
    cases hv
  · intro _ f' _ hshows
    exact hget f' (hshows _ (List.mem_singleton.mpr rfl))

lemma required (hf : f.Within c k) (hr : r.Rereads c w) {x : α} (h : f.required name r = some x) :
    Recovers f k (·.required name r) x [(name, some (w x))] := by
  rw [Fields.required] at h
  split at h
  · rename_i t ht
    refine hf.recovers_given hr ht h fun f' hslot _ hx => ?_
    rw [Fields.required, hslot]
    exact hx
  · cases h

lemma optional (hf : f.Within c k) (hr : r.Rereads c w) (hnull : r.NeverNull w) {x? : Option α}
    (h : f.optional name r = some x?) :
    Recovers f k (·.optional name r) x? [(name, x?.map w)] := by
  have habsent : Recovers f k (·.optional name r) none [(name, none)] := by
    refine recovers_absent fun f' hslot => ?_
    rw [Fields.optional, hslot]
  rw [Fields.optional] at h
  split at h
  · rename_i t ht
    cases x? with
    | none => exact habsent
    | some x =>
      refine hf.recovers_given hr ht (Reading.eq_some_of_optional h) fun f' hslot hi hx => ?_
      rw [Fields.optional, hslot]
      exact (Reading.optional_spell (hnull _ _ t x (hf.fits name t ht) h) hi).trans (congrArg _ hx)
  · cases h
    exact habsent
  · cases h

lemma text (hf : f.Within c k) {x? : Option String} (h : f.optional name Reading.text = some x?) :
    Recovers f k (·.optional name Reading.text) x? [(name, x?.map .string)] :=
  hf.optional Reading.rereads_text (Reading.neverNull_of_forall _ fun _ => Value.noConfusion) h

lemma flag (hf : f.Within c k) {x? : Option Bool} (h : f.optional name Reading.flag = some x?) :
    Recovers f k (·.optional name Reading.flag) x? [(name, x?.map .bool)] :=
  hf.optional Reading.rereads_flag (Reading.neverNull_of_forall _ fun _ => Value.noConfusion) h

/-- A field that is written, which must do no harm if its value is the default one. -/
lemma defaulted (hf : f.Within c k) (hr : r.Rereads c w) {d x : α}
    (h : f.defaulted name r d = some x)
    (hdefault : x = d → (w d).Fits k ∧ r f.depth (spell (w d)) = some d) :
    Recovers f k (·.defaulted name r d) x [(name, some (w x))] := by
  rw [Fields.defaulted] at h
  split at h
  · rename_i t ht
    refine hf.recovers_given hr ht h fun f' hslot _ hx => ?_
    rw [Fields.defaulted, hslot]
    exact hx
  · cases h
    obtain ⟨hfits, hagain⟩ := hdefault rfl
    refine recovers_written hfits fun f' hdepth hslot _ => ?_
    rw [Fields.defaulted, hslot, hdepth]
    exact hagain

/-- A field that is not written because its value is the default one. -/
lemma defaulted_self {d : α} : Recovers f k (·.defaulted name r d) d [(name, none)] := by
  refine recovers_absent fun f' hslot => ?_
  rw [Fields.defaulted, hslot]

/-- A list that is left out when it is empty. -/
lemma list (hf : f.Within c k) (hr : r.Rereads (c - 1) w) {xs : List α}
    (h : f.defaulted name (Reading.list r) [] = some xs) :
    Recovers f k (·.defaulted name (Reading.list r) []) xs [(name, Row.ofList (xs.map w))] := by
  cases xs with
  | nil => exact defaulted_self
  | cons x xs => exact hf.defaulted hr.list h fun hx => absurd hx (List.cons_ne_nil x xs)

/-- A table that is left out when it is empty. -/
lemma table (hf : f.Within c k) (hr : r.Rereads (c - 1) w) {xs : Table α}
    (h : f.defaulted name (Reading.table r) [] = some xs) :
    Recovers f k (·.defaulted name (Reading.table r) []) xs
      [(name, Row.ofTable (xs.map fun e => (e.1, w e.2)))] := by
  cases xs with
  | nil => exact defaulted_self
  | cons e xs => exact hf.defaulted hr.table h fun hx => absurd hx (List.cons_ne_nil e xs)

end Within

end Fields

/-! ### Records -/

/-- **A record is found again if its fields are**: a reading that opens a record and recovers a row from
its fields rereads what is written with the members of the row. -/
theorem Reading.rereads_record {c n : Nat} {names : List String} {get : Fields σ → Option α}
    {w : α → Value} {row : α → Row} (hnames : names.Nodup) (hrow : ∀ x, (row x).names = names)
    (hw : ∀ x, w x = .object (row x).members)
    (hget : ∀ {f : Fields σ} {k : Nat} {x : α}, f.Within (c - 1) k → get f = some x →
      f.Recovers k get x (row x)) (hn : c ≤ n) :
    RereadsAt c (fun t => openRecord names n t >>= get) w := by
  have hopened : ∀ {k t x}, c ≤ k → t.Fits k → openRecord names n t >>= get = some x →
      ∃ (f : Fields σ) (l : Nat), n = f.depth + 1 ∧ k = l + 1 ∧ f.Recovers l get x (row x) := by
    intro k t x hk ht h
    obtain ⟨f, hf, hx⟩ := Option.bind_eq_some_iff.mp h
    obtain ⟨rfl, l, rfl, hfits⟩ := exists_of_openRecord_eq_some ht hf
    exact ⟨f, l, rfl, rfl, hget ⟨by omega, by omega, hfits⟩ hx⟩
  constructor
  · intro k t x hk ht h
    obtain ⟨f, l, rfl, rfl, hrec⟩ := hopened hk ht h
    rw [hw]
    intro m hm
    exact hrec.fits _ (Row.mem_members.mp hm) m.2 rfl
  · intro k t x ht h hi
    obtain ⟨f, l, rfl, -, hrec⟩ := hopened (le_max_right k c) (ht.mono (le_max_left k c)) h
    have hnodup : (row x).names.Nodup := (hrow x).symm ▸ hnames
    have hopen : openRecord names (f.depth + 1) (spell (w x) : Tree σ) =
        some ⟨rowSlots (row x), f.depth⟩ := by
      rw [hw]
      exact openRecord_row hnodup (fun name hname => hrow x ▸ hname) f.depth
    rw [hopen]
    refine hrec.again ?_ _ rfl fun c hc => lookup_rowSlots hnodup hc
    intro c hc v hv
    rw [hw] at hi
    exact Value.integral_object.mp hi (c.1, v) (Row.mem_members.mpr ((Option.mem_def.mp hv) ▸ hc))

end ApiOperations
