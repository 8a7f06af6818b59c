import ApiOperations.Json.Leaf
import ApiOperations.Proofs.Json.Numeral
import ApiOperations.Proofs.Json.Value

/-!
JSON values spelled as trees. A notation that has leaves for null, truth values, integers and texts
spells every value whose numbers are integers, and both the leaves of JSON texts and the settled ones
are such a notation. Settling the types of a spelled value gives its spelling by settled leaves.
-/

namespace ApiOperations

open Json (Value)

/-- Leaves for the parts of a JSON value. A leaf is plain if it may stand in a JSON text. -/
class Spelling (σ : Type) [Dialect σ] where
  null : σ
  bool : Bool → σ
  int : Int → σ
  text : String → σ
  Plain : σ → Prop
  isEmpty_eq (s : σ) : Dialect.isEmpty s = false
  flag?_bool (b : Bool) : Dialect.flag? (bool b) = some b
  text?_text (s : String) : Dialect.text? (text s) = some s
  key?_text (s : String) : Dialect.key? (text s) = some (.name s)
  absent?_bool (b : Bool) : Dialect.absent? (bool b) = some false
  absent?_int (n : Int) : Dialect.absent? (int n) = some false
  absent?_text (s : String) : Dialect.absent? (text s) = some false

instance : Spelling Atom where
  null := .null
  bool := .bool
  int n := .number (.int n)
  text := .string
  Plain s := s ≠ .nonFinite
  isEmpty_eq _ := rfl
  flag?_bool _ := rfl
  text?_text _ := rfl
  key?_text _ := rfl
  absent?_bool _ := rfl
  absent?_int _ := rfl
  absent?_text _ := rfl

instance : Spelling Json.Leaf where
  null := .null
  bool := .bool
  int n := .number (.ofInt n)
  text s := .string (some s)
  Plain _ := True
  isEmpty_eq _ := rfl
  flag?_bool _ := rfl
  text?_text _ := rfl
  key?_text _ := rfl
  absent?_bool _ := rfl
  absent?_int _ := rfl
  absent?_text _ := rfl

namespace Tree

variable {σ : Type} [Dialect σ] [Spelling σ]

/-! ### Trees of values -/

mutual

/-- The tree of a value; a number that is no integer has none and becomes null. -/
def spell : Value → Tree σ
  | .null => leaf Spelling.null
  | .bool b => leaf (Spelling.bool b)
  | .number (.int n) => leaf (Spelling.int n)
  | .number (.float _) => leaf Spelling.null
  | .string s => leaf (Spelling.text s)
  | .array items => list (spellItems items)
  | .object members => record (spellMembers members)

def spellItems : List Value → List (Tree σ)
  | [] => []
  | v :: vs => spell v :: spellItems vs

def spellMembers : List (String × Value) → List (Tree σ × Tree σ)
  | [] => []
  | (k, v) :: ms => (leaf (Spelling.text k), spell v) :: spellMembers ms

end

/-- A member of an object as an entry of a record. -/
def spellMember (m : String × Value) : Tree σ × Tree σ :=
  (leaf (Spelling.text m.1), spell m.2)

@[simp] lemma spell_null : spell .null = leaf (Spelling.null : σ) := rfl
@[simp] lemma spell_bool (b : Bool) : spell (.bool b) = leaf (Spelling.bool b : σ) := rfl
@[simp] lemma spell_string (s : String) : spell (.string s) = leaf (Spelling.text s : σ) := rfl

@[simp] lemma spell_array (items : List Value) :
    spell (.array items) = (list (items.map spell) : Tree σ) := by
  have hitems : spellItems (σ := σ) items = items.map spell := by
    induction items with
    | nil => rfl
    | cons v vs ih => rw [spellItems, ih, List.map_cons]
  rw [spell, hitems]

@[simp] lemma spell_object (members : List (String × Value)) :
    spell (.object members) = (record (members.map spellMember) : Tree σ) := by
  have hmembers : spellMembers (σ := σ) members = members.map spellMember := by
    induction members with
    | nil => rfl
    | cons m ms ih => rw [spellMembers, ih, List.map_cons, spellMember]
  rw [spell, hmembers]

/-! ### Nesting -/

/-- At most `n` containers are open anywhere in the tree, and its leaves are plain. -/
inductive Fits : Nat → Tree σ → Prop
  | leaf {n : Nat} {s : σ} : Spelling.Plain s → Fits n (leaf s)
  | list {n : Nat} {items : List (Tree σ)} : (∀ t ∈ items, Fits n t) → Fits (n + 1) (list items)
  | record {n : Nat} {entries : List (Tree σ × Tree σ)} :
    (∀ e ∈ entries, Fits n e.1) → (∀ e ∈ entries, Fits n e.2) → Fits (n + 1) (record entries)
  | tagged {n : Nat} {tag : String} {body : Tree σ} : Fits n body → Fits n (tagged tag body)

lemma Fits.untagged {n : Nat} {t : Tree σ} (h : t.Fits n) : t.untagged.Fits n := by
  induction h with
  | leaf hs => exact .leaf hs
  | list hitems _ => exact .list hitems
  | record hkeys hvalues _ _ => exact .record hkeys hvalues
  | tagged _ ih => exact ih

lemma Fits.mono {n m : Nat} {t : Tree σ} (h : t.Fits n) (hnm : n ≤ m) : t.Fits m := by
  induction h generalizing m with
  | leaf hs => exact .leaf hs
  | list _ ih =>
    obtain ⟨m, rfl⟩ := Nat.exists_eq_add_of_lt hnm
    exact .list fun t ht => ih t ht (by omega)
  | record _ _ ihkeys ihvalues =>
    obtain ⟨m, rfl⟩ := Nat.exists_eq_add_of_lt hnm
    exact .record (fun e he => ihkeys e he (by omega)) fun e he => ihvalues e he (by omega)
  | tagged _ ih => exact .tagged (ih hnm)

/-- A bound for each member of a list gives one for all of them. -/
lemma exists_forall_fits {α : Type} {f : α → Tree σ} {xs : List α}
    (h : ∀ x ∈ xs, ∃ n, (f x).Fits n) : ∃ n, ∀ x ∈ xs, (f x).Fits n := by
  induction xs with
  | nil => exact ⟨0, List.forall_mem_nil _⟩
  | cons x xs ih =>
    obtain ⟨⟨n, hn⟩, hxs⟩ := List.forall_mem_cons.mp h
    obtain ⟨m, hm⟩ := ih hxs
    refine ⟨max n m, List.forall_mem_cons.mpr ⟨hn.mono (le_max_left n m), fun y hy => ?_⟩⟩
    exact (hm y hy).mono (le_max_right n m)

/-- Every tree fits some bound if all leaves of its notation are plain. -/
lemma exists_fits (hplain : ∀ s : σ, Spelling.Plain s) (t : Tree σ) : ∃ n, t.Fits n := by
  refine Tree.rec (motive_1 := fun t => ∃ n, t.Fits n)
    (motive_2 := fun items => ∀ t ∈ items, ∃ n, t.Fits n)
    (motive_3 := fun entries => ∀ e ∈ entries, (∃ n, e.1.Fits n) ∧ ∃ n, e.2.Fits n)
    (motive_4 := fun e => (∃ n, e.1.Fits n) ∧ ∃ n, e.2.Fits n) ?_ ?_ ?_ ?_ ?_ ?_ ?_ ?_ ?_ t
  · intro s
    exact ⟨0, .leaf (hplain s)⟩
  · intro items hitems
    obtain ⟨n, hn⟩ := exists_forall_fits hitems
    exact ⟨n + 1, .list hn⟩
  · intro entries hentries
    obtain ⟨n, hn⟩ := exists_forall_fits fun e he => (hentries e he).1
    obtain ⟨m, hm⟩ := exists_forall_fits fun e he => (hentries e he).2
    refine ⟨max n m + 1, .record (fun e he => ?_) fun e he => ?_⟩
    · exact (hn e he).mono (le_max_left n m)
    · exact (hm e he).mono (le_max_right n m)
  · rintro tag body ⟨n, hn⟩
    exact ⟨n, .tagged hn⟩
  · exact List.forall_mem_nil _
  · intro t items ht hitems
    exact List.forall_mem_cons.mpr ⟨ht, hitems⟩
  · exact List.forall_mem_nil _
  · intro e entries he hentries
    exact List.forall_mem_cons.mpr ⟨he, hentries⟩
  · intro k v hk hv
    exact ⟨hk, hv⟩

/-! ### Settled trees -/

@[simp] lemma settle_leaf {σ : Type} [Dialect σ] (n : Nat) (s : σ) :
    (leaf s).settle n = (Dialect.atom? s).map leaf := by
  cases n <;> rfl

lemma plain_of_atom? {s : Json.Leaf} {a : Atom} (h : Dialect.atom? s = some a) :
    Spelling.Plain a := by
  cases s with
  | null | bool b =>
    cases h
    exact Atom.noConfusion
  | number numeral =>
    obtain ⟨n, _, rfl⟩ := Option.map_eq_some_iff.mp h
    exact Atom.noConfusion
  | string text =>
    obtain ⟨s, _, rfl⟩ := Option.map_eq_some_iff.mp h
    exact Atom.noConfusion

/-- A settled tree fits the bound it was settled with, and any that the tree before fits. -/
lemma fits_of_settle {n k : Nat} {t : Tree Json.Leaf} {t' : Tree Atom} (hk : t.Fits k)
    (h : t.settle n = some t') : t'.Fits n ∧ t'.Fits k := by
  induction hk generalizing n t' with
  | leaf _ =>
    rw [settle_leaf] at h
    obtain ⟨a, ha, rfl⟩ := Option.map_eq_some_iff.mp h
    exact ⟨.leaf (plain_of_atom? ha), .leaf (plain_of_atom? ha)⟩
  | @list k items _ ih =>
    cases n with
    | zero => cases h
    | succ n =>
      obtain ⟨items', hitems', rfl⟩ := Option.map_eq_some_iff.mp h
      have hfits : ∀ t' ∈ items', t'.Fits n ∧ t'.Fits k := by
        intro t' ht'
        obtain ⟨t, ht, htt'⟩ := List.exists_mem_of_mapM_eq_some hitems' ht'
        exact ih t ht htt'
      exact ⟨.list fun t' ht' => (hfits t' ht').1, .list fun t' ht' => (hfits t' ht').2⟩
  | @record k entries _ _ ihkeys ihvalues =>
    cases n with
    | zero => cases h
    | succ n =>
      obtain ⟨entries', hentries', rfl⟩ := Option.map_eq_some_iff.mp h
      have hfits : ∀ e' ∈ entries', (e'.1.Fits n ∧ e'.1.Fits k) ∧ e'.2.Fits n ∧ e'.2.Fits k := by
        intro e' he'
        obtain ⟨e, he, hee'⟩ := List.exists_mem_of_mapM_eq_some hentries' he'
        obtain ⟨key, hkey, hee'⟩ := Option.bind_eq_some_iff.mp hee'
        obtain ⟨value, hvalue, ⟨⟩⟩ := Option.bind_eq_some_iff.mp hee'
        exact ⟨ihkeys e he hkey, ihvalues e he hvalue⟩
      exact ⟨.record (fun e' he' => (hfits e' he').1.1) fun e' he' => (hfits e' he').2.1,
        .record (fun e' he' => (hfits e' he').1.2) fun e' he' => (hfits e' he').2.2⟩
  | tagged _ _ => cases n <;> cases h

/-- Settling the tree of a value gives the settled tree of the value. -/
lemma settle_spell {n : Nat} {v : Value} (hi : v.Integral) (hv : v.Fits n) :
    (spell v : Tree Json.Leaf).settle n = some (spell v) := by
  induction v using Value.induction generalizing n with
  | null => exact settle_leaf n _
  | bool b => exact settle_leaf n _
  | string s => exact settle_leaf n _
  | number m =>
    cases m with
    | int i =>
      have hvalue := Json.number?_ofInt (Value.integral_number.mp hi)
      refine (settle_leaf n _).trans ?_
      change (Option.map _ (Json.Numeral.ofInt i).number?).map leaf = _
      rw [hvalue]
      rfl
    | float x => exact (Value.integral_number.mp hi).elim
  | array items ih =>
    cases n with
    | zero => exact hv.elim
    | succ n =>
      rw [Value.integral_array] at hi
      rw [spell_array, spell_array, settle,
        List.mapM_map_eq_some fun v hmem => ih v hmem (hi v hmem) (hv v hmem)]
      rfl
  | object members ih =>
    cases n with
    | zero => exact hv.elim
    | succ n =>
      rw [Value.integral_object] at hi
      rw [spell_object, spell_object, settle, List.mapM_map_eq_some (h := spellMember)]
      · rfl
      · intro m hm
        simp only [spellMember, settle_leaf, ih m hm (hi m hm) (hv m hm)]
        rfl

end Tree

end ApiOperations
