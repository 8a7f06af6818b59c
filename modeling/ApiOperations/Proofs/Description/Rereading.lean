import ApiOperations.Description.Reading
import ApiOperations.Proofs.Description.Rows

/-!
Descriptions that are found again in what is written for them: free values, references, schemas, and
what is made of these.
-/

namespace ApiOperations.Description

open Json (Value)
open ApiOperations.Tree (spell spellMember spell_array spell_object)
open Reading (rereads_flag rereads_variant)

/-! ### Free values -/

lemma readValue_leaf (n : Nat) (s : Atom) : readValue n (.leaf s) = readValue 0 (.leaf s) := by
  cases n <;> rfl

/-- The member of a free record that an entry gives. -/
def readMember (n : Nat) (e : Tree Atom × Tree Atom) : Option (String × Value) := do
  return (← memberKey? e.1, ← readValue n e.2)

lemma readValue_record (n : Nat) (entries : List (Tree Atom × Tree Atom)) :
    readValue (n + 1) (.record entries) = (entries.mapM (readMember n)).map Value.sortedObject :=
  rfl

/-- A free value is found again in its own tree: the members of an object are sorted already. -/
lemma readValue_again {k n : Nat} {t : Tree Atom} {v : Value} (ht : t.Fits k)
    (h : readValue n t = some v) : v.Fits k ∧ (v.Integral → readValue n (spell v) = some v) := by
  induction ht generalizing n v with
  | @leaf k s _ =>
    rw [readValue_leaf] at h
    obtain rfl := Option.some.inj h
    constructor
    · cases s <;> simp [Value.nat]
    · intro hi
      cases s with
      | null | bool b | string s | negativeZero | nonFinite => exact readValue_leaf n _
      | number m =>
        cases m with
        | int i => exact readValue_leaf n _
        | float x => exact (Value.integral_number.mp hi).elim
  | @list k items _ ih =>
    cases n with
    | zero => cases h
    | succ n =>
      obtain ⟨vs, hvs, rfl⟩ := Option.map_eq_some_iff.mp h
      have hitems : ∀ v ∈ vs, v.Fits k ∧ (v.Integral → readValue n (spell v) = some v) := by
        intro v hv
        obtain ⟨t, ht, htv⟩ := List.exists_mem_of_mapM_eq_some hvs hv
        exact ih t ht htv
      refine ⟨fun v hv => (hitems v hv).1, fun hi => ?_⟩
      have hagain : ∀ v ∈ vs, readValue n (spell v) = some v := fun v hv =>
        (hitems v hv).2 (Value.integral_array.mp hi v hv)
      rw [spell_array, readValue, List.mapM_map_eq_self hagain]
      rfl
  | @record k entries _ _ _ ih =>
    cases n with
    | zero => cases h
    | succ n =>
      obtain ⟨ms, hms, rfl⟩ := Option.map_eq_some_iff.mp h
      obtain ⟨members, heq, hascending, hmem⟩ := Value.exists_sortedObject ms
      have hmembers : ∀ m ∈ members,
          m.2.Fits k ∧ (m.2.Integral → readValue n (spell m.2) = some m.2) := by
        intro m hm
        obtain ⟨e, he, hem⟩ := List.exists_mem_of_mapM_eq_some hms (hmem m hm)
        obtain ⟨key, _, hem⟩ := Option.bind_eq_some_iff.mp hem
        obtain ⟨value, hvalue, ⟨⟩⟩ := Option.bind_eq_some_iff.mp hem
        exact ih e he hvalue
      rw [heq]
      refine ⟨fun m hm => (hmembers m hm).1, fun hi => ?_⟩
      have hread : ∀ m ∈ members, readMember n (spellMember m) = some m := by
        intro m hm
        have hvalue := (hmembers m hm).2 (Value.integral_object.mp hi m hm)
        rw [readMember, spellMember, hvalue]
        rfl
      rw [spell_object, readValue_record, List.mapM_map_eq_self hread, Option.map_some,
        hascending.sortedObject_eq]
  | tagged _ _ => cases n <;> cases h

lemma rereads_value {c : Nat} : Reading.Rereads c readValue id := fun _ _ =>
  ⟨fun _ ht h => (readValue_again ht h).1, fun ht h => (readValue_again ht h).2⟩

/-- Null stands for no value at all where a value may be absent. -/
lemma neverNull_value : Reading.NeverNull readValue id := by
  intro n k t v ht h
  have hv := Reading.eq_some_of_optional h
  cases ht with
  | @leaf k s hplain =>
    rw [readValue_leaf] at hv
    obtain rfl := Option.some.inj hv
    cases s with
    | null => cases h
    | nonFinite => exact absurd rfl hplain
    | bool b | number m | negativeZero | string s => exact Value.noConfusion
  | list _ =>
    cases n with
    | zero => cases hv
    | succ n =>
      obtain ⟨vs, _, rfl⟩ := Option.map_eq_some_iff.mp hv
      exact Value.noConfusion
  | record _ _ =>
    cases n with
    | zero => cases hv
    | succ n =>
      obtain ⟨ms, _, rfl⟩ := Option.map_eq_some_iff.mp hv
      exact Value.noConfusion
  | tagged _ => cases n <;> cases hv

/-! ### References -/

/-- An object that is no reference. -/
def IsInline (v : Value) : Prop :=
  ∃ ms, v = .object ms ∧ ∀ m ∈ ms, m.1 ≠ "$ref"

lemma pointer?_inline {v : Value} (hv : IsInline v) (n : Nat) : pointer? n (spell v) = none := by
  obtain ⟨ms, rfl, hms⟩ := hv
  have hslots : Reading.slotsOf (σ := Atom) ["$ref"] (ms.map spellMember) = some [] := by
    induction ms with
    | nil => rfl
    | cons m ms ih =>
      obtain ⟨hm, hms⟩ := List.forall_mem_cons.mp hms
      have hkey : Reading.fieldName? (σ := Atom) ["$ref"] (spellMember m).1 = some none :=
        congrArg some (if_neg (by simpa using hm))
      rw [List.map_cons, ← Prod.eta (spellMember m), Reading.slotsOf, ih hms, hkey]
      rfl
  cases n with
  | zero => rw [spell_object]; rfl
  | succ n =>
    rw [spell_object]
    change ((Reading.slotsOf ["$ref"] _).map _).bind _ = _
    rw [hslots]
    rfl

lemma rereads_pointer {c : Nat} : Reading.Rereads c pointer? refValue := by
  intro n hn
  have hopened : ∀ {k t p}, t.Fits k → pointer? n t = some p → ∃ m l, n = m + 1 ∧ k = l + 1 := by
    intro k t p ht h
    obtain ⟨f, hf, _⟩ := Option.bind_eq_some_iff.mp h
    obtain ⟨hn, l, hk, _⟩ := Reading.exists_of_openNamed_eq_some ht hf
    exact ⟨f.depth, l, hn, hk⟩
  constructor
  · intro k t p _ ht h
    obtain ⟨m, l, rfl, rfl⟩ := hopened ht h
    exact List.forall_mem_singleton.mpr (Value.fits_string l p)
  · intro k t p ht h _
    obtain ⟨m, l, rfl, rfl⟩ := hopened ht h
    rfl

/-- The reader tells references from other objects by one member. -/
lemma rereads_node {α : Type} {c : Nat} {r : Reading Atom α} {w : α → Value} (h : r.Rereads c w)
    (hw : ∀ x, IsInline (w x)) : (readNode r).Rereads c (nodeValue w) := by
  intro n hn
  refine (rereads_pointer n hn).or (f := .ref) (g := .inline) (h n hn)
    (fun x => pointer?_inline (hw x) n) fun t => ?_
  rw [readNode]
  cases pointer? n t <;> rfl

/-! ### Schemas -/

lemma rereads_typeKeyword {c : Nat} :
    readTypeKeyword.Rereads c fun keyword => .string keyword.word :=
  rereads_variant fun keyword => by cases keyword <;> rfl

lemma rereads_typeSet {c : Nat} : Reading.Rereads c readTypeSet TypeSet.toJson := by
  intro n hn
  have hlist := (rereads_typeKeyword (c := c - 1)).list n hn
  refine (rereads_typeKeyword n hn).or (f := .single) (g := .several) hlist (fun ks => ?_) fun t => ?_
  · rw [TypeSet.toJson, spell_array]
    rfl
  · rw [readTypeSet]
    cases readTypeKeyword n t <;> rfl

lemma exists_schemaValue_eq (s : Node Schema) : ∃ ms, schemaValue s = .object ms := by
  cases s with
  | ref p => exact ⟨_, rfl⟩
  | inline s => cases s; exact ⟨_, rfl⟩

lemma rereads_additional {c : Nat} {r : Reading Atom (Node Schema)} (h : r.Rereads c schemaValue) :
    (readAdditional r).Rereads c additionalValue := by
  intro n hn
  refine (rereads_flag n hn).or (f := .allowed) (g := .each) (h n hn) (fun s => ?_) fun t => ?_
  · obtain ⟨ms, hms⟩ := exists_schemaValue_eq s
    rw [additionalValue, hms, spell_object]
    rfl
  · rw [readAdditional]
    cases Reading.flag n t <;> rfl

end ApiOperations.Description
