import Mathlib.Data.String.Basic
import ApiOperations.Json.Value
import ApiOperations.Proofs.List

/-!
Three properties of JSON values: all numbers in a value are integers, a value nests at most so deep,
and the members of an object stand in the order of their keys, each key once.
-/

namespace ApiOperations.Json

/-- The number is an integer of 64 bits, with or without a sign. -/
def Number.IsInteger : Number → Prop
  | .int n => fitsInteger n
  | .float _ => False

instance : DecidablePred Number.IsInteger
  | .int n => inferInstanceAs (Decidable (fitsInteger n = true))
  | .float _ => inferInstanceAs (Decidable False)

namespace Value

/-- Induction on values, with the hypothesis for all items of an array and all members of an object. -/
@[elab_as_elim]
theorem induction {P : Value → Prop} (null : P .null) (bool : ∀ b, P (.bool b))
    (number : ∀ n, P (.number n)) (string : ∀ s, P (.string s))
    (array : ∀ items, (∀ v ∈ items, P v) → P (.array items))
    (object : ∀ members, (∀ m ∈ members, P m.2) → P (.object members)) (v : Value) : P v := by
  refine Value.rec (motive_1 := P) (motive_2 := fun items => ∀ v ∈ items, P v)
    (motive_3 := fun members => ∀ m ∈ members, P m.2) (motive_4 := fun m => P m.2)
    null bool number string array object ?_ ?_ ?_ ?_ ?_ v
  · exact List.forall_mem_nil _
  · intro v items hv hitems
    exact List.forall_mem_cons.mpr ⟨hv, hitems⟩
  · exact List.forall_mem_nil _
  · intro m members hm hmembers
    exact List.forall_mem_cons.mpr ⟨hm, hmembers⟩
  · intro k v hv
    exact hv

/-! ### Numbers -/

mutual

/-- The numbers in a value, in the order of writing. -/
def numbers : Value → List Number
  | number n => [n]
  | array items => numbersOfItems items
  | object members => numbersOfMembers members
  | _ => []

def numbersOfItems : List Value → List Number
  | [] => []
  | v :: vs => numbers v ++ numbersOfItems vs

def numbersOfMembers : List (String × Value) → List Number
  | [] => []
  | (_, v) :: ms => numbers v ++ numbersOfMembers ms

end

@[simp] lemma numbers_null : null.numbers = [] := rfl
@[simp] lemma numbers_bool (b : Bool) : (bool b).numbers = [] := rfl
@[simp] lemma numbers_string (s : String) : (string s).numbers = [] := rfl
@[simp] lemma numbers_number (n : Number) : (number n).numbers = [n] := rfl

@[simp] lemma numbers_array (items : List Value) : (array items).numbers = items.flatMap numbers := by
  have hitems : numbersOfItems items = items.flatMap numbers := by
    induction items with
    | nil => rfl
    | cons v vs ih => rw [numbersOfItems, ih, List.flatMap_cons]
  rw [numbers, hitems]

@[simp] lemma numbers_object (members : List (String × Value)) :
    (object members).numbers = members.flatMap fun m => m.2.numbers := by
  have hmembers : numbersOfMembers members = members.flatMap fun m => m.2.numbers := by
    induction members with
    | nil => rfl
    | cons m ms ih => rw [numbersOfMembers, ih, List.flatMap_cons]
  rw [numbers, hmembers]

/-- All numbers in the value are integers. -/
def Integral (v : Value) : Prop :=
  ∀ n ∈ v.numbers, n.IsInteger

instance : DecidablePred Integral := fun v =>
  inferInstanceAs (Decidable (∀ n ∈ v.numbers, n.IsInteger))

lemma integral_number {n : Number} : (number n).Integral ↔ n.IsInteger :=
  List.forall_mem_singleton

lemma integral_array {items : List Value} : (array items).Integral ↔ ∀ v ∈ items, v.Integral := by
  rw [Integral, numbers_array, List.forall_mem_flatMap]
  rfl

lemma integral_object {members : List (String × Value)} :
    (object members).Integral ↔ ∀ m ∈ members, m.2.Integral := by
  rw [Integral, numbers_object, List.forall_mem_flatMap]
  rfl

/-! ### Nesting -/

/-- At most `n` containers are open anywhere in the value. -/
def Fits : Nat → Value → Prop
  | n + 1, array items => ∀ v ∈ items, v.Fits n
  | n + 1, object members => ∀ m ∈ members, m.2.Fits n
  | 0, array _ => False
  | 0, object _ => False
  | _, _ => True

@[simp] lemma fits_null (n : Nat) : null.Fits n := by cases n <;> exact trivial
@[simp] lemma fits_bool (n : Nat) (b : Bool) : (bool b).Fits n := by cases n <;> exact trivial
@[simp] lemma fits_number (n : Nat) (m : Number) : (number m).Fits n := by cases n <;> exact trivial
@[simp] lemma fits_string (n : Nat) (s : String) : (string s).Fits n := by cases n <;> exact trivial

/-! ### Sorted members -/

/-- The keys of the members ascend. -/
def Ascending (members : List (String × Value)) : Prop :=
  members.Pairwise fun m m' => m.1 < m'.1

lemma mem_insertMember {k : String} {v : Value} {ms : List (String × Value)} {m : String × Value}
    (h : m ∈ insertMember k v ms) : m = (k, v) ∨ m ∈ ms := by
  induction ms with
  | nil => exact .inl (List.mem_singleton.mp h)
  | cons m' ms ih =>
    rw [insertMember] at h
    split_ifs at h
    · exact List.mem_cons.mp h
    · exact (List.mem_cons.mp h).imp_right (List.mem_cons_of_mem _)
    · rcases List.mem_cons.mp h with rfl | h
      · exact .inr List.mem_cons_self
      · exact (ih h).imp_right (List.mem_cons_of_mem _)

lemma Ascending.insertMember {ms : List (String × Value)} (h : Ascending ms) (k : String) (v : Value) :
    Ascending (insertMember k v ms) := by
  induction ms with
  | nil => exact List.pairwise_singleton _ _
  | cons m ms ih =>
    obtain ⟨hm, hms⟩ := List.pairwise_cons.mp h
    rw [Value.insertMember]
    split_ifs with hlt heq
    · refine List.pairwise_cons.mpr ⟨fun m' hm' => ?_, h⟩
      rcases List.mem_cons.mp hm' with rfl | hm'
      · exact hlt
      · exact hlt.trans (hm m' hm')
    · subst heq
      exact List.pairwise_cons.mpr ⟨hm, hms⟩
    · refine List.pairwise_cons.mpr ⟨fun m' hm' => ?_, ih hms⟩
      rcases mem_insertMember hm' with rfl | hm'
      · exact lt_of_le_of_ne (not_lt.mp hlt) (Ne.symm heq)
      · exact hm m' hm'

/-- A member whose key comes after all others is put at the end. -/
lemma insertMember_of_forall_lt {ms : List (String × Value)} {k : String} (v : Value)
    (h : ∀ m ∈ ms, m.1 < k) : insertMember k v ms = ms ++ [(k, v)] := by
  induction ms with
  | nil => rfl
  | cons m ms ih =>
    obtain ⟨hm, hms⟩ := List.forall_mem_cons.mp h
    rw [insertMember, if_neg hm.asymm, if_neg hm.ne', ih hms, List.cons_append]

/-- Sorting gives an object whose members ascend and come from the list. -/
lemma exists_sortedObject (ms : List (String × Value)) :
    ∃ members, sortedObject ms = object members ∧ Ascending members ∧ ∀ m ∈ members, m ∈ ms := by
  refine ⟨_, rfl, ?_, fun m hm => ?_⟩
  · exact List.foldlRecOn ms _ List.Pairwise.nil fun _ h m _ => Ascending.insertMember h m.1 m.2
  · exact (List.mem_of_mem_foldl (fun _ _ _ => mem_insertMember) hm).resolve_left List.not_mem_nil

/-- Members that ascend are left alone. -/
lemma Ascending.sortedObject_eq {ms : List (String × Value)} (h : Ascending ms) :
    sortedObject ms = object ms :=
  congrArg object (List.foldl_eq_self (fun _ m => insertMember_of_forall_lt m.2) h)

/-! ### Look-up -/

/-- The value of a member of an object. -/
def member? (name : String) : Value → Option Value
  | object members => members.lookup name
  | _ => none

/-- The items of an array. -/
def items : Value → List Value
  | array items => items
  | _ => []

lemma lookup_cons (k : String) (v : Value) (ms : List (String × Value)) (name : String) :
    ((k, v) :: ms).lookup name = if name = k then some v else ms.lookup name := by
  rw [List.lookup_cons]
  by_cases h : name = k
  · rw [if_pos h, beq_iff_eq.mpr h]
  · rw [if_neg h, beq_eq_false_iff_ne.mpr h]

lemma lookup_insertMember (k : String) (v : Value) (ms : List (String × Value)) (name : String) :
    (Value.insertMember k v ms).lookup name = if name = k then some v else ms.lookup name := by
  induction ms with
  | nil => rw [Value.insertMember, lookup_cons]
  | cons m ms ih =>
    obtain ⟨l, w⟩ := m
    rw [Value.insertMember]
    by_cases hname : name = k
    · subst hname
      rw [if_pos rfl] at ih ⊢
      split_ifs with hlt heq
      · rw [lookup_cons, if_pos rfl]
      · rw [lookup_cons, if_pos rfl]
      · rw [lookup_cons, if_neg heq, ih]
    · rw [if_neg hname] at ih ⊢
      split_ifs with hlt heq
      · rw [lookup_cons, if_neg hname]
      · subst heq
        rw [lookup_cons, if_neg hname, lookup_cons, if_neg hname]
      · rw [lookup_cons, ih, lookup_cons]

/-- Of the members with a name the last one counts. -/
lemma member?_sortedObject (ms : List (String × Value)) (name : String) :
    (sortedObject ms).member? name = ms.reverse.lookup name := by
  suffices h : ∀ acc : List (String × Value),
      (ms.foldl (fun acc m => Value.insertMember m.1 m.2 acc) acc).lookup name =
        (ms.reverse.lookup name).or (acc.lookup name) by
    have hstart := h []
    rwa [List.lookup_nil, Option.or_none] at hstart
  induction ms with
  | nil => exact fun acc => rfl
  | cons m ms ih =>
    intro acc
    rw [List.foldl_cons, ih, lookup_insertMember, List.reverse_cons, List.lookup_append,
      Option.or_assoc, lookup_cons, List.lookup_nil]
    split_ifs <;> rfl

end Value

end ApiOperations.Json
