import ApiOperations.Table
import ApiOperations.Tree.Basic

/-!
Readings: partial functions from trees to values of the domain. A reading also takes the number of
containers that may still be opened; opening a list or record costs one. An absent result stands for
a tree that has the wrong type, misses a field, repeats one or nests too deep.

A record with named fields is read in two steps. First its entries are sorted into slots, one for
each name: unknown names are passed over and a name may not occur twice. Then each field is read from
its slot: a required field must be given, an optional one may be omitted or null, a defaulted one may
be omitted. In a positional record the slots are filled in order, and an optional field that lies
beyond the end is missing.
-/

namespace ApiOperations

/-- A way to read trees within a bound on nesting. -/
abbrev Reading (σ α : Type) := Nat → Tree σ → Option α

/-- What a record says about one of its fields. -/
inductive Slot (σ : Type) where
  | given (t : Tree σ)
  | omitted
  /-- The positional record ends before this field. -/
  | beyond

/-- The fields of an opened record, and the nesting left for their values. -/
structure Fields (σ : Type) where
  slots : List (String × Slot σ)
  depth : Nat

namespace Reading

variable {σ α : Type} [Dialect σ]

def text : Reading σ String := fun _ t =>
  match t.untagged with
  | .leaf s => Dialect.text? s
  | _ => none

def flag : Reading σ Bool := fun _ t =>
  match t.untagged with
  | .leaf s => Dialect.flag? s
  | _ => none

/-- A natural number of 16 bits. -/
def natural16 : Reading σ Nat := fun _ t =>
  match t.untagged with
  | .leaf s => (Dialect.natural? s).filter (· < Nat.pow 2 16)
  | _ => none

/-- A value that a null leaf leaves out. -/
def optional (r : Reading σ α) : Reading σ (Option α) := fun n t =>
  match t with
  | .leaf s =>
    match Dialect.absent? s with
    | none => none
    | some true => some none
    | some false => (r n t).map some
  | _ => (r n t).map some

def list (r : Reading σ α) : Reading σ (List α) := fun n t =>
  match t.untagged, n with
  | .leaf s, _ => if Dialect.isEmpty s then some [] else none
  | .list items, n + 1 => items.mapM (r n)
  | _, _ => none

/-- A record whose keys are data. -/
def table (r : Reading σ α) : Reading σ (Table α) := fun n t =>
  match t.untagged, n with
  | .leaf s, _ => if Dialect.isEmpty s then some [] else none
  | .record entries, n + 1 =>
    (entries.mapM fun (e : Tree σ × Tree σ) => do
      return (← text n e.1, ← r n e.2)).map Table.ofEntries
  | _, _ => none

/-- The body of a variant is null. -/
def isNull : Tree σ → Bool
  | .leaf s => Dialect.isNull s
  | _ => false

/-- One of a list of named values, written as its name or as the name of a null variant. -/
def variant (names : List (String × α)) : Reading σ α := fun n t =>
  match t with
  | .leaf s => (Dialect.text? s).bind fun k => names.lookup k
  | .tagged tag body =>
    if !Dialect.variantRecords σ && isNull body then names.lookup tag else none
  | .record [(.leaf k, body)] =>
    if Dialect.variantRecords σ && 0 < n && isNull body then
      match Dialect.key? k with
      | some (.name s) => names.lookup s
      | some (.position i) => (names.map Prod.snd)[i]?
      | none => none
    else none
  | _ => none

/-- The name of the field that a key means, among the names of a record. -/
def fieldName? (names : List String) : Tree σ → Option (Option String)
  | .leaf s => (Dialect.key? s).map fun
    | .name k => if names.contains k then some k else none
    | .position i => names[i]?
  | .tagged _ (.leaf s) => (Dialect.text? s).map fun k => if names.contains k then some k else none
  | _ => none

/-- Sort entries into slots. -/
def slotsOf (names : List String) : List (Tree σ × Tree σ) → Option (List (String × Slot σ))
  | [] => some []
  | (k, v) :: rest => do
    let slots ← slotsOf names rest
    match ← fieldName? names k with
    | none => some slots
    | some name =>
      if (slots.lookup name).isSome then none else some ((name, .given v) :: slots)

/-- The slots of a positional record. -/
def positionalSlots : List String → List (Tree σ) → List (String × Slot σ)
  | [], _ => []
  | name :: names, [] => (name, .beyond) :: positionalSlots names []
  | name :: names, t :: ts => (name, .given t) :: positionalSlots names ts

/-- Open a record that is written as such, with fields of the given names. -/
def openNamed (names : List String) : Reading σ (Fields σ) := fun n t =>
  match t.untagged, n with
  | .leaf s, n => if Dialect.isEmpty s then some ⟨[], n⟩ else none
  | .record entries, n + 1 => (slotsOf names entries).map (⟨·, n⟩)
  | _, _ => none

/-- Open a record with fields of the given names. -/
def openRecord (names : List String) : Reading σ (Fields σ) := fun n t =>
  match t.untagged, n with
  | .list items, n + 1 =>
    if Dialect.positional σ && items.length ≤ names.length then
      some ⟨positionalSlots names items, n⟩
    else none
  | _, _ => openNamed names n t

/-- Settle the types of all leaves, then read. -/
def settled (r : Reading Atom α) : Reading σ α := fun n t => (t.settle n).bind (r n)

end Reading

namespace Fields

variable {σ α : Type} [Dialect σ]

def slot (f : Fields σ) (name : String) : Slot σ :=
  (f.slots.lookup name).getD .omitted

/-- A field that must be given. -/
def required (f : Fields σ) (name : String) (r : Reading σ α) : Option α :=
  match f.slot name with
  | .given t => r f.depth t
  | _ => none

/-- A field that may be omitted or null. -/
def optional (f : Fields σ) (name : String) (r : Reading σ α) : Option (Option α) :=
  match f.slot name with
  | .given t => Reading.optional r f.depth t
  | .omitted => some none
  | .beyond => none

/-- A field that may be omitted, with the value it then has. -/
def defaulted (f : Fields σ) (name : String) (r : Reading σ α) (value : α) : Option α :=
  match f.slot name with
  | .given t => r f.depth t
  | _ => some value

end Fields

end ApiOperations
