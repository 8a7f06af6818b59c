import ApiOperations.Tree.Atom

/-!
Document trees. A tree has leaves of some notation, lists, and records whose entries keep their order
and may repeat a key. How a leaf is understood depends on the notation, which is an instance of
`Dialect`; the leaves of type `Atom` are those whose type is already settled.
-/

namespace ApiOperations

inductive Tree (σ : Type) where
  | leaf (s : σ)
  | list (items : List (Tree σ))
  | record (entries : List (Tree σ × Tree σ))
  /-- A tree under the name of a variant. -/
  | tagged (tag : String) (body : Tree σ)

/-- A key of a record: the name of a field, or its position. -/
inductive Key where
  | name (s : String)
  | position (n : Nat)

/-- How the leaves of a notation are understood, and which other spellings of records it allows. -/
class Dialect (σ : Type) where
  /-- The leaf where a text is wanted. -/
  text? : σ → Option String
  /-- The leaf where a truth value is wanted. -/
  flag? : σ → Option Bool
  /-- The leaf where a natural number is wanted. -/
  natural? : σ → Option Nat
  /-- Whether the leaf says that an optional value is absent; nothing for a malformed leaf. -/
  absent? : σ → Option Bool
  /-- The leaf is the null value. -/
  isNull : σ → Bool
  /-- The leaf stands for a list or record without members. -/
  isEmpty : σ → Bool
  /-- The leaf as the key of a record with named fields. -/
  key? : σ → Option Key
  /-- The leaf with its type settled by its spelling alone. -/
  atom? : σ → Option Atom
  /-- A record with named fields may be written as the list of its values. -/
  positional : Bool
  /-- A variant may be written as a record with one null entry, or else as a tag. -/
  variantRecords : Bool

namespace Atom

/-- A field may be named by its text, or by its position in the order of declaration, which is a number
without a sign. -/
def key? : Atom → Option Key
  | string s => some (.name s)
  | number (.int n) => if 0 ≤ n then some (.position n.toNat) else none
  | _ => none

instance : Dialect Atom where
  text?
    | string s => some s
    | _ => none
  flag?
    | bool b => some b
    | _ => none
  natural?
    | number (.int n) => if 0 ≤ n then some n.toNat else none
    | negativeZero => some 0
    | _ => none
  absent?
    | null => some true
    | _ => some false
  isNull
    | null => true
    | _ => false
  isEmpty _ := false
  key? := key?
  atom? := some
  positional := true
  variantRecords := true

end Atom

namespace Tree

variable {σ : Type}

/-- The tree below its tags. -/
def untagged : Tree σ → Tree σ
  | tagged _ body => untagged body
  | t => t

/-- The tree with all its leaves settled, if it nests at most `n` deep and holds no tag. -/
def settle [Dialect σ] : Nat → Tree σ → Option (Tree Atom)
  | _, leaf s => (Dialect.atom? s).map leaf
  | n + 1, list items => (items.mapM (settle n)).map list
  | n + 1, record entries =>
    (entries.mapM fun (e : Tree σ × Tree σ) => do
      return (← settle n e.1, ← settle n e.2)).map record
  | _, _ => none

end Tree

end ApiOperations
