import Mathlib.Data.List.Basic
import ApiOperations.Description.Reading
import ApiOperations.Proofs.List
import ApiOperations.Proofs.Table
import ApiOperations.Proofs.Tree.Record

/-!
Schemas inside of schemas.

A schema has further nodes in six of its fields. What holds of a node if it holds of all that its
schema has, holds of every node, since what a schema has is smaller than the schema. A schema that is
read names each of its properties once, and so does every schema inside of it.
-/

namespace ApiOperations

namespace Description

/-- The node stands in a field of the schema. -/
inductive Schema.Has (s : Schema) : Node Schema → Prop
  | oneOf {node : Node Schema} : node ∈ s.oneOf → s.Has node
  | anyOf {node : Node Schema} : node ∈ s.anyOf → s.Has node
  | allOf {node : Node Schema} : node ∈ s.allOf → s.Has node
  | property {name : String} {node : Node Schema} : (name, node) ∈ s.properties → s.Has node
  | additional {node : Node Schema} : s.additional = some (.each node) → s.Has node
  | items {node : Node Schema} : s.items = some node → s.Has node

/-! ### Induction -/

lemma Schema.sizeOf_fields_lt (s : Schema) :
    sizeOf s.properties + sizeOf s.additional + sizeOf s.items + sizeOf s.allOf + sizeOf s.oneOf +
      sizeOf s.anyOf < sizeOf s := by
  cases s
  simp only [Schema.mk.sizeOf_spec]
  omega

lemma Schema.Has.sizeOf_lt {s : Schema} {node : Node Schema} (h : s.Has node) :
    sizeOf node < sizeOf s := by
  have hs := s.sizeOf_fields_lt
  cases h with
  | oneOf h | anyOf h | allOf h =>
    have := List.sizeOf_lt_of_mem h
    omega
  | property h =>
    have := List.sizeOf_lt_of_mem h
    rw [Prod.mk.sizeOf_spec] at this
    omega
  | additional h =>
    rw [h, Option.some.sizeOf_spec, Additional.each.sizeOf_spec] at hs
    omega
  | items h =>
    rw [h, Option.some.sizeOf_spec] at hs
    omega

/-- What holds of an inline schema if it holds of all that the schema has, holds of every node. -/
@[elab_as_elim]
theorem node_induction {motive : Node Schema → Prop} (node : Node Schema)
    (ref : ∀ p, motive (.ref p))
    (inline : ∀ s : Schema, (∀ node, s.Has node → motive node) → motive (.inline s)) :
    motive node := by
  cases node with
  | ref p => exact ref p
  | inline s => exact inline s fun node _ => node_induction node ref inline
termination_by sizeOf node
decreasing_by
  rename_i hnode
  rw [Node.inline.sizeOf_spec]
  exact hnode.sizeOf_lt.trans (Nat.lt_add_of_pos_left Nat.one_pos)

/-! ### Names of properties -/

/-- The schema stands in the node, at any depth. -/
inductive Contains (s : Schema) : Node Schema → Prop
  | whole : Contains s (.inline s)
  | inside {t : Schema} {node : Node Schema} : t.Has node → Contains s node → Contains s (.inline t)

/-- No schema in the node names a property twice. -/
def DistinctProperties (node : Node Schema) : Prop :=
  ∀ s, Contains s node → Table.Unique s.properties

lemma distinctProperties_ref (p : String) : DistinctProperties (.ref p) := by
  rintro s ⟨⟩

lemma distinctProperties_inline {s : Schema} (h : Table.Unique s.properties)
    (hinside : ∀ node, s.Has node → DistinctProperties node) : DistinctProperties (.inline s) := by
  intro t ht
  cases ht with
  | whole => exact h
  | inside hnode ht => exact hinside _ hnode t ht

end Description

/-! ### What is read -/

namespace Reading

variable {σ α : Type} [Dialect σ] {P : α → Prop} {r : Reading σ α}

/-- Whatever the reading finds has the property. -/
def Gives (r : Reading σ α) (P : α → Prop) : Prop :=
  ∀ n t x, r n t = some x → P x

lemma Gives.list (h : r.Gives P) : (list r).Gives fun xs => ∀ x ∈ xs, P x := by
  intro n t xs hxs x hx
  unfold Reading.list at hxs
  split at hxs
  · split_ifs at hxs
    cases hxs
    cases hx
  · obtain ⟨t, -, ht⟩ := List.exists_mem_of_mapM_eq_some hxs hx
    exact h _ t x ht
  · cases hxs

lemma Gives.table (h : r.Gives P) : (table r).Gives fun xs => ∀ e ∈ xs, P e.2 := by
  intro n t xs hxs e he
  unfold Reading.table at hxs
  split at hxs
  · split_ifs at hxs
    cases hxs
    cases he
  · obtain ⟨es, hes, rfl⟩ := Option.map_eq_some_iff.mp hxs
    obtain ⟨e', -, he'⟩ := List.exists_mem_of_mapM_eq_some hes (Table.mem_of_mem_ofEntries he)
    obtain ⟨key, -, he'⟩ := Option.bind_eq_some_iff.mp he'
    obtain ⟨value, hvalue, ⟨⟩⟩ := Option.bind_eq_some_iff.mp he'
    exact h _ _ value hvalue
  · cases hxs

lemma Gives.optional {f : Fields σ} (h : r.Gives P) {name : String} {x : α}
    (hx : f.optional name r = some (some x)) : P x := by
  unfold Fields.optional at hx
  split at hx
  · exact h _ _ x (eq_some_of_optional hx)
  · cases hx
  · cases hx

omit [Dialect σ] in
lemma Gives.defaulted {f : Fields σ} (h : r.Gives P) {name : String} {value x : α}
    (hvalue : P value) (hx : f.defaulted name r value = some x) : P x := by
  unfold Fields.defaulted at hx
  split at hx
  · exact h _ _ x hx
  · cases hx
    exact hvalue

end Reading

namespace Description

lemma gives_readNode {r : Reading Atom Schema} (h : r.Gives fun s => DistinctProperties (.inline s)) :
    (readNode r).Gives DistinctProperties := by
  intro n t node hnode
  unfold readNode at hnode
  split at hnode
  · cases hnode
    exact distinctProperties_ref _
  · obtain ⟨s, hs, rfl⟩ := Option.map_eq_some_iff.mp hnode
    exact h n t s hs

lemma distinctProperties_of_readSchemaFields {node : Reading Atom (Node Schema)}
    (hnode : node.Gives DistinctProperties) {f : Fields Atom} {s : Schema}
    (h : readSchemaFields node f = some s) : DistinctProperties (.inline s) := by
  obtain ⟨type, -, h⟩ := Option.bind_eq_some_iff.mp h
  obtain ⟨format, -, h⟩ := Option.bind_eq_some_iff.mp h
  obtain ⟨description, -, h⟩ := Option.bind_eq_some_iff.mp h
  obtain ⟨default, -, h⟩ := Option.bind_eq_some_iff.mp h
  obtain ⟨nullable, -, h⟩ := Option.bind_eq_some_iff.mp h
  obtain ⟨properties, hproperties, h⟩ := Option.bind_eq_some_iff.mp h
  obtain ⟨required, -, h⟩ := Option.bind_eq_some_iff.mp h
  obtain ⟨additional, hadditional, h⟩ := Option.bind_eq_some_iff.mp h
  obtain ⟨items, hitems, h⟩ := Option.bind_eq_some_iff.mp h
  obtain ⟨allOf, hallOf, h⟩ := Option.bind_eq_some_iff.mp h
  obtain ⟨oneOf, honeOf, h⟩ := Option.bind_eq_some_iff.mp h
  obtain ⟨anyOf, hanyOf, h⟩ := Option.bind_eq_some_iff.mp h
  obtain ⟨enum, -, h⟩ := Option.bind_eq_some_iff.mp h
  obtain ⟨const, -, ⟨⟩⟩ := Option.bind_eq_some_iff.mp h
  refine distinctProperties_inline (Fields.unique_of_defaulted hproperties) fun child hchild => ?_
  cases hchild with
  | oneOf hmem => exact hnode.list.defaulted (List.forall_mem_nil _) honeOf child hmem
  | anyOf hmem => exact hnode.list.defaulted (List.forall_mem_nil _) hanyOf child hmem
  | allOf hmem => exact hnode.list.defaulted (List.forall_mem_nil _) hallOf child hmem
  | property hmem => exact hnode.table.defaulted (List.forall_mem_nil _) hproperties _ hmem
  | additional heq =>
    obtain rfl : additional = _ := heq
    have hgives : (readAdditional node).Gives fun a => ∀ child, a = .each child →
        DistinctProperties child := by
      rintro n t a ha child rfl
      unfold readAdditional at ha
      split at ha
      · cases ha
      · obtain ⟨_, hc, ⟨⟩⟩ := Option.map_eq_some_iff.mp ha
        exact hnode n t child hc
    exact hgives.optional hadditional child rfl
  | items heq =>
    obtain rfl : items = _ := heq
    exact hnode.optional hitems

/-- **Properties that are read.** The induction is on the steps of the reader, which takes one for each
schema inside of another. -/
lemma distinctProperties_of_readSchema (n : Nat) :
    ∀ t s, readSchema n t = some s → DistinctProperties (.inline s) := by
  induction n with
  | zero =>
    intro t s h
    cases h
  | succ n ih =>
    intro t s h
    obtain ⟨f, -, h⟩ := Option.bind_eq_some_iff.mp h
    exact distinctProperties_of_readSchemaFields (gives_readNode fun _ => ih) h

lemma gives_readSchemaNode : readSchemaNode.Gives DistinctProperties :=
  gives_readNode distinctProperties_of_readSchema

end Description

end ApiOperations
