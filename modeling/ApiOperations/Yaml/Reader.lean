import ApiOperations.Tree.Shape
import ApiOperations.Yaml.Resolution
import ApiOperations.Yaml.Token.Scanner

/-!
Reading YAML texts into trees. An alias stands for the node of its anchor wherever a reader looks at
it, even inside of that node, so a tree is unfolded along the shape of what is read. At most 128
collections may be open at a time, and aliases may be followed a hundred times for each node and end
of a collection.
-/

namespace ApiOperations.Yaml

/-- The number of collections that may be open at a time. -/
def maxDepth : Nat := 128

namespace Document

variable (d : Document)

/-- The node that is meant, and the number of aliases that may still be followed. -/
def target (n : Node) (aliases : Nat) : Option (Node × Nat) :=
  match n with
  | .alias number =>
    match aliases with
    | 0 => none
    | k + 1 => (d.anchored number).map (·, k)
  | n => some (n, aliases)

/-- A node without its tag, and how the tag is put onto a tree. -/
def splitTag : Node → (Tree Scalar → Tree Scalar) × Node
  | .tagged name body => (.tagged name, body)
  | n => (id, n)

/-- The tree of a node, along a shape. -/
def unfold : Nat → Shape → Node → StateT Nat Option (Tree Scalar)
  | depth, shape, n => do
    match d.target n (← get) with
    | none => failure
    | some (n, aliases) =>
      set aliases
      let (retag, n) := splitTag n
      match n, depth with
      | .scalar s, _ => return retag (.leaf s)
      | .sequence items, depth + 1 =>
        let item := match shape with
          | .list s => s
          | _ => .whole
        return retag (.list (← items.mapM (unfold depth item)))
      | .mapping entries, depth + 1 =>
        let entries ← entries.filterMapM fun (e : Node × Node) => do
          let k ← unfold depth .whole e.1
          match shape, k.untagged with
          | .record _, .leaf s =>
            match shape.field? s.text with
            | some field => return some (k, ← unfold depth field e.2)
            | none => return none
          | .table value, _ => return some (k, ← unfold depth value e.2)
          | _, _ => return some (k, ← unfold depth .whole e.2)
        return retag (.record entries)
      | _, _ => failure

end Document

/-- The tree of a YAML text, along the shape of what is read from it. -/
def read (shape : Shape) (text : String) : Option (Tree Scalar) := do
  let d ← document? (← tokens text)
  let (t, _) ← (d.unfold maxDepth shape d.root).run (100 * d.events)
  return t

end ApiOperations.Yaml
