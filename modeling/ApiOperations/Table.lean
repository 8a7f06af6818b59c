/-!
Tables: named values in the order of their first declaration. Look-up is `List.lookup`.
-/

namespace ApiOperations

/-- A list of named values. -/
abbrev Table (α : Type) := List (String × α)

namespace Table

variable {α : Type}

/-- Put a value under a key; a key that is there keeps its place. -/
def put (k : String) (v : α) : Table α → Table α
  | [] => [(k, v)]
  | (l, w) :: rest => if l = k then (k, v) :: rest else (l, w) :: put k v rest

/-- The table of a list of entries: keys in the order of their first entries, each with the value of
its last entry. -/
def ofEntries (entries : List (String × α)) : Table α :=
  entries.foldl (fun table e => put e.1 e.2 table) []

/-- The names in a table, in order. -/
def names (t : Table α) : List String :=
  t.map Prod.fst

end Table

end ApiOperations
