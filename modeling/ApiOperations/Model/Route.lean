import ApiOperations.Model.Name

/-!
Paths of routes. A path is text with placeholders in braces. Two things are derived from it: the path
with every placeholder renamed to camelCase, and a name for the operation behind a method and a path.
-/

namespace ApiOperations.Route

open ApiOperations.Text

/-! ### Placeholders -/

/-- The characters before the first `c`, and those after it. -/
def splitAtFirst (c : Char) : List Char → Option (List Char × List Char)
  | [] => none
  | d :: ds => if d = c then some ([], ds) else (splitAtFirst c ds).map fun r => (d :: r.1, r.2)

theorem splitAtFirst_eq {c : Char} {cs a b : List Char} (h : splitAtFirst c cs = some (a, b)) :
    cs = a ++ c :: b ∧ c ∉ a := by
  induction cs generalizing a b with
  | nil => simp [splitAtFirst] at h
  | cons d ds ih =>
    by_cases hd : d = c
    · simp only [splitAtFirst, hd, if_true, Option.some.injEq, Prod.mk.injEq] at h
      obtain ⟨rfl, rfl⟩ := h
      simp [hd]
    · simp only [splitAtFirst, hd, if_false, Option.map_eq_some_iff] at h
      obtain ⟨⟨a', b'⟩, h', heq⟩ := h
      simp only [Prod.mk.injEq] at heq
      obtain ⟨rfl, rfl⟩ := heq
      obtain ⟨rfl, hc⟩ := ih h'
      simp [hc, Ne.symm hd]

/-- The path cut at its placeholders: a literal and a name for each of them, and the literal after the
last one. A brace that is never closed is literal, and so is all after it. -/
def segments (cs : List Char) : List (List Char × List Char) × List Char :=
  match _opened : splitAtFirst '{' cs with
  | none => ([], cs)
  | some (literal, afterOpen) =>
    match _closed : splitAtFirst '}' afterOpen with
    | none => ([], cs)
    | some (name, rest) =>
      let (segs, last) := segments rest
      ((literal, name) :: segs, last)
termination_by cs.length
decreasing_by
  have h1 := (splitAtFirst_eq _opened).1
  have h2 := (splitAtFirst_eq _closed).1
  subst h1 h2
  simp only [List.length_append, List.length_cons]
  omega

/-- The path that is made of the given literals and names. -/
def assemble : List (List Char × List Char) × List Char → List Char
  | ([], last) => last
  | ((literal, name) :: segs, last) => literal ++ '{' :: (name ++ '}' :: assemble (segs, last))

/-- The placeholder name in camelCase. -/
def camelName (name : List Char) : List Char :=
  (Name.ofString (String.ofList name)).camel.toList

/-- The path with the placeholders renamed to camelCase. -/
def normalize (path : String) : String :=
  let (segs, last) := segments path.toList
  String.ofList (assemble (segs.map fun s => (s.1, camelName s.2), last))

/-! ### Names of operations -/

/-- The parts between slashes that are not empty. -/
def parts (cs : List Char) : List (List Char) :=
  (cs.splitOn '/').filter (!·.isEmpty)

/-- A part that is a placeholder, from its first brace to its last. -/
def isPlaceholder (part : List Char) : Bool :=
  part.head? == some '{' && part.getLast? == some '}'

/-- The word that starts the name, for the method in upper case. -/
def verb (method : String) (single : Bool) : String :=
  match uppercased method with
  | "GET" => if single then "get" else "list"
  | "POST" => "create"
  | "PUT" => "update"
  | "DELETE" => "delete"
  | "PATCH" => "patch"
  | "OPTIONS" => "options"
  | "HEAD" => "head"
  | "TRACE" => "trace"
  | other => other

/-- The word with its ending replaced. -/
def withoutEnding (n : Nat) (cs : List Char) : List Char :=
  cs.take (cs.length - n)

/-- A guess at the singular of a plural word. -/
def singular (cs : List Char) : List Char :=
  if "ies".toList.isSuffixOf cs ∧ 3 < cs.length then withoutEnding 3 cs ++ ['y']
  else if "ses".toList.isSuffixOf cs ∨ "xes".toList.isSuffixOf cs ∨ "zes".toList.isSuffixOf cs then
    withoutEnding 2 cs
  else if "s".toList.isSuffixOf cs ∧ ¬ "ss".toList.isSuffixOf cs ∧ 1 < cs.length then
    withoutEnding 1 cs
  else cs

/-- The last of the words made singular. -/
def singularLast : List (List Char) → List (List Char)
  | [] => []
  | [w] => [singular w]
  | w :: v :: ws => w :: singularLast (v :: ws)

/-- The name of the operation behind a method and a path: the verb and the literal parts of the path.
A path that ends in a placeholder names a single thing. -/
def operationName (method path : String) : String :=
  let ps := parts path.toList
  let single := (ps.getLast?.map isPlaceholder).getD false
  let literals := ps.filter (!isPlaceholder ·)
  let resources := if single then singularLast literals else literals
  verb method single ++ String.ofList (resources.flatMap pascalCase)

end ApiOperations.Route
