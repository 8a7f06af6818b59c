import Mathlib.Data.List.Basic
import ApiOperations.Proofs.Reference.Location

/-!
Names in pointers.

A name is written into a pointer with its tildes and slashes escaped. The token is read in two passes,
slashes first and tildes second. The two come to one pass from the left, since the first never makes a
pair that the second would take, and that one pass undoes the escaping. So whatever a name looks like,
also if it has the look of an escape itself, there is a pointer to it in every layout of its section.
-/

namespace ApiOperations

namespace Pointer

open ApiOperations.Text

/-! ### Two passes and one -/

/-- A token read from the left: `~1` is a slash, `~0` is a tilde and all else stands for itself. -/
def decode : List Char → List Char
  | [] => []
  | [c] => [c]
  | c :: d :: cs =>
    if c = '~' ∧ d = '1' then '/' :: decode cs
    else if c = '~' ∧ d = '0' then '~' :: decode cs
    else c :: decode (d :: cs)

lemma decode_slash (cs : List Char) : decode ('~' :: '1' :: cs) = '/' :: decode cs := by
  simp [decode]

lemma decode_tilde (cs : List Char) : decode ('~' :: '0' :: cs) = '~' :: decode cs := by
  simp [decode]

lemma decode_cons_of_ne {c : Char} (h : c ≠ '~') (cs : List Char) :
    decode (c :: cs) = c :: decode cs := by
  cases cs <;> simp [decode, h]

/-- Replacing by another character brings no `b` to the front. -/
lemma head?_replacePair_ne {a b r x : Char} (hr : r ≠ x) {cs : List Char} (h : cs.head? ≠ some x) :
    (replacePair a b r cs).head? ≠ some x := by
  induction cs using replacePair.induct a b with
  | case1 => simp
  | case2 c => simpa [replacePair] using h
  | case3 c d cs hpair => simpa [replacePair, hpair] using hr
  | case4 c d cs hpair => simpa [replacePair, hpair] using h

lemma unescape_eq_decode (token : List Char) : unescape token = decode token := by
  induction token using decode.induct with
  | case1 => rfl
  | case2 c => simp [unescape, replacePair, decode]
  | case3 c d cs hslash ih =>
    obtain ⟨rfl, rfl⟩ := hslash
    rw [decode_slash, ← ih, unescape, replacePair_pair, replacePair_cons_of_ne _ _ (by decide),
      unescape]
  | case4 c d cs _ htilde ih =>
    obtain ⟨rfl, rfl⟩ := htilde
    have hfirst : replacePair '~' '1' '/' ('~' :: '0' :: cs) =
        '~' :: '0' :: replacePair '~' '1' '/' cs := by
      rw [replacePair_cons_of_head?_ne _ (by simp), replacePair_cons_of_ne _ _ (by decide)]
    rw [decode_tilde, ← ih, unescape, hfirst, replacePair_pair, unescape]
  | case5 c d cs hslash htilde ih =>
    rw [decode, if_neg hslash, if_neg htilde, ← ih, unescape, unescape]
    by_cases hc : c = '~'
    · subst hc
      have hd1 : d ≠ '1' := fun hd => hslash ⟨rfl, hd⟩
      have hd0 : d ≠ '0' := fun hd => htilde ⟨rfl, hd⟩
      -- the first pass leaves `d` where it is or puts a slash there, so the second finds no pair
      have hhead : (replacePair '~' '1' '/' (d :: cs)).head? ≠ some '0' :=
        head?_replacePair_ne (by decide) (by simpa using hd0)
      rw [replacePair_cons_of_head?_ne _ (by simpa using hd1),
        replacePair_cons_of_head?_ne _ hhead]
    · rw [replacePair_cons_of_ne _ _ hc, replacePair_cons_of_ne _ _ hc]

/-! ### Escaping -/

/-- A character of a name as it is written in a token. -/
def escapeChar (c : Char) : List Char :=
  if c = '~' then ['~', '0'] else if c = '/' then ['~', '1'] else [c]

/-- The token of a name. -/
def escape (name : String) : String :=
  String.ofList (name.toList.flatMap escapeChar)

lemma escapeChar_of_ne {c : Char} (htilde : c ≠ '~') (hslash : c ≠ '/') : escapeChar c = [c] := by
  simp [escapeChar, htilde, hslash]

lemma decode_flatMap_escapeChar (cs : List Char) : decode (cs.flatMap escapeChar) = cs := by
  induction cs with
  | nil => rfl
  | cons c cs ih =>
    rw [List.flatMap_cons]
    by_cases htilde : c = '~'
    · subst htilde
      have hstep := decode_tilde (cs.flatMap escapeChar)
      rwa [ih] at hstep
    · by_cases hslash : c = '/'
      · subst hslash
        have hstep := decode_slash (cs.flatMap escapeChar)
        rwa [ih] at hstep
      · rw [escapeChar_of_ne htilde hslash, List.singleton_append, decode_cons_of_ne htilde, ih]

lemma decode_escape (name : String) : String.ofList (decode (escape name).toList) = name := by
  rw [escape, String.toList_ofList, decode_flatMap_escapeChar, String.ofList_toList]

lemma slash_not_mem_escape (name : String) : '/' ∉ (escape name).toList := by
  rw [escape, String.toList_ofList, List.mem_flatMap]
  rintro ⟨c, -, hc⟩
  unfold escapeChar at hc
  split at hc
  · simp at hc
  · split at hc
    · simp at hc
    · rename_i hslash
      exact hslash (List.mem_singleton.mp hc).symm

lemma escape_ne_empty {name : String} (h : name ≠ "") : escape name ≠ "" := by
  intro hempty
  refine h ?_
  rw [← decode_escape name, hempty]
  rfl

/-! ### Pointers -/

/-- The seven ways in which pointers start, each with the section that it leads into. -/
def starts : List (String × Section) :=
  [("#/components/schemas/", .schemas), ("#/components/parameters/", .parameters),
    ("#/components/responses/", .responses), ("#/components/requestBodies/", .requestBodies),
    ("#/definitions/", .schemas), ("#/parameters/", .parameters), ("#/responses/", .responses)]

/-- They are made of the two layouts, each with its own keys. -/
lemma mem_starts_iff {start : String} {s : Section} :
    (start, s) ∈ starts ↔ ∃ l key, s.key? l = some key ∧ start = l.root ++ key ++ "/" := by
  constructor
  · intro h
    simp only [starts, List.mem_cons, Prod.mk.injEq, List.not_mem_nil, or_false] at h
    rcases h with ⟨rfl, rfl⟩ | ⟨rfl, rfl⟩ | ⟨rfl, rfl⟩ | ⟨rfl, rfl⟩ | ⟨rfl, rfl⟩ | ⟨rfl, rfl⟩ |
      ⟨rfl, rfl⟩
    iterate 4 exact ⟨.components, _, rfl, rfl⟩
    iterate 3 exact ⟨.topLevel, _, rfl, rfl⟩
  · rintro ⟨l, key, hkey, rfl⟩
    cases l <;> cases s <;> cases hkey <;> decide +kernel

/-- The pointer is one of the starts with a token behind it that spells the name. -/
lemma exists_spells_iff {p : String} {s : Section} {name : String} :
    (∃ l, Spells p l s name) ↔
      ∃ start token, (start, s) ∈ starts ∧ p = start ++ token ∧ token ≠ "" ∧
        '/' ∉ token.toList ∧ name = String.ofList (decode token.toList) := by
  have hparts : ∀ (l : Layout) (key token : String), (l.root ++ key ++ "/" ++ token).toList =
      l.root.toList ++ key.toList ++ '/' :: token.toList := by
    intro l key token
    simp only [String.toList_append, List.append_assoc]
    rfl
  constructor
  · rintro ⟨l, key, token, hkey, hp, hne, hslash, rfl⟩
    have hstart := mem_starts_iff.mpr ⟨l, key, hkey, rfl⟩
    refine ⟨l.root ++ key ++ "/", String.ofList token, hstart, ?_, ?_, ?_, ?_⟩
    · rw [← String.toList_inj, hp, hparts, String.toList_ofList]
    · intro hempty
      exact hne (by rw [← String.toList_ofList (l := token), hempty]; rfl)
    · rwa [String.toList_ofList]
    · rw [String.toList_ofList, unescape_eq_decode]
  · rintro ⟨start, token, hstart, rfl, hne, hslash, rfl⟩
    obtain ⟨l, key, hkey, rfl⟩ := mem_starts_iff.mp hstart
    have hne' : token.toList ≠ [] := fun hnil => hne (String.toList_eq_nil_iff.mp hnil)
    refine ⟨l, key, token.toList, hkey, hparts l key token, hne', hslash, ?_⟩
    rw [unescape_eq_decode]

lemma exists_spells_escape {start name : String} {s : Section} (hstart : (start, s) ∈ starts)
    (hname : name ≠ "") : ∃ l, Spells (start ++ escape name) l s name :=
  exists_spells_iff.mpr ⟨start, escape name, hstart, rfl, escape_ne_empty hname,
    slash_not_mem_escape name, (decode_escape name).symm⟩

end Pointer

/-! ### Entries -/

namespace Reference

open ApiOperations.Description (Document)
open ApiOperations.Pointer (starts escape decode)

variable {start name : String}

lemma step_escape {α : Type} {wanted : Section} {definitions : Definitions α}
    {entries : Table (Node α)}
    (h : ∀ name, definitions.bind (List.lookup name) = entries.lookup name)
    (hstart : (start, wanted) ∈ starts) (hname : name ≠ "") {node : Node α}
    (hnode : entries.lookup name = some node) :
    step wanted definitions (start ++ escape name) = .ok node := by
  obtain ⟨l, hspells⟩ := Pointer.exists_spells_escape hstart hname
  exact (step_eq_ok_iff_of_lookup h).mpr ⟨l, name, hspells, hnode⟩

lemma schemaName_escape {d : Document} (hstart : (start, Section.schemas) ∈ starts)
    (hname : name ≠ "") (hentry : ((d.schemasAt (d.home .schemas)).lookup name).isSome) :
    d.schemaName (start ++ escape name) = .ok name := by
  have hparse := Pointer.parse?_eq_some_iff.mpr (Pointer.exists_spells_escape hstart hname)
  rw [← d.schemaTable_eq] at hentry
  exact d.schemaName_eq_ok_iff.mpr ⟨hparse, hentry⟩

/-- What the pointers of a document find, each made of a start and an escaped name: the entry of that
name, where the document keeps the section. -/
structure Reaches (d : Document) (start name : String) : Prop where
  schema : (start, Section.schemas) ∈ starts →
    ((d.schemasAt (d.home .schemas)).lookup name).isSome →
      d.schemaName (start ++ escape name) = .ok name
  parameter : (start, Section.parameters) ∈ starts → ∀ node,
    (d.parametersAt (d.home .parameters)).lookup name = some node →
      step .parameters d.parameterTable (start ++ escape name) = .ok node
  response : (start, Section.responses) ∈ starts → ∀ node,
    (d.responsesAt (d.home .responses)).lookup name = some node →
      step .responses d.responseTable (start ++ escape name) = .ok node
  requestBody : (start, Section.requestBodies) ∈ starts → ∀ node,
    (d.requestBodiesAt (d.home .requestBodies)).lookup name = some node →
      step .requestBodies d.requestBodyTable (start ++ escape name) = .ok node

lemma reaches (d : Document) (hname : name ≠ "") : Reaches d start name where
  schema hstart := schemaName_escape hstart hname
  parameter hstart _ := step_escape d.lookup_parameterTable hstart hname
  response hstart _ := step_escape d.lookup_responseTable hstart hname
  requestBody hstart _ := step_escape d.lookup_requestBodyTable hstart hname

/-- **Names in pointers.** Every start of a pointer, with the escaped form of a name that is not empty
behind it, leads to the section of the start and to that name, and so it finds the entry. Nothing else
is understood as a pointer than a start and a token behind it, not empty and without slashes, and the
name is always that token read from the left. -/
theorem names_in_pointers :
    (∀ start s name, (start, s) ∈ starts → name ≠ "" →
      Pointer.parse? (start ++ escape name) = some (s, name)) ∧
    (∀ d start name, name ≠ "" → Reaches d start name) ∧
    ∀ p s name, Pointer.parse? p = some (s, name) ↔
      ∃ start token, (start, s) ∈ starts ∧ p = start ++ token ∧ token ≠ "" ∧
        '/' ∉ token.toList ∧ name = String.ofList (decode token.toList) := by
  refine ⟨fun start s name hstart hname => ?_, fun d start name hname => reaches d hname,
    fun p s name => ?_⟩
  · exact Pointer.parse?_eq_some_iff.mpr (Pointer.exists_spells_escape hstart hname)
  · rw [Pointer.parse?_eq_some_iff, Pointer.exists_spells_iff]

/-- A document of version 2 with a parameter whose name has the look of an escape. -/
def oddlyNamed : Document :=
  ⟨none, some "2.0", ⟨"T", none, "1"⟩, [], [], none, none, none, [], [],
    [("~01/~", .ref "#/parameters/other")], []⟩

theorem names_in_pointers_of_oddlyNamed :
    Pointer.parse? "#/parameters/~001~1~0" = some (.parameters, "~01/~") ∧
    step .parameters oddlyNamed.parameterTable "#/parameters/~001~1~0" =
      .ok (.ref "#/parameters/other") ∧
    step .parameters oddlyNamed.parameterTable "#/components/parameters/~001~1~0" =
      .ok (.ref "#/parameters/other") ∧
    Pointer.parse? "#/parameters/a/b" = none := by
  have hname : "~01/~" ≠ "" := by decide
  have htop : ("#/parameters/", Section.parameters) ∈ starts := by decide +kernel
  have hcomponents : ("#/components/parameters/", Section.parameters) ∈ starts := by decide +kernel
  refine ⟨names_in_pointers.1 _ _ _ htop hname, ?_, ?_, ?_⟩
  · exact (names_in_pointers.2.1 oddlyNamed _ _ hname).parameter htop _ rfl
  · exact (names_in_pointers.2.1 oddlyNamed _ _ hname).parameter hcomponents _ rfl
  · rfl

end Reference

end ApiOperations
