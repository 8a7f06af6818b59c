import Mathlib.Data.List.Basic
import ApiOperations.Description.Fault
import ApiOperations.Proofs.Reference.Chain

/-!
Where the entry of a pointer stands.

A document can have a section of reusable definitions under its components, as OpenAPI 3 does, or at
its top, as Swagger 2.0 does, and a pointer can be written for either layout. What a pointer finds
depends on the section and the name that it spells, and on the layout in which the document keeps the
section. The layout that the pointer is written for makes no difference.
-/

namespace ApiOperations

open ApiOperations.Description (Schema Parameter Response RequestBody)

/-! ### Pointers -/

/-- The two layouts of reusable definitions. -/
inductive Layout where
  /-- Under the components of OpenAPI 3. -/
  | components
  /-- At the top of the document, as in Swagger 2.0. -/
  | topLevel
  deriving DecidableEq

/-- How the pointers of a layout start. -/
def Layout.root : Layout → String
  | components => "#/components/"
  | topLevel => "#/"

/-- The key of a section, if the layout has the section. -/
def Section.key? : Layout → Section → Option String
  | .components, schemas => some "schemas"
  | .components, parameters => some "parameters"
  | .components, responses => some "responses"
  | .components, requestBodies => some "requestBodies"
  | .topLevel, schemas => some "definitions"
  | .topLevel, parameters => some "parameters"
  | .topLevel, responses => some "responses"
  | .topLevel, requestBodies => none

lemma Section.ofComponent?_eq_some_iff {kind : List Char} {s : Section} :
    ofComponent? kind = some s ↔ ∃ key, key? .components s = some key ∧ kind = key.toList := by
  constructor
  · intro h
    unfold ofComponent? at h
    split_ifs at h with h1 h2 h3 h4 <;> cases h <;> exact ⟨_, rfl, ‹_›⟩
  · rintro ⟨key, hkey, rfl⟩
    cases s <;> cases hkey <;> rfl

lemma Section.ofTopLevel?_eq_some_iff {head : List Char} {s : Section} :
    ofTopLevel? head = some s ↔ ∃ key, key? .topLevel s = some key ∧ head = key.toList := by
  constructor
  · intro h
    unfold ofTopLevel? at h
    split_ifs at h with h1 h2 h3 <;> cases h <;> exact ⟨_, rfl, ‹_›⟩
  · rintro ⟨key, hkey, rfl⟩
    cases s <;> cases hkey <;> rfl

namespace Pointer

/-- The pointer is written for a layout, with the key of a section and an escaped name. -/
def Spells (p : String) (l : Layout) (s : Section) (name : String) : Prop :=
  ∃ key token, s.key? l = some key ∧ p.toList = l.root.toList ++ key.toList ++ '/' :: token ∧
    token ≠ [] ∧ '/' ∉ token ∧ name = String.ofList (unescape token)

lemma splitSlash_eq_some {cs a b : List Char} (h : splitSlash cs = some (a, b)) :
    cs = a ++ '/' :: b := by
  induction cs generalizing a with
  | nil => cases h
  | cons c cs ih =>
    rw [splitSlash] at h
    split at h
    · rename_i hc
      cases h
      rw [hc, List.nil_append]
    · obtain ⟨⟨a', b'⟩, hr, hab⟩ := Option.map_eq_some_iff.mp h
      cases hab
      rw [ih hr, List.cons_append]

/-- The text after `#/` goes through one key at the top, or through the components and a key. -/
lemma exists_key_of_locate? {cs : List Char} {s : Section} {token : List Char}
    (h : locate? cs = some (s, token)) :
    ∃ l key, s.key? l = some key ∧
      '#' :: '/' :: cs = l.root.toList ++ key.toList ++ '/' :: token := by
  obtain ⟨⟨head, rest⟩, hsplit, h⟩ := Option.bind_eq_some_iff.mp h
  have hcs := splitSlash_eq_some hsplit
  dsimp only at h
  split at h
  · rename_i hhead
    obtain ⟨⟨kind, token'⟩, hsplit', h⟩ := Option.bind_eq_some_iff.mp h
    obtain ⟨s', hs, ⟨⟩⟩ := Option.bind_eq_some_iff.mp h
    obtain ⟨key, hkey, rfl⟩ := Section.ofComponent?_eq_some_iff.mp hs
    refine ⟨.components, key, hkey, ?_⟩
    rw [hcs, hhead, splitSlash_eq_some hsplit']
    simp [Layout.root]
  · obtain ⟨s', hs, ⟨⟩⟩ := Option.bind_eq_some_iff.mp h
    obtain ⟨key, hkey, rfl⟩ := Section.ofTopLevel?_eq_some_iff.mp hs
    refine ⟨.topLevel, key, hkey, ?_⟩
    rw [hcs]
    simp [Layout.root]

lemma parse?_of_key {l : Layout} {s : Section} {key : String} (hkey : s.key? l = some key)
    (token : List Char) :
    parse? (String.ofList (l.root.toList ++ key.toList ++ '/' :: token)) =
      if token = [] ∨ '/' ∈ token then none else some (s, String.ofList (unescape token)) := by
  simp only [parse?, String.toList_ofList]
  -- the section is found before the token is looked at
  cases l <;> cases s <;> cases hkey <;> rfl

/-- A pointer is understood if and only if it is written for one of the layouts. -/
lemma parse?_eq_some_iff {p : String} {s : Section} {name : String} :
    parse? p = some (s, name) ↔ ∃ l, Spells p l s name := by
  constructor
  · intro h
    unfold parse? at h
    split at h
    · rename_i cs hp
      split at h
      · rename_i s' token hlocate
        split at h
        · cases h
        · rename_i htoken
          cases h
          rw [not_or] at htoken
          obtain ⟨l, key, hkey, hcs⟩ := exists_key_of_locate? hlocate
          exact ⟨l, key, token, hkey, hp.trans hcs, htoken.1, htoken.2, rfl⟩
      · cases h
    · cases h
  · rintro ⟨l, key, token, hkey, hp, hne, hslash, rfl⟩
    have hparse := parse?_of_key hkey token
    rw [← hp, String.ofList_toList, if_neg (not_or.mpr ⟨hne, hslash⟩)] at hparse
    exact hparse

end Pointer

/-! ### Sections of a document -/

namespace Description.Document

variable (d : Document)

/-- The named schemas that stand in a layout. -/
def schemasAt : Layout → Table (Node Schema)
  | .components => (d.components.map (·.schemas)).getD []
  | .topLevel => d.definitions

/-- The reusable parameters that stand in a layout. -/
def parametersAt : Layout → Table (Node Parameter)
  | .components => (d.components.map (·.parameters)).getD []
  | .topLevel => d.parameters

/-- The reusable responses that stand in a layout. -/
def responsesAt : Layout → Table (Node Response)
  | .components => (d.components.map (·.responses)).getD []
  | .topLevel => d.responses

/-- The reusable request bodies that stand in a layout. -/
def requestBodiesAt : Layout → Table (Node RequestBody)
  | .components => (d.components.map (·.requestBodies)).getD []
  | .topLevel => []

/-- The layout in which the document keeps a section: that of its version, but schemas stay at the
top of a document without components, and request bodies are never there. -/
def home : Section → Layout
  | .schemas => if d.isSwagger || d.components.isNone then .topLevel else .components
  | .parameters => if d.isSwagger then .topLevel else .components
  | .responses => if d.isSwagger then .topLevel else .components
  | .requestBodies => .components

lemma schemaTable_eq : d.schemaTable = d.schemasAt (d.home .schemas) := by
  unfold schemaTable home
  cases hc : d.components <;> cases hs : d.isSwagger <;> simp [schemasAt, hc]

lemma lookup_parameterTable (name : String) :
    d.parameterTable.bind (List.lookup name) =
      (d.parametersAt (d.home .parameters)).lookup name := by
  unfold parameterTable home
  cases hc : d.components <;> cases hs : d.isSwagger <;> simp [parametersAt, hc]

lemma lookup_responseTable (name : String) :
    d.responseTable.bind (List.lookup name) = (d.responsesAt (d.home .responses)).lookup name := by
  unfold responseTable home
  cases hc : d.components <;> cases hs : d.isSwagger <;> simp [responsesAt, hc]

lemma lookup_requestBodyTable (name : String) :
    d.requestBodyTable.bind (List.lookup name) =
      (d.requestBodiesAt (d.home .requestBodies)).lookup name := by
  unfold requestBodyTable home
  cases hc : d.components <;> simp [requestBodiesAt, hc]

lemma schemaName_eq_ok_iff {p name : String} :
    d.schemaName p = .ok name ↔
      Pointer.parse? p = some (.schemas, name) ∧ (d.schemaTable.lookup name).isSome := by
  rw [← Section.entry_eq_ok_iff]
  unfold schemaName
  cases Section.entry .schemas p with
  | error f => simp [bind, Except.bind]
  | ok n =>
    simp only [bind, Except.bind, Except.ok.injEq]
    split
    · rename_i hn
      simp only [pure, Except.pure, Except.ok.injEq]
      exact ⟨fun h => ⟨h, h ▸ hn⟩, And.left⟩
    · rename_i hn
      simp only [throw, throwThe, MonadExceptOf.throw, reduceCtorEq, false_iff]
      rintro ⟨rfl, h⟩
      exact hn h

end Description.Document

/-! ### Look-ups -/

namespace Reference

open ApiOperations.Description (Document)

lemma step_eq_ok_iff_of_lookup {α : Type} {wanted : Section} {definitions : Definitions α}
    {entries : Table (Node α)}
    (h : ∀ name, definitions.bind (List.lookup name) = entries.lookup name) {p : String}
    {node : Node α} :
    step wanted definitions p = .ok node ↔
      ∃ l name, Pointer.Spells p l wanted name ∧ entries.lookup name = some node := by
  rw [step_eq_ok_iff]
  simp only [h, Pointer.parse?_eq_some_iff]
  constructor
  · rintro ⟨name, ⟨l, hp⟩, hl⟩
    exact ⟨l, name, hp, hl⟩
  · rintro ⟨l, name, hp, hl⟩
    exact ⟨name, ⟨l, hp⟩, hl⟩

/-- **Look-ups.** A pointer finds an entry if and only if, in either layout, it spells a name of the
section that is wanted and the document has an entry of this name where it keeps the section. What is
found is that entry. -/
theorem found_at_home (d : Document) (p : String) :
    (∀ name, d.schemaName p = .ok name ↔
      ∃ l, Pointer.Spells p l .schemas name ∧
        ((d.schemasAt (d.home .schemas)).lookup name).isSome) ∧
    (∀ node, step .parameters d.parameterTable p = .ok node ↔
      ∃ l name, Pointer.Spells p l .parameters name ∧
        (d.parametersAt (d.home .parameters)).lookup name = some node) ∧
    (∀ node, step .responses d.responseTable p = .ok node ↔
      ∃ l name, Pointer.Spells p l .responses name ∧
        (d.responsesAt (d.home .responses)).lookup name = some node) ∧
    ∀ node, step .requestBodies d.requestBodyTable p = .ok node ↔
      ∃ l name, Pointer.Spells p l .requestBodies name ∧
        (d.requestBodiesAt (d.home .requestBodies)).lookup name = some node := by
  refine ⟨fun name => ?_, fun node => ?_, fun node => ?_, fun node => ?_⟩
  · rw [d.schemaName_eq_ok_iff, Pointer.parse?_eq_some_iff, d.schemaTable_eq, exists_and_right]
  · exact step_eq_ok_iff_of_lookup d.lookup_parameterTable
  · exact step_eq_ok_iff_of_lookup d.lookup_responseTable
  · exact step_eq_ok_iff_of_lookup d.lookup_requestBodyTable

/-- A document of version 3 with one schema among its components. -/
def zoo : Document :=
  ⟨some "3.0.3", none, ⟨"T", none, "1"⟩, [], [], some ⟨[("Pet", .inline Schema.empty)], [], [], []⟩,
    none, none, [], [], [], []⟩

/-- A pointer may find what does not stand where it points: this one points to the top of a document
that has nothing there. -/
theorem found_elsewhere :
    zoo.checkVersion = .ok zoo ∧ Pointer.Spells "#/definitions/Pet" .topLevel .schemas "Pet" ∧
      zoo.schemaName "#/definitions/Pet" = .ok "Pet" ∧
      (zoo.schemasAt .topLevel).lookup "Pet" = none := by
  have hspells : Pointer.Spells "#/definitions/Pet" .topLevel .schemas "Pet" :=
    ⟨"definitions", "Pet".toList, rfl, by decide +kernel, by decide +kernel, by decide +kernel,
      by decide +kernel⟩
  exact ⟨rfl, hspells, by decide +kernel, rfl⟩

end Reference

end ApiOperations
