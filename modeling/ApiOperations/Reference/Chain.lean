import ApiOperations.Description.Basic
import ApiOperations.Reference.Fault

/-!
Following references. A reference leads to an entry of a table, which may be a reference again. The
walk notes every pointer it has met and stops at the second meeting of one. Every pointer but the
first stands in the table, so that a walk needs at most two looks more than the table has entries.
-/

namespace ApiOperations

open ApiOperations.Description (Document Schema Parameter Response RequestBody)

/-- The entry that a pointer names, when it points into the section that is wanted. -/
def Section.entry (wanted : Section) (pointer : String) : Except Fault String :=
  match Pointer.parse? pointer with
  | none => .error (.badPointer pointer)
  | some (s, name) => if s = wanted then .ok name else .error (.wrongSection wanted pointer)

theorem Section.entry_eq_ok_iff {wanted : Section} {pointer name : String} :
    wanted.entry pointer = .ok name ↔ Pointer.parse? pointer = some (wanted, name) := by
  unfold Section.entry
  rcases Pointer.parse? pointer with _ | ⟨s, n⟩
  · simp
  · by_cases hs : s = wanted <;> simp [hs]

namespace Reference

/-- A section of a document; nothing if the document has no such section. -/
abbrev Definitions (α : Type) := Option (Table (Node α))

/-- One step: the node that a pointer leads to. -/
def step {α : Type} (wanted : Section) (definitions : Definitions α) (pointer : String) :
    Except Fault (Node α) :=
  match wanted.entry pointer with
  | .error f => .error f
  | .ok name =>
    match definitions.bind (List.lookup name) with
    | some node => .ok node
    | none => .error (.notFound pointer)

theorem step_eq_ok_iff {α : Type} {wanted : Section} {definitions : Definitions α} {p : String}
    {node : Node α} :
    step wanted definitions p = .ok node ↔
      ∃ name, Pointer.parse? p = some (wanted, name) ∧
        definitions.bind (List.lookup name) = some node := by
  simp only [← Section.entry_eq_ok_iff]
  unfold step
  rcases wanted.entry p with f | name
  · simp
  · cases hl : definitions.bind (List.lookup name) <;> simp [hl]

/-- Where a walk stands: the node it is at, and the pointers it has met, the latest first. -/
structure Walk (α : Type) where
  node : Node α
  met : List String

section Walking

variable {α : Type} (wanted : Section) (definitions : Definitions α)

/-- One look at the node of a walk. An inline definition ends the walk, and so does a pointer that
it has met before or that leads nowhere. Otherwise the walk goes on to the entry of the pointer. -/
def look (w : Walk α) : Except Fault α ⊕ Walk α :=
  match w.node with
  | .inline x => .inl (.ok x)
  | .ref p =>
    if p ∈ w.met then .inl (.error (.circular p))
    else
      match step wanted definitions p with
      | .error f => .inl (.error f)
      | .ok node => .inr ⟨node, p :: w.met⟩

/-- The result of a walk, if the given number of looks is enough for it. -/
def walk : Nat → Walk α → Option (Except Fault α)
  | 0, _ => none
  | n + 1, w =>
    match look wanted definitions w with
    | .inl r => some r
    | .inr w' => walk n w'

/-! ### Every walk ends -/

variable {wanted definitions}

theorem mem_of_step {p : String} {node : Node α} (h : step wanted definitions p = .ok node) :
    ∃ name, (name, node) ∈ definitions.getD [] := by
  obtain ⟨name, -, hl⟩ := step_eq_ok_iff.mp h
  obtain ⟨table, rfl, hl⟩ := Option.bind_eq_some_iff.mp hl
  obtain ⟨before, after, rfl, -⟩ := List.lookup_eq_some_iff.mp hl
  exact ⟨name, by simp⟩

/-- The pointers that stand in a section. -/
def pointers (definitions : Definitions α) : List String :=
  (definitions.getD []).filterMap fun e =>
    match e.2 with
    | .ref p => some p
    | .inline _ => none

theorem mem_pointers_of_step {p q : String} (h : step wanted definitions p = .ok (.ref q)) :
    q ∈ pointers definitions := by
  obtain ⟨name, hm⟩ := mem_of_step h
  exact List.mem_filterMap.mpr ⟨_, hm, rfl⟩

/-- The pointers that a walk has met differ, and all but the first of them stand in the section. -/
structure Walk.Sound (definitions : Definitions α) (w : Walk α) : Prop where
  distinct : w.met.Nodup
  stored : ∀ p ∈ w.met.dropLast, p ∈ pointers definitions
  next : w.met ≠ [] → ∀ p, w.node = .ref p → p ∈ pointers definitions

theorem Walk.Sound.start (definitions : Definitions α) (node : Node α) :
    Walk.Sound definitions ⟨node, []⟩ :=
  ⟨List.nodup_nil, by simp, by simp⟩

/-- A look that does not end the walk follows the pointer of its node. -/
theorem look_eq_inr {w w' : Walk α} (h : look wanted definitions w = .inr w') :
    ∃ p, w.node = .ref p ∧ p ∉ w.met ∧ step wanted definitions p = .ok w'.node ∧
      w'.met = p :: w.met := by
  unfold look at h
  split at h
  · cases h
  · rename_i p hp
    split at h
    · cases h
    · rename_i hmet
      split at h
      · cases h
      · rename_i node hs
        cases h
        exact ⟨p, hp, hmet, hs, rfl⟩

theorem Walk.Sound.look {w w' : Walk α} (hw : w.Sound definitions)
    (h : look wanted definitions w = .inr w') : w'.Sound definitions := by
  obtain ⟨p, hp, hmet, hs, hw'⟩ := look_eq_inr h
  refine ⟨?_, ?_, ?_⟩
  · rw [hw']
    exact List.nodup_cons.mpr ⟨hmet, hw.distinct⟩
  · intro q hq
    rw [hw'] at hq
    by_cases he : w.met = []
    · simp [he] at hq
    · rw [List.dropLast_cons_of_ne_nil he] at hq
      rcases List.mem_cons.mp hq with rfl | hq
      · exact hw.next he _ hp
      · exact hw.stored q hq
  · intro _ q hq
    rw [hq] at hs
    exact mem_pointers_of_step hs

theorem Walk.Sound.length_met_le {w : Walk α} (hw : w.Sound definitions) :
    w.met.length ≤ (definitions.getD []).length + 1 := by
  have hd : w.met.dropLast.Nodup := hw.distinct.sublist (List.dropLast_sublist _)
  have h1 : w.met.dropLast.length ≤ (pointers definitions).length :=
    List.Nodup.length_le_of_subset hd hw.stored
  have h2 : (pointers definitions).length ≤ (definitions.getD []).length :=
    List.length_filterMap_le _ _
  rw [List.length_dropLast] at h1
  omega

/-- A walk may be looked at until it has met more pointers than there are. -/
theorem Walk.Sound.walk_isSome {w : Walk α} {n : Nat} (hw : w.Sound definitions)
    (hn : w.met.length + n = (definitions.getD []).length + 2) :
    (walk wanted definitions n w).isSome := by
  induction n generalizing w with
  | zero =>
    have := hw.length_met_le
    omega
  | succ n ih =>
    unfold walk
    cases h : Reference.look wanted definitions w with
    | inl r => rfl
    | inr w' =>
      obtain ⟨p, -, -, -, hmet⟩ := look_eq_inr h
      exact ih (hw.look h) (by rw [hmet, List.length_cons]; omega)

variable (wanted definitions)

/-- The inline definition that a node leads to, or why it leads to none. -/
def resolve (node : Node α) : Except Fault α :=
  (walk wanted definitions ((definitions.getD []).length + 2) ⟨node, []⟩).get
    ((Walk.Sound.start definitions node).walk_isSome (by simp))

end Walking

end Reference

namespace Description.Document

variable (d : Document)

/-- The named schemas: those of the components, or the definitions of Swagger 2.0. -/
def schemaTable : Table (Node Schema) :=
  match d.components with
  | some c => if d.isSwagger then d.definitions else c.schemas
  | none => d.definitions

/-- The reusable parameters. -/
def parameterTable : Reference.Definitions Parameter :=
  if d.isSwagger then some d.parameters else d.components.map (·.parameters)

/-- The reusable responses. -/
def responseTable : Reference.Definitions Response :=
  if d.isSwagger then some d.responses else d.components.map (·.responses)

/-- The reusable request bodies. -/
def requestBodyTable : Reference.Definitions RequestBody :=
  d.components.map (·.requestBodies)

/-- The parameter that a node leads to. -/
def parameter (node : Node Parameter) : Except Fault Parameter :=
  Reference.resolve .parameters d.parameterTable node

/-- The response that a node leads to. -/
def response (node : Node Response) : Except Fault Response :=
  Reference.resolve .responses d.responseTable node

/-- The request body that a node leads to. -/
def requestBody (node : Node RequestBody) : Except Fault RequestBody :=
  Reference.resolve .requestBodies d.requestBodyTable node

/-- The name of the schema behind a pointer, which must exist. -/
def schemaName (pointer : String) : Except Fault String := do
  let name ← Section.entry .schemas pointer
  if (d.schemaTable.lookup name).isSome then return name else throw (.notFound pointer)

end Description.Document

end ApiOperations
