import ApiOperations.Proofs.Description.Rows

/-!
The free values of a description: defaults, enumerated values and constants of schemas and parameters,
and the bodies of response headers. They are the only places of a description where numbers stand.
-/

namespace ApiOperations.Description

open Json (Value)

/-! ### Collecting -/

mutual

/-- The free values in a schema. -/
def Schema.freeValues : Schema → List Value
  | ⟨_, _, _, default, _, properties, _, additional, items, allOf, oneOf, anyOf, enum, const⟩ =>
    default.toList ++ propertyFreeValues properties ++ additionalFreeValues additional ++
      itemsFreeValues items ++ schemasFreeValues allOf ++ schemasFreeValues oneOf ++
      schemasFreeValues anyOf ++ enum ++ const.toList

def schemaFreeValues : Node Schema → List Value
  | .ref _ => []
  | .inline s => s.freeValues

def schemasFreeValues : List (Node Schema) → List Value
  | [] => []
  | s :: ss => schemaFreeValues s ++ schemasFreeValues ss

def propertyFreeValues : List (String × Node Schema) → List Value
  | [] => []
  | (_, s) :: rest => schemaFreeValues s ++ propertyFreeValues rest

def additionalFreeValues : Option (Additional (Node Schema)) → List Value
  | some (.each s) => schemaFreeValues s
  | _ => []

def itemsFreeValues : Option (Node Schema) → List Value
  | none => []
  | some s => schemaFreeValues s

end

/-- The free values in what stands inline. -/
def nodeFreeValues {α : Type} (inline : α → List Value) : Node α → List Value
  | .ref _ => []
  | .inline x => inline x

/-- The free values in a table. -/
def tableFreeValues {α : Type} (f : α → List Value) (t : Table α) : List Value :=
  t.flatMap fun e => f e.2

def Parameter.freeValues (p : Parameter) : List Value :=
  itemsFreeValues p.schema ++ itemsFreeValues p.items ++ p.enum ++ p.default.toList

def MediaType.freeValues (m : MediaType) : List Value :=
  itemsFreeValues m.schema

def RequestBody.freeValues (b : RequestBody) : List Value :=
  tableFreeValues MediaType.freeValues b.content

def Response.freeValues (r : Response) : List Value :=
  itemsFreeValues r.schema ++ tableFreeValues MediaType.freeValues r.content ++
    r.headers.map Prod.snd

def Operation.freeValues (o : Operation) : List Value :=
  o.parameters.flatMap (nodeFreeValues Parameter.freeValues) ++
    o.requestBody.toList.flatMap (nodeFreeValues RequestBody.freeValues) ++
    tableFreeValues (nodeFreeValues Response.freeValues) o.responses

def PathItem.freeValues (p : PathItem) : List Value :=
  p.parameters.flatMap (nodeFreeValues Parameter.freeValues) ++
    [p.get, p.post, p.put, p.delete, p.patch, p.options, p.head, p.trace].flatMap fun op? =>
      op?.toList.flatMap Operation.freeValues

def Components.freeValues (c : Components) : List Value :=
  tableFreeValues schemaFreeValues c.schemas ++
    tableFreeValues (nodeFreeValues Response.freeValues) c.responses ++
    tableFreeValues (nodeFreeValues Parameter.freeValues) c.parameters ++
    tableFreeValues (nodeFreeValues RequestBody.freeValues) c.requestBodies

/-- The free values in a document. -/
def Document.freeValues (d : Document) : List Value :=
  tableFreeValues PathItem.freeValues d.paths ++ d.components.toList.flatMap Components.freeValues ++
    tableFreeValues schemaFreeValues d.definitions ++
    tableFreeValues (nodeFreeValues Parameter.freeValues) d.parameters ++
    tableFreeValues (nodeFreeValues Response.freeValues) d.responses

/-! ### Numbers -/

lemma numbers_members (row : Row) :
    (Value.object row.members).numbers = row.flatMap fun c => c.2.toList.flatMap Value.numbers := by
  rw [Value.numbers_object]
  induction row with
  | nil => rfl
  | cons c row ih =>
    obtain ⟨name, v?⟩ := c
    cases v? with
    | none => exact ih
    | some v => simp [ih]

@[simp] lemma numbers_ofList (vs : List Value) :
    (Row.ofList vs).toList.flatMap Value.numbers = vs.flatMap Value.numbers := by
  cases vs <;> simp [Row.ofList]

@[simp] lemma numbers_ofTable (ms : List (String × Value)) :
    (Row.ofTable ms).toList.flatMap Value.numbers = ms.flatMap fun m => m.2.numbers := by
  cases ms <;> simp [Row.ofTable]

@[simp] lemma flatMap_no_numbers {α : Type} (xs : List α) :
    (xs.flatMap fun _ => ([] : List Json.Number)) = [] :=
  List.flatMap_eq_nil_iff.mpr fun _ _ => rfl

@[simp] lemma TypeSet.numbers_toJson (types : TypeSet) : types.toJson.numbers = [] := by
  cases types <;> simp [toJson, List.flatMap_map]

mutual

theorem numbers_schema : ∀ s : Schema, s.toJson.numbers = s.freeValues.flatMap Value.numbers
  | ⟨type, format, description, default, nullable, properties, required, additional, items, allOf,
      oneOf, anyOf, enum, const⟩ => by
    rw [Schema.toJson_eq, numbers_members]
    simp [Schema.row, Schema.freeValues, tableMembers, Option.toList_map, List.flatMap_map,
      numbers_properties properties, numbers_additional additional, numbers_items items,
      numbers_schemas allOf, numbers_schemas oneOf, numbers_schemas anyOf]

theorem numbers_schemaValue : ∀ s : Node Schema,
    (schemaValue s).numbers = (schemaFreeValues s).flatMap Value.numbers
  | .ref _ => rfl
  | .inline s => numbers_schema s

theorem numbers_schemas : ∀ ss : List (Node Schema),
    (ss.flatMap fun s => (schemaValue s).numbers) = (schemasFreeValues ss).flatMap Value.numbers
  | [] => rfl
  | s :: ss => by
    rw [List.flatMap_cons, schemasFreeValues, List.flatMap_append, numbers_schemaValue s,
      numbers_schemas ss]

theorem numbers_properties : ∀ t : List (String × Node Schema),
    (t.flatMap fun e => (schemaValue e.2).numbers) = (propertyFreeValues t).flatMap Value.numbers
  | [] => rfl
  | (_, s) :: t => by
    rw [List.flatMap_cons, propertyFreeValues, List.flatMap_append, numbers_schemaValue s,
      numbers_properties t]

theorem numbers_additional : ∀ additional : Option (Additional (Node Schema)),
    (additional.toList.flatMap fun x => (additionalValue x).numbers) =
      (additionalFreeValues additional).flatMap Value.numbers
  | none => rfl
  | some (.allowed _) => rfl
  | some (.each s) => (List.flatMap_singleton _ _).trans (numbers_schemaValue s)

theorem numbers_items : ∀ items : Option (Node Schema),
    (items.toList.flatMap fun s => (schemaValue s).numbers) =
      (itemsFreeValues items).flatMap Value.numbers
  | none => rfl
  | some s => (List.flatMap_singleton _ _).trans (numbers_schemaValue s)

end

/-- The numbers of a node, given those of what stands inline. -/
lemma numbers_nodeValue {α : Type} {w : α → Value} {f : α → List Value}
    (h : ∀ x, (w x).numbers = (f x).flatMap Value.numbers) (node : Node α) :
    (nodeValue w node).numbers = (nodeFreeValues f node).flatMap Value.numbers := by
  cases node with
  | ref p => rfl
  | inline x => exact h x

/-- The numbers of a table, given those of its values. -/
lemma numbers_tableMembers {α : Type} {w : α → Value} {f : α → List Value}
    (h : ∀ x, (w x).numbers = (f x).flatMap Value.numbers) (t : Table α) :
    ((tableMembers w t).flatMap fun m => m.2.numbers) =
      (tableFreeValues f t).flatMap Value.numbers := by
  simp only [tableMembers, tableFreeValues, List.flatMap_map, List.flatMap_assoc, h]

lemma Parameter.numbers_toJson (p : Parameter) :
    p.toJson.numbers = p.freeValues.flatMap Value.numbers := by
  rw [toJson_eq, numbers_members]
  simp [row, freeValues, Option.toList_map, List.flatMap_map, numbers_items]

lemma MediaType.numbers_toJson (m : MediaType) :
    m.toJson.numbers = m.freeValues.flatMap Value.numbers := by
  rw [toJson_eq, numbers_members]
  simp [row, freeValues, Option.toList_map, List.flatMap_map, numbers_items]

lemma RequestBody.numbers_toJson (b : RequestBody) :
    b.toJson.numbers = b.freeValues.flatMap Value.numbers := by
  rw [toJson_eq, numbers_members]
  simp [row, freeValues, Option.toList_map, List.flatMap_map,
    numbers_tableMembers MediaType.numbers_toJson]

lemma Response.numbers_toJson (r : Response) :
    r.toJson.numbers = r.freeValues.flatMap Value.numbers := by
  rw [toJson_eq, numbers_members]
  simp [row, freeValues, Option.toList_map, List.flatMap_map, numbers_items,
    numbers_tableMembers MediaType.numbers_toJson]

lemma Operation.numbers_toJson (o : Operation) :
    o.toJson.numbers = o.freeValues.flatMap Value.numbers := by
  rw [toJson_eq, numbers_members]
  simp [row, freeValues, Option.toList_map, List.flatMap_map, List.flatMap_assoc, parameterValues,
    responseMembers, numbers_nodeValue Parameter.numbers_toJson,
    numbers_nodeValue RequestBody.numbers_toJson,
    numbers_tableMembers (numbers_nodeValue Response.numbers_toJson)]

lemma PathItem.numbers_toJson (p : PathItem) :
    p.toJson.numbers = p.freeValues.flatMap Value.numbers := by
  rw [toJson_eq, numbers_members]
  simp [row, freeValues, Option.toList_map, List.flatMap_map, List.flatMap_assoc, parameterValues,
    numbers_nodeValue Parameter.numbers_toJson, Operation.numbers_toJson]

lemma Components.numbers_toJson (c : Components) :
    c.toJson.numbers = c.freeValues.flatMap Value.numbers := by
  rw [toJson_eq, numbers_members]
  simp [row, freeValues, responseMembers, numbers_tableMembers numbers_schemaValue,
    numbers_tableMembers (numbers_nodeValue Response.numbers_toJson),
    numbers_tableMembers (numbers_nodeValue Parameter.numbers_toJson),
    numbers_tableMembers (numbers_nodeValue RequestBody.numbers_toJson)]

lemma Info.numbers_toJson (i : Info) : i.toJson.numbers = [] := by
  rw [toJson_eq, numbers_members]
  simp [row, Option.toList_map, List.flatMap_map]

lemma Server.numbers_toJson (s : Server) : s.toJson.numbers = [] := by
  rw [toJson_eq, numbers_members]
  simp [row, Option.toList_map, List.flatMap_map]

/-- **The numbers of a written document are those of its free values**, in the same order. -/
theorem Document.numbers_toJson (d : Document) :
    d.toJson.numbers = d.freeValues.flatMap Value.numbers := by
  rw [toJson_eq, numbers_members]
  simp [row, freeValues, Option.toList_map, List.flatMap_map, List.flatMap_assoc, responseMembers,
    Info.numbers_toJson, Server.numbers_toJson, Components.numbers_toJson,
    numbers_tableMembers PathItem.numbers_toJson, numbers_tableMembers numbers_schemaValue,
    numbers_tableMembers (numbers_nodeValue Parameter.numbers_toJson),
    numbers_tableMembers (numbers_nodeValue Response.numbers_toJson)]

lemma Document.integral_toJson {d : Document} :
    d.toJson.Integral ↔ ∀ v ∈ d.freeValues, v.Integral := by
  rw [Value.Integral, numbers_toJson, List.forall_mem_flatMap]
  rfl

end ApiOperations.Description
