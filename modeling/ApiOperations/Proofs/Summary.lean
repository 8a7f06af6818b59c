import ApiOperations.Model.Summary
import ApiOperations.Proofs.Json.Value

/-!
What can be read from a summary: its groups, the operations that stand in them, and the failures.
-/

namespace ApiOperations.Summary

open ApiOperations.Json (Value)

/-! ### Reading -/

/-- The items of a member of an object that is an array. -/
def itemsOf (name : String) (v : Value) : List Value :=
  (v.member? name).elim [] Value.items

/-- The groups of a summary. -/
def groupsIn (summary : Value) : List Value :=
  itemsOf "groups" summary

/-- The operations of a summary, group by group. -/
def entries (summary : Value) : List Value :=
  (groupsIn summary).flatMap (itemsOf "operations")

/-- The failures of a summary. -/
def failuresIn (summary : Value) : List Value :=
  itemsOf "failures" summary

/-! ### The summary of a model -/

lemma itemsOf_object {members : List (String × Value)} {name : String} {vs : List Value}
    (h : members.reverse.lookup name = some (.array vs)) : itemsOf name (object members) = vs := by
  rw [itemsOf, object, Value.member?_sortedObject, h]
  rfl

variable (api : Api) (grouping : Grouping)

lemma groupsIn_ofApi : groupsIn (ofApi api grouping) = (grouping.groups api).map (group api) :=
  itemsOf_object rfl

lemma itemsOf_group (g : Group) :
    itemsOf "operations" (group api g) =
      g.members.filterMap fun i => api.operations[i]?.map operation :=
  itemsOf_object rfl

/-- The operations are those at the places that the groups hold. -/
lemma entries_ofApi :
    entries (ofApi api grouping) =
      ((grouping.groups api).flatMap (·.members)).filterMap
        fun i => api.operations[i]?.map operation := by
  rw [entries, groupsIn_ofApi, List.flatMap_map, List.filterMap_flatMap]
  simp only [itemsOf_group]

end ApiOperations.Summary
