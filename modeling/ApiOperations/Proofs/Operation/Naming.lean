import Mathlib.Data.List.Basic
import ApiOperations.Proofs.Name.Identifier
import ApiOperations.Proofs.Operation.Override
import ApiOperations.Proofs.Text.Recasing

/-!
Names of operations that their descriptions do not name. Such a name is put together from words that
are spelled already, a method and a service or a method and the parts of a route, and then spelled once
more as a whole. Spelling cuts the text anew, so a service of one-letter words loses some of its capitals
and only canonical names survive.
-/

namespace ApiOperations

open ApiOperations.Text
open ApiOperations.Description (Document)

variable {s raw path : String} {o : Options} {method : Method} {op : Description.Operation}

lemma Name.fromFirstLetter?_eq_none (h : ∀ c ∈ s.toList, isAlphabetic c = false) :
    Name.fromFirstLetter? s = none := by
  have hnil : (s.toList.dropWhile fun c => !isAlphabetic c) = [] := by
    rw [List.dropWhile_eq_nil_iff]
    intro c hc
    rw [h c hc]
    rfl
  rw [Name.fromFirstLetter?, hnil]

namespace Operation

/-- The unspelled name of an operation that is not named by its description: the method and the service
if names come from ids and its id has no letter, or what the route says if names come from routes. -/
inductive Derived (o : Options) (path : String) (method : Method) (op : Description.Operation)
    (service : Name) : String → Prop
  | ofService (hnaming : o.naming = .operationId)
      (hid : ∀ id ∈ op.operationId, ∀ c ∈ id.toList, isAlphabetic c = false) :
      Derived o path method op service (method.word ++ service.pascal)
  | ofRoute (hnaming : o.naming = .route) :
      Derived o path method op service (Route.operationName method.verb path)

namespace Derived

lemma rawName_eq (h : Derived o path method op (Name.ofService op.tags o.defaultService) raw) :
    rawName o path method op = raw := by
  cases h with
  | ofService hnaming hid =>
    have hnone : op.operationId.bind Name.fromFirstLetter? = none := by
      rw [Option.bind_eq_none_iff]
      exact fun id hmem => Name.fromFirstLetter?_eq_none (hid id hmem)
    simp only [rawName, hnaming, Name.rawOfId, hnone, Option.getD_none]
  | ofRoute hnaming => simp only [rawName, hnaming]

/-- The first word comes from the method, whatever the service and the path are. -/
lemma exists_toList_eq {service : Name} (h : Derived o path method op service raw) :
    ∃ c cs, raw.toList = c :: cs ∧ isLowercase c = true ∧ isAlphanumeric c = true := by
  have hword : ∀ rest : String, ∃ c cs, (method.word ++ rest).toList = c :: cs ∧
      isLowercase c = true ∧ isAlphanumeric c = true := by
    intro rest
    rw [String.toList_append]
    cases method <;> exact ⟨_, _, rfl, by decide, by decide⟩
  have hverb : ∀ (single : Bool) (rest : String), ∃ c cs,
      (Route.verb method.verb single ++ rest).toList = c :: cs ∧
        isLowercase c = true ∧ isAlphanumeric c = true := by
    intro single rest
    rw [String.toList_append]
    cases method <;> cases single <;> exact ⟨_, _, rfl, by decide, by decide⟩
  cases h with
  | ofService hnaming hid => exact hword service.pascal
  | ofRoute hnaming => exact hverb _ _

end Derived

/-- **Derived names.** An operation that its description does not name and that no alias renames gets its
derived name spelled as a whole. In camelCase this is the derived name itself exactly if that name is
canonical. -/
theorem camel_name_eq_iff_canonical {d : Document} {isError : Status → Bool}
    {inherited : ParameterTable} {built : Operation}
    (hbuilt : buildWith d o isError path method op inherited = .ok built)
    (hraw : Derived o path method op built.service raw) (halias : o.aliases.lookup raw = none) :
    built.name = Name.ofString raw ∧ (built.name.camel = raw ↔ Canonical raw.toList) := by
  obtain ⟨r, -, rfl⟩ := buildWith_eq_ok_iff.mp hbuilt
  have hname : nameOf o (rawName o path method op) = Name.ofString raw := by
    rw [hraw.rawName_eq, nameOf, halias, Option.getD_none]
  obtain ⟨c, cs, hcs, hlower, hletter⟩ := hraw.exists_toList_eq
  have hsome : ∃ c ∈ raw.toList, isAlphanumeric c = true :=
    ⟨c, hcs ▸ List.mem_cons_self, hletter⟩
  refine ⟨hname, ?_⟩
  calc (nameOf o (rawName o path method op)).camel = raw
    _ ↔ camelCase raw.toList = raw.toList := by
      rw [hname, Name.camel_ofString hsome, ← String.toList_inj, String.toList_ofList]
    _ ↔ Canonical raw.toList := by
      rw [hcs]
      exact camelCase_eq_self_iff hlower hletter

/-- An operation of which nothing but its tag is known. -/
def tagged (tag : String) : Description.Operation :=
  ⟨none, none, none, [tag], [], none, [], none⟩

theorem camel_name_of_pet_store :
    ∃ built, buildWith bare Settings.default.toOptions (fun _ => false) "/pets" .get
        (tagged "pet store") .empty = .ok built ∧
      "get" ++ built.service.pascal = "getPetStore" ∧ built.name.camel = "getPetStore" ∧
      Canonical "getPetStore".toList := by
  obtain ⟨built, hbuilt, hpascal, hcamel⟩ : ∃ built, buildWith bare Settings.default.toOptions
      (fun _ => false) "/pets" .get (tagged "pet store") .empty = .ok built ∧
      built.service.pascal = "PetStore" ∧ built.name.camel = "getPetStore" :=
    ⟨_, rfl, by decide +kernel, by decide +kernel⟩
  have hraw : Derived Settings.default.toOptions "/pets" .get (tagged "pet store") built.service
      ("get" ++ built.service.pascal) :=
    .ofService rfl (by simp [tagged])
  rw [hpascal] at hraw
  exact ⟨built, hbuilt, by rw [hpascal]; rfl, hcamel,
    (camel_name_eq_iff_canonical hbuilt hraw rfl).2.mp hcamel⟩

/-- Two one-letter words look like one run of capitals: joined in a service or in a route they are cut
as one word. -/
theorem camel_name_of_one_letter_words :
    let byRoute := { Settings.default.toOptions with naming := .route }
    (∃ built, buildWith bare Settings.default.toOptions (fun _ => false) "/x" .get (tagged "a b")
        .empty = .ok built ∧
      Settings.default.toOptions.aliases.lookup ("get" ++ built.service.pascal) = none ∧
      "get" ++ built.service.pascal = "getAB" ∧ built.name.camel = "getAb") ∧
    ∃ built, buildWith bare byRoute (fun _ => false) "/a/b" .get (tagged "x") .empty = .ok built ∧
      byRoute.aliases.lookup (Route.operationName "GET" "/a/b") = none ∧
      Route.operationName "GET" "/a/b" = "listAB" ∧ built.name.camel = "listAb" := by
  exact ⟨⟨_, rfl, rfl, by decide +kernel, by decide +kernel⟩,
    ⟨_, rfl, rfl, by decide +kernel, by decide +kernel⟩⟩

end Operation

end ApiOperations
