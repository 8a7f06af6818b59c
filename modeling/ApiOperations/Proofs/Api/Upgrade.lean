import Mathlib.Data.List.Basic
import ApiOperations.Proofs.Api.Policy
import ApiOperations.Proofs.Operation.Upgrade

/-!
Models of a Swagger 2.0 document and of the same document in the layout of OpenAPI 3.

Every declared pair of a path and a method has an outcome in either layout. What is left of an
outcome without media types and without the cause of a failure is the same in both, and the
operations and failures of a model that skips failures can be read off what is left.
-/

namespace ApiOperations.Api

open ApiOperations.Description (Document PathItem)

/-- The method and the path of a failure. -/
def failedPair (e : OperationFailure) : Method × String :=
  (e.method, e.path)

/-- What is left of an outcome without media types and causes. -/
def gist (b : Built) : Except (Method × String) Operation :=
  (b.map Operation.withoutMediaTypes).mapError failedPair

lemma map_built (bs : List Built) :
    (built bs).map Operation.withoutMediaTypes = (bs.map gist).filterMap Except.toOption := by
  induction bs with
  | nil => rfl
  | cons b bs ih =>
    cases b with
    | ok op => exact congrArg (op.withoutMediaTypes :: ·) ih
    | error e => exact ih

lemma map_failed (bs : List Built) :
    (failed bs).map failedPair = (bs.map gist).filterMap fun
      | .ok _ => none
      | .error pair => some pair := by
  induction bs with
  | nil => rfl
  | cons b bs ih =>
    cases b with
    | ok op => exact ih
    | error e => exact congrArg (failedPair e :: ·) ih

section Outcomes

variable {d : Document} (o : Options) (version : String)
variable (hs : d.isSwagger) (hc : d.components = none)
include hs hc

lemma gist_build (path : String) (method : Method) (op : Description.Operation)
    (inherited : ParameterTable) :
    gist (Operation.build (d.upgrade version) o path method op.upgrade inherited) =
      gist (Operation.build d o path method op inherited) := by
  unfold Operation.build Operation.buildWith
  rcases (Operation.agree_resolve version hs hc o.ignored op).ok_or_error with
    ⟨r, r', hr, hr', hrr'⟩ | ⟨m, m', hm, hm'⟩
  · rw [hr, hr']
    refine congrArg Except.ok ?_
    rw [← Operation.assemble_withoutMediaTypes, ← Operation.assemble_withoutMediaTypes, hrr']
    rfl
  · rw [hm, hm']
    rfl

lemma gist_outcome (path : String) (item : PathItem) (method : Method)
    (op : Description.Operation) :
    gist (outcome (d.upgrade version) o path item.upgrade method op.upgrade) =
      gist (outcome d o path item method op) := by
  have hinherited : Except.Agree Eq (Parameters.resolve d o.ignored item.parameters)
      (Parameters.resolve (d.upgrade version) o.ignored item.upgrade.parameters) :=
    Parameters.agree_resolve version hc hs o.ignored item.parameters
  unfold outcome
  rcases hinherited.ok_or_error with ⟨t, _, ht, ht', rfl⟩ | ⟨m, m', hm, hm'⟩
  · rw [ht, ht']
    exact gist_build o version hs hc path method op t
  · rw [hm, hm']
    rfl

lemma map_gist_outcome? (path : String) (item : PathItem) (method : Method) :
    (outcome? (d.upgrade version) o path item.upgrade method).map gist =
      (outcome? d o path item method).map gist := by
  have hop : item.upgrade.operation? method =
      (item.operation? method).map Description.Operation.upgrade := by
    cases method <;> rfl
  simp only [outcome?, hop, Option.map_map]
  exact congrArg (Option.map · _) (funext (gist_outcome o version hs hc path item method))

lemma map_gist_outcomes :
    (outcomes (d.upgrade version) o).map gist = (outcomes d o).map gist := by
  have hpaths : (d.upgrade version).paths = d.paths.mapValues PathItem.upgrade := rfl
  simp only [outcomes, hpaths, Table.mapValues, List.flatMap_map, List.map_flatMap,
    List.map_filterMap, map_gist_outcome? o version hs hc]

end Outcomes

/-- **Agreement of the layouts.** A Swagger 2.0 document without components and the same document in
the layout of OpenAPI 3 have models under the policy that skips failures. The same pairs of a method
and a path fail, and the operations are the same but for the media types of their results. -/
theorem layouts_agree {d : Document} (o : Options) {version : String} (hs : d.isSwagger)
    (hc : d.components = none) (hv : "3.".toList.isPrefixOf version.toList) :
    (d.upgrade version).checkVersion = .ok (d.upgrade version) ∧
    ∃ api moved, ofDocument d { o with onError := .skip } = .ok api ∧
      ofDocument (d.upgrade version) { o with onError := .skip } = .ok moved ∧
      moved.failures.map failedPair = api.failures.map failedPair ∧
      moved.operations.map Operation.withoutMediaTypes =
        api.operations.map Operation.withoutMediaTypes := by
  have hgist := map_gist_outcomes { o with onError := .skip } version hs hc
  refine ⟨d.checkVersion_upgrade hv, _, _, ofDocument_of_skip d _ rfl,
    ofDocument_of_skip (d.upgrade version) _ rfl, ?_, ?_⟩
  · simp only [ofGathered, map_failed, hgist]
  · simp only [ofGathered, map_built, hgist]

/-- The definitions of `pet`, `limit` and `pets` are referred to, and a definition of `cat` is
missing. -/
def shop : Document where
  openapi := none
  swagger := some "2.0"
  info := ⟨"Shop", none, "1"⟩
  servers := []
  paths := [("/pets",
    { parameters := []
      get := some { Operation.search with
        parameters := [.ref "#/parameters/limit"]
        requestBody := none
        responses := [("200", .ref "#/responses/pets")] }
      post := some { Operation.search with
        parameters := [.inline ⟨some "pet", some .body, none, true,
          some (.ref "#/definitions/cat"), none, none, none, [], none⟩]
        requestBody := none }
      put := none
      delete := none
      patch := none
      options := none
      head := none
      trace := none })]
  components := none
  host := none
  basePath := none
  schemes := []
  definitions := [("pet", .inline Description.Schema.empty)]
  parameters := [("limit", .inline ⟨some "limit", some .query, none, false, none, some .integer,
    none, none, [], some (.nat 20)⟩)]
  responses := [("pets", .inline ⟨none,
    some (.inline { Description.Schema.empty with
      type := some (.single .array)
      items := some (.ref "#/definitions/pet") }), [], []⟩)]

/-- The pairs that fail, and the media types of the results of each operation. -/
def overview (api : Api) : List (Method × String) × List (List (Option String)) :=
  (api.failures.map failedPair, api.operations.map fun op => op.results.map Outcome.mediaType)

theorem layouts_agree_on_shop :
    let o : Options := { Settings.default.toOptions with onError := .skip }
    let moved := shop.upgrade "3.0.3"
    shop.isSwagger ∧ shop.components = none ∧ moved.checkVersion = .ok moved ∧
    ∃ api movedApi, ofDocument shop o = .ok api ∧ ofDocument moved o = .ok movedApi ∧
      movedApi.operations.map Operation.withoutMediaTypes =
        api.operations.map Operation.withoutMediaTypes ∧
      overview api = ([(.post, "/pets")], [[none]]) ∧
      overview movedApi = ([(.post, "/pets")], [[some "application/json"]]) := by
  intro o moved
  obtain ⟨hversion, api, movedApi, ha, hm, -, hops⟩ :=
    layouts_agree (d := shop) o rfl rfl (show "3.".toList.isPrefixOf "3.0.3".toList by decide)
  have hrun : (ofDocument shop o).toOption.map overview = some ([(.post, "/pets")], [[none]]) := by
    decide +kernel
  have hrunMoved : (ofDocument moved o).toOption.map overview =
      some ([(.post, "/pets")], [[some "application/json"]]) := by
    decide +kernel
  rw [Except.toOption_eq_some_iff.mpr ha] at hrun
  rw [Except.toOption_eq_some_iff.mpr hm] at hrunMoved
  exact ⟨rfl, rfl, hversion, api, movedApi, ha, hm, hops, Option.some.inj hrun,
    Option.some.inj hrunMoved⟩

end ApiOperations.Api
