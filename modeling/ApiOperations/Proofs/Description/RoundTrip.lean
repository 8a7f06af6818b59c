import ApiOperations.Description.Source
import ApiOperations.Proofs.Description.FreeValues
import ApiOperations.Proofs.Description.Rereading
import ApiOperations.Proofs.Json.Text

/-!
The round trip of a document: a document that was read from a JSON text is written as a text from which
the same document is read.
-/

namespace ApiOperations.Description

open Json (Value)
open ApiOperations.Tree (spell)
open Fields (Recovers)
open Reading (rereads_text rereads_flag rereads_variant rereads_record neverNull_of_forall)

/-! ### Fields of free values -/

section Fields

variable {c k : Nat} {f : Fields Atom}

lemma recovers_value (hf : f.Within c k) {name : String} {v? : Option Value}
    (h : f.optional name readValue = some v?) :
    Recovers f k (·.optional name readValue) v? [(name, v?)] := by
  have hrec := hf.optional rereads_value neverNull_value h
  rwa [Option.map_id_apply] at hrec

lemma recovers_values (hf : f.Within c k) {name : String} {vs : List Value}
    (h : f.defaulted name (Reading.list readValue) [] = some vs) :
    Recovers f k (·.defaulted name (Reading.list readValue) []) vs [(name, Row.ofList vs)] := by
  have hrec := hf.list rereads_value h
  rwa [List.map_id] at hrec

lemma recovers_valueTable (hf : f.Within c k) {name : String} {t : Table Value}
    (h : f.defaulted name (Reading.table readValue) [] = some t) :
    Recovers f k (·.defaulted name (Reading.table readValue) []) t [(name, Row.ofTable t)] := by
  have hrec := hf.table rereads_value h
  change Recovers f k _ t [(name, Row.ofTable (t.map id))] at hrec
  rwa [List.map_id] at hrec

end Fields

/-! ### Schemas -/

lemma schemaValue_ne_null (s : Node Schema) : schemaValue s ≠ .null := by
  obtain ⟨ms, hms⟩ := exists_schemaValue_eq s
  rw [hms]
  exact Value.noConfusion

lemma recovers_schema {k : Nat} {f : Fields Atom} (hf : f.Within 0 k)
    {node : Reading Atom (Node Schema)} (hnode : node.Rereads 0 schemaValue) {s : Schema}
    (h : readSchemaFields node f = some s) : Recovers f k (readSchemaFields node) s s.row := by
  obtain ⟨type, htype, h⟩ := Option.bind_eq_some_iff.mp h
  obtain ⟨format, hformat, h⟩ := Option.bind_eq_some_iff.mp h
  obtain ⟨description, hdescription, h⟩ := Option.bind_eq_some_iff.mp h
  obtain ⟨default, hdefault, h⟩ := Option.bind_eq_some_iff.mp h
  obtain ⟨nullable, hnullable, h⟩ := Option.bind_eq_some_iff.mp h
  obtain ⟨properties, hproperties, h⟩ := Option.bind_eq_some_iff.mp h
  obtain ⟨required, hrequired, h⟩ := Option.bind_eq_some_iff.mp h
  obtain ⟨additional, hadditional, h⟩ := Option.bind_eq_some_iff.mp h
  obtain ⟨items, hitems, h⟩ := Option.bind_eq_some_iff.mp h
  obtain ⟨allOf, hallOf, h⟩ := Option.bind_eq_some_iff.mp h
  obtain ⟨oneOf, honeOf, h⟩ := Option.bind_eq_some_iff.mp h
  obtain ⟨anyOf, hanyOf, h⟩ := Option.bind_eq_some_iff.mp h
  obtain ⟨enum, henum, h⟩ := Option.bind_eq_some_iff.mp h
  obtain ⟨const, hconst, ⟨⟩⟩ := Option.bind_eq_some_iff.mp h
  have htypes : Reading.NeverNull readTypeSet TypeSet.toJson :=
    neverNull_of_forall _ fun types => by cases types <;> exact Value.noConfusion
  have hadditionals : (readAdditional node).NeverNull additionalValue :=
    neverNull_of_forall _ fun additional => by
      cases additional with
      | allowed b => exact Value.noConfusion
      | each s => exact schemaValue_ne_null s
  have hnodes : node.NeverNull schemaValue := neverNull_of_forall _ schemaValue_ne_null
  exact .bind (hf.optional rereads_typeSet htypes htype) <| .bind (hf.text hformat) <|
    .bind (hf.text hdescription) <| .bind (recovers_value hf hdefault) <|
    .bind (hf.flag hnullable) <| .bind (hf.table hnode hproperties) <|
    .bind (hf.list rereads_text hrequired) <|
    .bind (hf.optional (rereads_additional hnode) hadditionals hadditional) <|
    .bind (hf.optional hnode hnodes hitems) <| .bind (hf.list hnode hallOf) <|
    .bind (hf.list hnode honeOf) <| .bind (hf.list hnode hanyOf) <| .bind (recovers_values hf henum) <|
    .bind (recovers_value hf hconst) <| .pure _

/-- A row without the name of a reference is written as an inline object. -/
lemma isInline_row {α : Type} {w : α → Value} {row : α → Row} {names : List String}
    (hw : ∀ x, w x = .object (row x).members) (hrow : ∀ x, (row x).names = names)
    (h : "$ref" ∉ names) (x : α) : IsInline (w x) := by
  refine ⟨(row x).members, hw x, fun m hm heq => h ?_⟩
  have hname : m.1 ∈ (row x).names := List.mem_map_of_mem (f := Prod.fst) (Row.mem_members.mp hm)
  rwa [heq, hrow] at hname

lemma isInline_schema : ∀ s : Schema, IsInline s.toJson :=
  isInline_row Schema.toJson_eq (fun _ => rfl) (by decide : "$ref" ∉ schemaFields)

/-- **Schemas are read again.** The reader takes one step for each schema inside of another, whatever
list or table it stands in, so the induction is on its steps. -/
lemma rereadsAt_schema (n : Nat) : RereadsAt 0 (readSchema n) Schema.toJson := by
  induction n with
  | zero =>
    constructor
    · intro k t s _ _ h
      cases h
    · intro k t s _ h
      cases h
  | succ n ih =>
    have hnode : Reading.Rereads 0 (readNode fun _ t => readSchema n t) schemaValue := by
      rw [schemaValue_eq]
      exact rereads_node (fun _ _ => ih) isInline_schema
    exact rereads_record (by decide) (fun _ => rfl) Schema.toJson_eq
      (fun hf h => recovers_schema hf hnode h) (Nat.zero_le _)

lemma rereads_schemaNode {c : Nat} : Reading.Rereads c readSchemaNode schemaValue := by
  have hschema : Reading.Rereads 0 readSchema Schema.toJson := fun n _ => rereadsAt_schema n
  rw [schemaValue_eq]
  exact (rereads_node hschema isInline_schema).mono (Nat.zero_le c)

lemma neverNull_schemaNode : readSchemaNode.NeverNull schemaValue :=
  neverNull_of_forall _ schemaValue_ne_null

/-! ### Parameters, bodies and responses -/

lemma neverNull_variant {α : Type} (names : List (String × α)) (word : α → String) :
    (Reading.variant names : Reading Atom α).NeverNull fun x => .string (word x) :=
  neverNull_of_forall _ fun _ => Value.noConfusion

lemma rereads_parameter {c : Nat} : Reading.Rereads c readParameter Parameter.toJson := by
  intro n hn
  refine rereads_record (by decide) (fun _ => rfl) Parameter.toJson_eq (fun {f k p} hf h => ?_) hn
  obtain ⟨name, hname, h⟩ := Option.bind_eq_some_iff.mp h
  obtain ⟨place, hplace, h⟩ := Option.bind_eq_some_iff.mp h
  obtain ⟨description, hdescription, h⟩ := Option.bind_eq_some_iff.mp h
  obtain ⟨required, hrequired, h⟩ := Option.bind_eq_some_iff.mp h
  obtain ⟨schema, hschema, h⟩ := Option.bind_eq_some_iff.mp h
  obtain ⟨type, htype, h⟩ := Option.bind_eq_some_iff.mp h
  obtain ⟨format, hformat, h⟩ := Option.bind_eq_some_iff.mp h
  obtain ⟨items, hitems, h⟩ := Option.bind_eq_some_iff.mp h
  obtain ⟨enum, henum, h⟩ := Option.bind_eq_some_iff.mp h
  obtain ⟨default, hdefault, ⟨⟩⟩ := Option.bind_eq_some_iff.mp h
  have hplaces : Reading.Rereads (c - 1) (Reading.variant places : Reading Atom Place) fun place =>
      .string place.word := rereads_variant fun place => by cases place <;> rfl
  exact .bind (hf.text hname) <| .bind (hf.optional hplaces (neverNull_variant _ _) hplace) <|
    .bind (hf.text hdescription) <|
    .bind (hf.defaulted rereads_flag hrequired fun _ => ⟨Value.fits_bool _ _, rfl⟩) <|
    .bind (hf.optional rereads_schemaNode neverNull_schemaNode hschema) <|
    .bind (hf.optional rereads_typeKeyword (neverNull_variant _ _) htype) <|
    .bind (hf.text hformat) <|
    .bind (hf.optional rereads_schemaNode neverNull_schemaNode hitems) <|
    .bind (recovers_values hf henum) <| .bind (recovers_value hf hdefault) <| .pure _

lemma rereads_mediaType {c : Nat} : Reading.Rereads c readMediaType MediaType.toJson := by
  intro n hn
  refine rereads_record (by decide) (fun _ => rfl) MediaType.toJson_eq (fun {f k m} hf h => ?_) hn
  simp only [Option.bind_eq_bind, Option.bind_eq_some_iff] at h
  obtain ⟨schema, hschema, ⟨⟩⟩ := h
  exact .bind (hf.optional rereads_schemaNode neverNull_schemaNode hschema) <| .pure _

/-- A body is written with its content even if there is none, which takes two containers. -/
lemma rereads_requestBody : Reading.Rereads 2 readRequestBody RequestBody.toJson := by
  intro n hn
  refine rereads_record (by decide) (fun _ => rfl) RequestBody.toJson_eq (fun {f k b} hf h => ?_) hn
  simp only [Option.bind_eq_bind, Option.bind_eq_some_iff] at h
  obtain ⟨description, hdescription, content, hcontent, required, hrequired, bodyName, hbodyName,
    ⟨⟩⟩ := h
  obtain ⟨l, rfl⟩ := Nat.exists_eq_add_of_le' hf.bound
  have hempty : Reading.table readMediaType f.depth (spell (.object [])) = some [] := by
    obtain ⟨m, hm⟩ := Nat.exists_eq_add_of_le' hf.depth
    rw [hm]
    rfl
  exact .bind (hf.text hdescription) <|
    .bind (hf.defaulted rereads_mediaType.table hcontent fun _ => ⟨List.forall_mem_nil _, hempty⟩) <|
    .bind (hf.defaulted rereads_flag hrequired fun _ => ⟨Value.fits_bool _ _, rfl⟩) <|
    .bind (hf.text hbodyName) <| .pure _

lemma rereads_response {c : Nat} : Reading.Rereads c readResponse Response.toJson := by
  intro n hn
  refine rereads_record (by decide) (fun _ => rfl) Response.toJson_eq (fun {f k r} hf h => ?_) hn
  simp only [Option.bind_eq_bind, Option.bind_eq_some_iff] at h
  obtain ⟨description, hdescription, schema, hschema, content, hcontent, headers, hheaders, ⟨⟩⟩ := h
  exact .bind (hf.text hdescription) <|
    .bind (hf.optional rereads_schemaNode neverNull_schemaNode hschema) <|
    .bind (hf.table rereads_mediaType hcontent) <| .bind (recovers_valueTable hf hheaders) <| .pure _

/-! ### The frame -/

lemma rereads_frameSchema {c : Nat} :
    (frameSchema : Reading Json.Leaf (Node Schema)).Rereads c schemaValue :=
  rereads_schemaNode.settled

lemma rereads_frameParameter {c : Nat} :
    (frameParameter : Reading Json.Leaf (Node Parameter)).Rereads c (nodeValue Parameter.toJson) :=
  (rereads_node rereads_parameter
    (isInline_row Parameter.toJson_eq (fun _ => rfl) (by decide : "$ref" ∉ parameterFields))).settled

lemma rereads_frameRequestBody :
    (frameRequestBody : Reading Json.Leaf (Node RequestBody)).Rereads 2
      (nodeValue RequestBody.toJson) :=
  (rereads_node rereads_requestBody
    (isInline_row RequestBody.toJson_eq (fun _ => rfl)
      (by decide : "$ref" ∉ requestBodyFields))).settled

lemma rereads_frameResponse {c : Nat} :
    (frameResponse : Reading Json.Leaf (Node Response)).Rereads c (nodeValue Response.toJson) :=
  (rereads_node rereads_response
    (isInline_row Response.toJson_eq (fun _ => rfl) (by decide : "$ref" ∉ responseFields))).settled

lemma nodeValue_ne_null {α : Type} {w : α → Value} (hw : ∀ x, w x ≠ .null) (node : Node α) :
    nodeValue w node ≠ .null := by
  cases node with
  | ref p => exact Value.noConfusion
  | inline x => exact hw x

lemma rereads_operation : (readOperation : Reading Json.Leaf Operation).Rereads 3 Operation.toJson := by
  intro n hn
  refine rereads_record (by decide) (fun _ => rfl) Operation.toJson_eq (fun {f k o} hf h => ?_) hn
  simp only [Option.bind_eq_bind, Option.bind_eq_some_iff] at h
  obtain ⟨operationId, hoperationId, summary, hsummary, description, hdescription, tags, htags,
    parameters, hparameters, requestBody, hrequestBody, responses, hresponses, deprecated,
    hdeprecated, ⟨⟩⟩ := h
  have hbodies : (frameRequestBody : Reading Json.Leaf (Node RequestBody)).NeverNull
      (nodeValue RequestBody.toJson) :=
    neverNull_of_forall _ (nodeValue_ne_null fun _ => Value.noConfusion)
  exact .bind (hf.text hoperationId) <| .bind (hf.text hsummary) <| .bind (hf.text hdescription) <|
    .bind (hf.list rereads_text htags) <| .bind (hf.list rereads_frameParameter hparameters) <|
    .bind (hf.optional rereads_frameRequestBody hbodies hrequestBody) <|
    .bind (hf.table rereads_frameResponse hresponses) <| .bind (hf.flag hdeprecated) <| .pure _

lemma rereads_pathItem : (readPathItem : Reading Json.Leaf PathItem).Rereads 4 PathItem.toJson := by
  intro n hn
  refine rereads_record (by decide) (fun _ => rfl) PathItem.toJson_eq (fun {f k p} hf h => ?_) hn
  simp only [Option.bind_eq_bind, Option.bind_eq_some_iff] at h
  obtain ⟨parameters, hparameters, get, hget, post, hpost, put, hput, delete, hdelete, patch, hpatch,
    options, hoptions, head, hhead, trace, htrace, ⟨⟩⟩ := h
  have hmethod : ∀ {name op?}, f.optional name readOperation = some op? →
      Recovers f k (·.optional name readOperation) op? [(name, op?.map Operation.toJson)] :=
    fun h => hf.optional rereads_operation (neverNull_of_forall _ fun _ => Value.noConfusion) h
  exact .bind (hf.list rereads_frameParameter hparameters) <| .bind (hmethod hget) <|
    .bind (hmethod hpost) <| .bind (hmethod hput) <| .bind (hmethod hdelete) <|
    .bind (hmethod hpatch) <| .bind (hmethod hoptions) <| .bind (hmethod hhead) <|
    .bind (hmethod htrace) <| .pure _

lemma rereads_info {c : Nat} : (readInfo : Reading Json.Leaf Info).Rereads c Info.toJson := by
  intro n hn
  refine rereads_record (by decide) (fun _ => rfl) Info.toJson_eq (fun {f k i} hf h => ?_) hn
  simp only [Option.bind_eq_bind, Option.bind_eq_some_iff] at h
  obtain ⟨title, htitle, description, hdescription, version, hversion, ⟨⟩⟩ := h
  exact .bind (hf.required rereads_text htitle) <| .bind (hf.text hdescription) <|
    .bind (hf.required rereads_text hversion) <| .pure _

lemma rereads_server {c : Nat} : (readServer : Reading Json.Leaf Server).Rereads c Server.toJson := by
  intro n hn
  refine rereads_record (by decide) (fun _ => rfl) Server.toJson_eq (fun {f k s} hf h => ?_) hn
  simp only [Option.bind_eq_bind, Option.bind_eq_some_iff] at h
  obtain ⟨url, hurl, description, hdescription, ⟨⟩⟩ := h
  exact .bind (hf.required rereads_text hurl) <| .bind (hf.text hdescription) <| .pure _

lemma rereads_components :
    (readComponents : Reading Json.Leaf Components).Rereads 4 Components.toJson := by
  intro n hn
  refine rereads_record (by decide) (fun _ => rfl) Components.toJson_eq (fun {f k s} hf h => ?_) hn
  simp only [Option.bind_eq_bind, Option.bind_eq_some_iff] at h
  obtain ⟨schemas, hschemas, responses, hresponses, parameters, hparameters, requestBodies,
    hrequestBodies, ⟨⟩⟩ := h
  exact .bind (hf.table rereads_frameSchema hschemas) <|
    .bind (hf.table rereads_frameResponse hresponses) <|
    .bind (hf.table rereads_frameParameter hparameters) <|
    .bind (hf.table rereads_frameRequestBody hrequestBodies) <| .pure _

lemma rereads_document : (readDocument : Reading Json.Leaf Document).Rereads 6 Document.toJson := by
  intro n hn
  refine rereads_record (by decide) (fun _ => rfl) Document.toJson_eq (fun {f k s} hf h => ?_) hn
  obtain ⟨openapi, hopenapi, h⟩ := Option.bind_eq_some_iff.mp h
  obtain ⟨swagger, hswagger, h⟩ := Option.bind_eq_some_iff.mp h
  obtain ⟨info, hinfo, h⟩ := Option.bind_eq_some_iff.mp h
  obtain ⟨servers, hservers, h⟩ := Option.bind_eq_some_iff.mp h
  obtain ⟨paths, hpaths, h⟩ := Option.bind_eq_some_iff.mp h
  obtain ⟨components, hcomponents, h⟩ := Option.bind_eq_some_iff.mp h
  obtain ⟨host, hhost, h⟩ := Option.bind_eq_some_iff.mp h
  obtain ⟨basePath, hbasePath, h⟩ := Option.bind_eq_some_iff.mp h
  obtain ⟨schemes, hschemes, h⟩ := Option.bind_eq_some_iff.mp h
  obtain ⟨definitions, hdefinitions, h⟩ := Option.bind_eq_some_iff.mp h
  obtain ⟨parameters, hparameters, h⟩ := Option.bind_eq_some_iff.mp h
  obtain ⟨responses, hresponses, ⟨⟩⟩ := Option.bind_eq_some_iff.mp h
  have hnull : (readComponents : Reading Json.Leaf Components).NeverNull Components.toJson :=
    neverNull_of_forall _ fun _ => Value.noConfusion
  exact .bind (hf.text hopenapi) <| .bind (hf.text hswagger) <| .bind (hf.required rereads_info hinfo) <|
    .bind (hf.list rereads_server hservers) <| .bind (hf.table rereads_pathItem hpaths) <|
    .bind (hf.optional (rereads_components.mono (by decide)) hnull hcomponents) <|
    .bind (hf.text hhost) <| .bind (hf.text hbasePath) <| .bind (hf.list rereads_text hschemes) <|
    .bind (hf.table rereads_frameSchema hdefinitions) <|
    .bind (hf.table rereads_frameParameter hparameters) <|
    .bind (hf.table rereads_frameResponse hresponses) <| .pure _

/-! ### Documents -/

namespace Document

lemma eq_of_checkVersion_eq_ok {d e : Document} (h : d.checkVersion = .ok e) : d = e := by
  unfold checkVersion at h
  split at h
  · split_ifs at h
    exact Except.ok.inj h
  · split_ifs at h
    exact Except.ok.inj h
  · cases h
  · cases h

lemma ofText_json_eq_ok_iff {text : String} {d : Document} :
    ofText .json text = .ok d ↔
      (∃ t, Json.read text = some t ∧ readDocument Json.maxDepth t = some d) ∧
        d.checkVersion = .ok d := by
  have hread : TextFormat.read .json documentShape readDocument text =
      (Json.read text).bind (readDocument Json.maxDepth) := rfl
  rw [ofText, hread, ← Option.bind_eq_some_iff]
  constructor
  · intro h
    split at h
    · cases h
    · rename_i e he
      obtain rfl := eq_of_checkVersion_eq_ok h
      exact ⟨he, h⟩
  · rintro ⟨h, hv⟩
    rw [h]
    exact hv

/-- **A document survives the round trip.** What a JSON text describes is written as a text that
describes the same document, with the same order of every table and list, and that is written again as
it stands. The numbers in its free values must be integers of 64 bits. -/
theorem round_trip {text : String} {d : Document} (h : ofText .json text = .ok d)
    (hi : ∀ v ∈ d.freeValues, v.Integral) :
    ∃ e, ofText .json d.toJson.toCompact = .ok e ∧ e = d ∧
      e.toJson.toCompact = d.toJson.toCompact := by
  obtain ⟨⟨t, _, hread⟩, hversion⟩ := ofText_json_eq_ok_iff.mp h
  have hint : d.toJson.Integral := integral_toJson.mpr hi
  obtain ⟨k, hfits⟩ := Tree.exists_fits (fun _ => trivial) t
  have hagain : readDocument Json.maxDepth (spell d.toJson) = some d :=
    (rereads_document Json.maxDepth (by decide)).again hfits hread hint
  exact ⟨d, ofText_json_eq_ok_iff.mpr ⟨⟨_, Json.read_toCompact hint, hagain⟩, hversion⟩, rfl, rfl⟩

/-- A description as it may come in: information as a list, members out of order, a body without
anything, a reference with a word beside it. -/
def petsValue : Value :=
  .object [("openapi", .string "3.0.3"), ("info", .array [.string "Pets", .null, .string "1"]),
    ("components", .object [("schemas", .object [("Limit", .object [
      ("default", .number (.int (-20))),
      ("type", .array [.string "integer", .string "null"]),
      ("additionalProperties", .bool false)])])]),
    ("paths", .object [("/pets", .object [("get", .object [
      ("requestBody", .object []),
      ("responses", .object [
        ("200", .object [("headers", .object [("X-Rate", .object [
          ("minimum", .nat 7), ("example", .null)])])]),
        ("default", .object [
          ("$ref", .string "#/components/responses/Error"),
          ("description", .string "Failure")])])])])])]

def petsDocument : Document where
  openapi := some "3.0.3"
  swagger := none
  info := ⟨"Pets", none, "1"⟩
  servers := []
  paths := [("/pets", {
    parameters := []
    get := some {
      operationId := none
      summary := none
      description := none
      tags := []
      parameters := []
      requestBody := some (.inline ⟨none, [], false, none⟩)
      responses := [
        ("200", .inline ⟨none, none, [],
          [("X-Rate", .object [("example", .null), ("minimum", .nat 7)])]⟩),
        ("default", .ref "#/components/responses/Error")]
      deprecated := none }
    post := none
    put := none
    delete := none
    patch := none
    options := none
    head := none
    trace := none })]
  components := some {
    schemas := [("Limit", .inline { Schema.empty with
      type := some (.several [.integer, .null])
      default := some (.number (.int (-20)))
      additional := some (.allowed false) })]
    responses := []
    parameters := []
    requestBodies := [] }
  host := none
  basePath := none
  schemes := []
  definitions := []
  parameters := []
  responses := []

theorem round_trip_pets :
    ofText .json petsValue.toCompact = .ok petsDocument ∧
      (∀ v ∈ petsDocument.freeValues, v.Integral) ∧
      ∃ e, ofText .json petsDocument.toJson.toCompact = .ok e ∧ e = petsDocument ∧
        e.toJson.toCompact = petsDocument.toJson.toCompact := by
  have hread : ofText .json petsValue.toCompact = .ok petsDocument :=
    ofText_json_eq_ok_iff.mpr ⟨⟨_, Json.read_toCompact (by decide), rfl⟩, rfl⟩
  have hi : ∀ v ∈ petsDocument.freeValues, v.Integral := by decide
  exact ⟨hread, hi, round_trip hread hi⟩

end Document

end ApiOperations.Description
