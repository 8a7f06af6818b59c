import Mathlib.Data.List.Basic
import ApiOperations.Proofs.Operation.Parts

/-!
When a build fails, and with what.

An operation stands a list of checks: those of its parameters one after another, those of its body
and those of its responses. A check looks at one thing that is declared and knows nothing of the
others. A build fails with what the first failing check finds. Names, aliases, the test for errors,
the header policy and the inherited parameters are not checked, so they decide nothing.
-/

namespace ApiOperations

open ApiOperations.Description (Document Schema)

/-! ### Checks -/

/-- What a check finds wrong, if anything. -/
abbrev Finding := Option Malformed

namespace Finding

/-- The finding of a list that comes first. -/
def first (cs : List Finding) : Finding :=
  cs.findSome? id

@[simp] lemma first_nil : first [] = none := rfl

lemma first_cons (c : Finding) (cs : List Finding) : first (c :: cs) = c.or (first cs) := by
  cases c <;> rfl

lemma first_append (cs ds : List Finding) : first (cs ++ ds) = (first cs).or (first ds) :=
  List.findSome?_append

lemma first_eq_some_iff {cs : List Finding} {m : Malformed} :
    first cs = some m ↔ ∃ before after, cs = before ++ some m :: after ∧ ∀ c ∈ before, c = none := by
  rw [first, List.findSome?_eq_some_iff]
  constructor
  · rintro ⟨before, c, after, rfl, rfl, h⟩
    exact ⟨before, after, rfl, h⟩
  · rintro ⟨before, after, rfl, h⟩
    exact ⟨before, some m, after, rfl, rfl, h⟩

lemma first_eq_none_iff {cs : List Finding} : first cs = none ↔ ∀ c ∈ cs, c = none :=
  List.findSome?_eq_none_iff

/-- A required field that is missing. -/
def missing (label : Fault → Malformed) (field : String) (present : Bool) : Finding :=
  if present then none else some (label (.missingField field))

/-- A chain of references that does not resolve; where it does, more checks follow. -/
def chain {α : Type} (label : Fault → Malformed) (x : Except Fault α) (rest : α → List Finding) :
    List Finding :=
  x.failure?.map label :: (x.toOption.map rest).getD []

/-- A schema that is there and has no type. -/
def untyped (d : Document) (label : Fault → Malformed) (s : Option (Node Schema)) : Finding :=
  s.bind fun s => (DataType.ofNode d s).failure?.map label

lemma first_chain {α : Type} (label : Fault → Malformed) (x : Except Fault α)
    (rest : α → List Finding) :
    first (chain label x rest) =
      (x.failure?.map label).or (x.toOption.bind fun a => first (rest a)) := by
  cases x <;> simp [chain, first_cons, Except.toOption]

end Finding

/-! ### Parameters -/

namespace Parameters

open Finding

variable (d : Document) (ignored : List String)

/-- The type of a declared parameter: that of its schema, else the one it carries itself. -/
def typeFinding (label : Fault → Malformed) (p : Description.Parameter) : Finding :=
  if p.schema.isNone && p.type.isSome then
    (DataType.ofSchema d (inlineSchema p)).failure?.map label
  else untyped d label p.schema

/-- The checks of the declaration that a parameter leads to. One that is ignored only needs a name. -/
def declarationChecks (label : Fault → Malformed) (p : Description.Parameter) : List Finding :=
  missing label "name" p.name.isSome ::
    if p.name.any ignored.contains then []
    else
      [missing label "in" p.place.isSome,
        missing label "schema" (p.place != some .body || p.schema.isSome),
        typeFinding d label p]

/-- The checks of an entry of a list of parameters. -/
def checks (entry : Node Description.Parameter × Nat) : List Finding :=
  let label := Malformed.parameter (declaredName entry.1 entry.2)
  chain label (d.parameter entry.1) (declarationChecks d ignored label)

lemma failure?_typeOf (label : Fault → Malformed) (p : Description.Parameter)
    {place : Description.Place} (hp : p.place = some place) :
    (typeOf d p (locationOf place)).failure?.map label =
      (missing label "schema" (p.place != some .body || p.schema.isSome)).or
        (typeFinding d label p) := by
  unfold typeOf typeFinding untyped missing
  rw [hp]
  by_cases hb : place = .body
  · subst hb
    cases p.schema <;> cases p.type <;> simp [locationOf]
  · have hl : locationOf place ≠ .body := by cases place <;> simp_all [locationOf]
    cases p.schema <;> cases p.type <;> simp [hl, hb]

lemma failure?_ofDeclaration (label : Fault → Malformed) (name : String)
    (p : Description.Parameter) :
    (ofDeclaration d name p).failure?.map label =
      first [missing label "in" p.place.isSome,
        missing label "schema" (p.place != some .body || p.schema.isSome),
        typeFinding d label p] := by
  simp only [first_cons, first_nil, Option.or_none]
  cases hp : p.place with
  | none => simp [ofDeclaration, hp, missing]
  | some place =>
    rw [← hp, ← failure?_typeOf d label p hp]
    simp only [ofDeclaration, hp, Except.failure?_bind]
    cases typeOf d p (locationOf place) <;> rfl

lemma failure?_ofNode (label : Fault → Malformed) (node : Node Description.Parameter) :
    (ofNode d ignored node).failure?.map label =
      first (chain label (d.parameter node) (declarationChecks d ignored label)) := by
  rw [first_chain]
  unfold ofNode
  rw [Except.failure?_bind, Option.map_or]
  cases d.parameter node with
  | error f => rfl
  | ok p =>
    simp only [Except.failure?_ok, Option.map_none, Option.none_or, Except.toOption,
      Option.bind_some, declarationChecks]
    cases hname : p.name with
    | none => simp [first_cons, missing, throw, throwThe, MonadExceptOf.throw]
    | some name =>
      simp only [Option.any_some]
      by_cases hi : ignored.contains name
      · rw [if_pos hi, if_pos hi]
        rfl
      · rw [if_neg hi, if_neg hi, first_cons, ← failure?_ofDeclaration d label name p]
        cases ofDeclaration d name p <;> rfl

lemma failure?_declared (index : Nat) (nodes : List (Node Description.Parameter)) :
    (declared d ignored index nodes).failure? =
      first ((nodes.zipIdx index).flatMap (checks d ignored)) := by
  induction nodes generalizing index with
  | nil => rfl
  | cons node nodes ih =>
    have hnode := failure?_ofNode d ignored (.parameter (declaredName node index)) node
    rw [List.zipIdx_cons, List.flatMap_cons, first_append, ← ih, checks, ← hnode, declared]
    cases ofNode d ignored node with
    | error f => rfl
    | ok p =>
      simp only [Except.failure?_ok, Option.map_none, Option.none_or, Except.failure?_bind]
      cases declared d ignored (index + 1) nodes <;> rfl

lemma failure?_resolve (nodes : List (Node Description.Parameter)) :
    (resolve d ignored nodes).failure? = first (nodes.zipIdx.flatMap (checks d ignored)) := by
  rw [resolve, Except.failure?_map, failure?_declared]

/-! ### Bodies -/

/-- The checks of a request body: its chain, and the schema of the media type that counts. -/
def bodyChecks (node : Node Description.RequestBody) : List Finding :=
  chain (.parameter "requestBody") (d.requestBody node) fun b =>
    match preferred? b.content with
    | none => []
    | some (mediaType, media) =>
      [untyped d (.parameter (bodyName b.bodyName mediaType)) media.schema]

lemma failure?_ofBody (node : Node Description.RequestBody) :
    (ofBody d node).failure? = first (bodyChecks d node) := by
  rw [bodyChecks, first_chain, ofBody]
  cases d.requestBody node with
  | error f => rfl
  | ok b =>
    simp only [Except.failure?_ok, Option.map_none, Option.none_or, Except.toOption,
      Option.bind_some]
    rcases preferred? b.content with _ | ⟨mediaType, media⟩
    · rfl
    · simp only [first_cons, first_nil, Option.or_none, untyped]
      cases media.schema with
      | none => rfl
      | some s =>
        simp only [Option.bind_some]
        cases DataType.ofNode d s <;> rfl

end Parameters

/-! ### Responses -/

namespace Responses

open Finding

variable (d : Document)

/-- The schema of a response that counts: its own, else that of the preferred content. -/
def selectedSchema? (r : Description.Response) : Option (Node Schema) :=
  r.schema.or ((Parameters.preferred? r.content).bind (·.2.schema))

/-- The checks of an entry of a response table. -/
def checks (entry : String × Node Description.Response) : List Finding :=
  let label := Malformed.response entry.1
  (if (Status.ofKey? entry.1).isSome then none else some (label (.badStatus entry.1))) ::
    chain label (d.response entry.2) fun r => [untyped d label (selectedSchema? r)]

lemma failure?_contentType (label : Fault → Malformed) (r : Description.Response) :
    (contentType d r).failure?.map label = untyped d label (selectedSchema? r) := by
  unfold contentType selectedSchema? untyped
  cases r.schema with
  | some s => simp [Except.failure?_map]
  | none =>
    rcases Parameters.preferred? r.content with _ | ⟨mediaType, media⟩
    · rfl
    · cases hs : media.schema <;> simp [hs, Except.failure?_map]

lemma failure?_ofEntry (key : String) (node : Node Description.Response) :
    (ofEntry d key node).failure?.map (Malformed.response key) = first (checks d (key, node)) := by
  unfold ofEntry
  rw [checks, first_cons, first_chain]
  cases Status.ofKey? key with
  | none => rfl
  | some status =>
    simp only [pure_bind, Option.isSome_some, if_true, Option.none_or]
    cases d.response node with
    | error f => rfl
    | ok r =>
      simp only [Except.failure?_bind, Except.failure?_ok, Except.toOption, Option.bind_some,
        Option.none_or, Option.map_none, first_cons, first_nil, Option.or_none,
        ← failure?_contentType]
      cases contentType d r <;> rfl

lemma failure?_outcomes (t : Table (Node Description.Response)) :
    (outcomes d t).failure? = first (t.flatMap (checks d)) := by
  induction t with
  | nil => rfl
  | cons entry rest ih =>
    obtain ⟨key, node⟩ := entry
    rw [List.flatMap_cons, first_append, ← ih, ← failure?_ofEntry, outcomes]
    cases ofEntry d key node with
    | error f => rfl
    | ok out =>
      simp only [Except.failure?_ok, Option.map_none, Option.none_or, Except.failure?_bind]
      cases outcomes d rest <;> rfl

end Responses

/-! ### Operations -/

namespace Operation

open Finding

variable (d : Document) (o : Options) (isError : Status → Bool) (path : String) (method : Method)
  (op : Description.Operation) (inherited : ParameterTable)

/-- The checks of an operation: those of its parameters, of its body and of its responses. -/
def checks (ignored : List String) : List Finding :=
  op.parameters.zipIdx.flatMap (Parameters.checks d ignored) ++
    op.requestBody.toList.flatMap (Parameters.bodyChecks d) ++
    op.responses.flatMap (Responses.checks d)

lemma failure?_bodyOf :
    (bodyOf d op).failure? = first (op.requestBody.toList.flatMap (Parameters.bodyChecks d)) := by
  unfold bodyOf
  cases op.requestBody with
  | none => rfl
  | some node => simp [Parameters.failure?_ofBody]

lemma failure?_resolve (ignored : List String) :
    (resolve d ignored op).failure? = first (checks d op ignored) := by
  rw [checks, first_append, first_append, ← Parameters.failure?_resolve, ← failure?_bodyOf,
    ← Responses.failure?_outcomes, resolve]
  cases Parameters.resolve d ignored op.parameters with
  | error m => rfl
  | ok own =>
    cases bodyOf d op with
    | error m => rfl
    | ok body => cases Responses.outcomes d op.responses <;> rfl

lemma failure?_buildWith :
    (buildWith d o isError path method op inherited).failure? =
      (first (checks d op o.ignored)).map (⟨method, path, ·⟩) := by
  rw [← failure?_resolve, buildWith]
  cases resolve d o.ignored op <;> rfl

/-- **Failures.** A build fails with what the first failing check finds, under its method and path,
and it succeeds if no check fails. Options other than the ignored names, the test for errors and the
inherited parameters change neither. -/
theorem fails_with_first_finding :
    (∀ e, buildWith d o isError path method op inherited = .error e ↔
      ∃ before m after, checks d op o.ignored = before ++ some m :: after ∧
        (∀ c ∈ before, c = none) ∧ e = ⟨method, path, m⟩) ∧
    ((∃ built, buildWith d o isError path method op inherited = .ok built) ↔
      ∀ c ∈ checks d op o.ignored, c = none) ∧
    ∀ (o' : Options) (isError' : Status → Bool) (inherited' : ParameterTable),
      (buildWith d { o' with ignored := o.ignored } isError' path method op inherited').failure? =
        (buildWith d o isError path method op inherited).failure? := by
  refine ⟨fun e => ?_, ?_, fun o' isError' inherited' => ?_⟩
  · rw [Except.eq_error_iff, failure?_buildWith, Option.map_eq_some_iff]
    constructor
    · rintro ⟨m, hm, rfl⟩
      obtain ⟨before, after, hcs, hbefore⟩ := first_eq_some_iff.mp hm
      exact ⟨before, m, after, hcs, hbefore, rfl⟩
    · rintro ⟨before, m, after, hcs, hbefore, rfl⟩
      exact ⟨m, first_eq_some_iff.mpr ⟨before, after, hcs, hbefore⟩, rfl⟩
  · rw [Except.exists_eq_ok_iff, failure?_buildWith, Option.map_eq_none_iff, first_eq_none_iff]
  · rw [failure?_buildWith, failure?_buildWith]

end Operation

end ApiOperations
