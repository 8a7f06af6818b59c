import Mathlib.Data.List.Forall2
import Mathlib.Data.List.ReduceOption
import ApiOperations.Proofs.List
import ApiOperations.Proofs.Operation.Override

/-!
Which declarations of a list make it into its table.

Every node leads to a declaration, and what is left of it is a parameter, unless its name is ignored.
The table of the list holds the parameters that last: after them comes none with their key and, if
they are bodies, no body. A parameter that is driven out is gone for good, whatever becomes of the one
that drove it out: going on with a list takes entries from its table and puts later ones behind them,
and never puts an earlier one back.
-/

namespace ApiOperations

open ApiOperations.Description (Document)

namespace ParameterTable

/-! ### Parameters that last -/

/-- The parameter lasts if these come after it. -/
def Lasts (later : List Parameter) (p : Parameter) : Prop :=
  ∀ q ∈ later, q.key ≠ p.key ∧ (p.isBody → ¬q.isBody)

instance (later : List Parameter) : DecidablePred (Lasts later) := fun p =>
  inferInstanceAs (Decidable (∀ q ∈ later, q.key ≠ p.key ∧ (p.isBody → ¬q.isBody)))

lemma spares_eq_lasts (later : List Parameter) (p : Parameter) :
    spares later p = decide (Lasts later p) := by
  rw [← Bool.coe_iff_coe, spares_iff, decide_eq_true_iff]
  refine forall₂_congr fun q _ => ?_
  rw [Parameter.evicts_eq_false_iff, not_and']

/-- The parameters of a list that last: each is looked at with those behind its own place. -/
def lasting (ps : List Parameter) : List Parameter :=
  (ps.zipIdx.filter fun e => Lasts (ps.drop (e.2 + 1)) e.1).map Prod.fst

lemma lasting_cons (p : Parameter) (ps : List Parameter) :
    lasting (p :: ps) = if Lasts ps p then p :: lasting ps else lasting ps := by
  -- behind a later place stand the same parameters as in the list without its head
  have htail : ((ps.zipIdx 1).filter fun e => Lasts ((p :: ps).drop (e.2 + 1)) e.1).map Prod.fst =
      lasting ps := by
    rw [List.zipIdx_succ, List.filter_map, List.map_map]
    rfl
  rw [lasting, List.zipIdx_cons, List.filter_cons, Nat.zero_add, List.drop_succ_cons, List.drop_zero]
  by_cases hp : Lasts ps p
  · rw [if_pos (decide_eq_true hp), if_pos hp, List.map_cons, htail]
  · rw [if_neg (by simpa using hp), if_neg hp, htail]

lemma latest_eq_lasting (ps : List Parameter) : latest ps = lasting ps := by
  induction ps with
  | nil => rfl
  | cons p ps ih => simp only [latest, lasting_cons, ih, spares_eq_lasts, decide_eq_true_eq]

lemma lasting_append (ps qs : List Parameter) :
    lasting (ps ++ qs) = (lasting ps).filter (Lasts qs) ++ lasting qs := by
  have hspares : (latest ps).filter (spares qs) = (latest ps).filter (Lasts qs) :=
    List.filter_congr fun p _ => spares_eq_lasts qs p
  rw [← latest_eq_lasting, latest_append, hspares, latest_eq_lasting, latest_eq_lasting]

lemma entries_ofList_eq_lasting (ps : List Parameter) : (ofList ps).entries = lasting ps :=
  (entries_ofList ps).trans (latest_eq_lasting ps)

end ParameterTable

namespace Parameters

variable {d : Document} {ignored : List String}

/-! ### What nodes declare -/

variable (d ignored) in
/-- What is left of a node once its references are followed: a parameter, or nothing if its name is
ignored. -/
inductive Declares (node : Node Description.Parameter) : Option Parameter → Prop
  | dropped {decl : Description.Parameter} {name : String} : d.parameter node = .ok decl →
      decl.name = some name → name ∈ ignored → Declares node none
  | kept {decl : Description.Parameter} {name : String} {p : Parameter} :
      d.parameter node = .ok decl → decl.name = some name → name ∉ ignored →
      ofDeclaration d name decl = .ok p → Declares node (some p)

lemma ofNode_eq_ok_iff {node : Node Description.Parameter} {out : Option Parameter} :
    ofNode d ignored node = .ok out ↔ Declares d ignored node out := by
  constructor
  · intro h
    obtain ⟨decl, hdecl, h⟩ := Except.bind_eq_ok_iff.mp h
    split at h
    · cases h
    · rename_i name hname
      split at h
      · rename_i hignored
        cases h
        exact .dropped hdecl hname (List.contains_iff_mem.mp hignored)
      · rename_i hignored
        obtain ⟨p, hp, ⟨⟩⟩ := Except.bind_eq_ok_iff.mp h
        exact .kept hdecl hname (mt List.contains_iff_mem.mpr hignored) hp
  · intro h
    refine Except.bind_eq_ok_iff.mpr ?_
    cases h with
    | dropped hdecl hname hignored =>
      refine ⟨_, hdecl, ?_⟩
      rw [hname]
      exact if_pos (List.contains_iff_mem.mpr hignored)
    | kept hdecl hname hignored hp =>
      refine ⟨_, hdecl, ?_⟩
      rw [hname]
      dsimp only
      rw [if_neg (mt List.contains_iff_mem.mp hignored), hp]
      rfl

lemma declared_eq_ok_iff {i : Nat} {nodes : List (Node Description.Parameter)}
    {ps : List Parameter} : declared d ignored i nodes = .ok ps ↔
      ∃ outs, List.Forall₂ (Declares d ignored) nodes outs ∧ outs.reduceOption = ps := by
  induction nodes generalizing i ps with
  | nil => simp [declared, eq_comm]
  | cons node nodes ih =>
    have hcons : ∀ (out : Option Parameter) (outs : List (Option Parameter)),
        (out :: outs).reduceOption = out.toList ++ outs.reduceOption := fun out outs => by
      cases out <;> rfl
    simp only [List.forall₂_cons_left_iff, ← ofNode_eq_ok_iff, declared]
    cases ofNode d ignored node with
    | error f => simp
    | ok out =>
      simp only [Except.bind_eq_ok_iff, ih, pure, Except.pure, Except.ok.injEq]
      constructor
      · rintro ⟨_, ⟨outs, houts, rfl⟩, rfl⟩
        exact ⟨_, ⟨out, outs, rfl, houts, rfl⟩, hcons out outs⟩
      · rintro ⟨_, ⟨_, outs, rfl, houts, rfl⟩, rfl⟩
        exact ⟨_, ⟨outs, houts, rfl⟩, (hcons out outs).symm⟩

lemma resolve_eq_ok_iff_lasting {nodes : List (Node Description.Parameter)} {t : ParameterTable} :
    resolve d ignored nodes = .ok t ↔
      ∃ outs, List.Forall₂ (Declares d ignored) nodes outs ∧
        ParameterTable.ofList outs.reduceOption = t := by
  simp only [resolve_eq_ok_iff, declared_eq_ok_iff]
  constructor
  · rintro ⟨_, ⟨outs, houts, rfl⟩, rfl⟩
    exact ⟨outs, houts, rfl⟩
  · rintro ⟨outs, houts, rfl⟩
    exact ⟨_, ⟨outs, houts, rfl⟩, rfl⟩

/-- **Later declarations win.** The table of a list holds the parameters that its nodes declare, in
their order, as far as they last. What the table holds of the front of a list are entries of the table
of that front, so no parameter comes back that was driven out there. -/
theorem entries_of_resolve {nodes : List (Node Description.Parameter)} {t : ParameterTable}
    (h : resolve d ignored nodes = .ok t) :
    (∃ outs, List.Forall₂ (Declares d ignored) nodes outs ∧
      t.entries = ParameterTable.lasting outs.reduceOption) ∧
    ∀ front back, nodes = front ++ back →
      ∃ u outs, resolve d ignored front = .ok u ∧ List.Forall₂ (Declares d ignored) back outs ∧
        t.entries = u.entries.filter (ParameterTable.Lasts outs.reduceOption) ++
          ParameterTable.lasting outs.reduceOption := by
  obtain ⟨outs, houts, rfl⟩ := resolve_eq_ok_iff_lasting.mp h
  refine ⟨⟨outs, houts, ParameterTable.entries_ofList_eq_lasting _⟩, ?_⟩
  rintro front back rfl
  obtain ⟨os, ps, rfl, hos, hps⟩ := houts.exists_append
  refine ⟨_, ps, resolve_eq_ok_iff_lasting.mpr ⟨os, hos, rfl⟩, hps, ?_⟩
  rw [ParameterTable.entries_ofList_eq_lasting, ParameterTable.entries_ofList_eq_lasting,
    List.reduceOption_append, ParameterTable.lasting_append]

/-- A body of any type. -/
def sentBody (name : String) : Node Description.Parameter :=
  .inline ⟨some name, some .body, none, false, some (.inline Description.Schema.empty), none, none,
    none, [], none⟩

/-- A body drives out the query parameter of its name, and then another body drives it out. The last
name is ignored. -/
def succession : List (Node Description.Parameter) :=
  [Operation.plain "page-size" .query, sentBody "pageSize", Operation.plain "id" .path,
    sentBody "filter", Operation.plain "api-version" .query]

theorem entries_of_succession :
    ∃ t, resolve Operation.bare ["api-version"] succession = .ok t ∧
      t.entries.map (·.originalName) = ["id", "filter"] ∧
      (∃ outs, List.Forall₂ (Declares Operation.bare ["api-version"]) succession outs ∧
        t.entries = ParameterTable.lasting outs.reduceOption) ∧
      ∃ u outs, resolve Operation.bare ["api-version"] (succession.take 2) = .ok u ∧
        u.entries.map (·.originalName) = ["pageSize"] ∧
        List.Forall₂ (Declares Operation.bare ["api-version"]) (succession.drop 2) outs ∧
        t.entries = u.entries.filter (ParameterTable.Lasts outs.reduceOption) ++
          ParameterTable.lasting outs.reduceOption := by
  have h : resolve Operation.bare ["api-version"] succession = .ok _ := rfl
  obtain ⟨hwhole, hparts⟩ := entries_of_resolve h
  obtain ⟨u, outs, hu, houts, hentries⟩ := hparts _ _ (List.take_append_drop 2 succession).symm
  refine ⟨_, h, by decide +kernel, hwhole, u, outs, hu, ?_, houts, hentries⟩
  have hfront : resolve Operation.bare ["api-version"] (succession.take 2) = .ok _ := rfl
  cases hu.symm.trans hfront
  decide +kernel

end Parameters

end ApiOperations
