import Mathlib.Data.List.Basic
import ApiOperations.Reference.Chain

/-!
Bounded walks against unbounded chains.

A trail follows references for as long as they lead anywhere and never looks back, so a chain that
comes back to a pointer has trails of every length. A walk keeps to the trail of its start. It ends
where the trail ends, and otherwise at the first pointer that the trail meets again.
-/

namespace ApiOperations.Reference

open ApiOperations.Description (Document)

variable {α : Type}

/-! ### Chains -/

section Chains

variable (wanted : Section) (definitions : Definitions α)

/-- The pointer names this node of the section. -/
def Names (p : String) (node : Node α) : Prop :=
  ∃ name, Pointer.parse? p = some (wanted, name) ∧
    definitions.bind (List.lookup name) = some node

/-- The pointer cannot be followed, for this cause. -/
inductive Broken (p : String) : Fault → Prop
  | badPointer : Pointer.parse? p = none → Broken p (.badPointer p)
  | wrongSection {s : Section} {name : String} :
      Pointer.parse? p = some (s, name) → s ≠ wanted → Broken p (.wrongSection wanted p)
  | notFound {name : String} : Pointer.parse? p = some (wanted, name) →
      definitions.bind (List.lookup name) = none → Broken p (.notFound p)

/-- Following the pointers, of which the latest is the first, leads from one node to another. -/
inductive Trail (start : Node α) : List String → Node α → Prop
  | start : Trail start [] start
  | follow {ps : List String} {p : String} {node : Node α} :
      Trail start ps (.ref p) → Names wanted definitions p node → Trail start (p :: ps) node

/-- References can be followed from a node any number of times. -/
def Endless (start : Node α) : Prop :=
  ∀ n, ∃ ps node, Trail wanted definitions start ps node ∧ ps.length = n

/-- The chain of a node has this result: it reaches an inline definition, or it comes back to a
pointer for the first time, or it reaches a pointer that cannot be followed. -/
inductive Ends (start : Node α) : Except Fault α → Prop
  | inline {ps : List String} {x : α} :
      Trail wanted definitions start ps (.inline x) → Ends start (.ok x)
  | circular {ps : List String} {p : String} : Trail wanted definitions start ps (.ref p) →
      ps.Nodup → p ∈ ps → Ends start (.error (.circular p))
  | broken {ps : List String} {p : String} {f : Fault} :
      Trail wanted definitions start ps (.ref p) → Broken wanted definitions p f →
      Ends start (.error f)

end Chains

variable {wanted : Section} {definitions : Definitions α} {start : Node α}

lemma Names.unique {p : String} {m n : Node α} (hm : Names wanted definitions p m)
    (hn : Names wanted definitions p n) : m = n := by
  obtain ⟨name, hp, hm⟩ := hm
  obtain ⟨name', hp', hn⟩ := hn
  rw [hp] at hp'
  cases hp'
  rw [hm] at hn
  exact Option.some.inj hn

lemma Broken.not_names {p : String} {f : Fault} (h : Broken wanted definitions p f) (m : Node α) :
    ¬Names wanted definitions p m := by
  rintro ⟨name, hp, hm⟩
  cases h with
  | badPointer h => simp [h] at hp
  | wrongSection h hs =>
    rw [h] at hp
    cases hp
    exact hs rfl
  | notFound h hl =>
    rw [h] at hp
    cases hp
    simp [hl] at hm

lemma Broken.unique {p : String} {f g : Fault} (hf : Broken wanted definitions p f)
    (hg : Broken wanted definitions p g) : f = g := by
  cases hf <;> cases hg <;> simp_all

/-! ### The shape of a trail -/

/-- There is only one trail of a length. -/
lemma Trail.unique {ps qs : List String} {m n : Node α} (hm : Trail wanted definitions start ps m)
    (hn : Trail wanted definitions start qs n) (h : ps.length = qs.length) : ps = qs ∧ m = n := by
  induction hm generalizing qs n with
  | start =>
    cases hn with
    | start => exact ⟨rfl, rfl⟩
    | follow _ _ => simp at h
  | follow hm hp ih =>
    cases hn with
    | start => simp at h
    | follow hn hq =>
      obtain ⟨rfl, he⟩ := ih hn (by simpa using h)
      cases he
      exact ⟨rfl, hp.unique hq⟩

/-- A trail goes on along every longer one. -/
lemma Trail.goes_on {ps qs : List String} {m n : Node α} (hm : Trail wanted definitions start ps m)
    (hn : Trail wanted definitions start qs n) (h : ps.length < qs.length) :
    ∃ p k, m = .ref p ∧ Names wanted definitions p k ∧ p :: ps <:+ qs := by
  induction hn with
  | start => simp at h
  | @follow qs q n hn hq ih =>
    rcases Nat.lt_succ_iff_lt_or_eq.mp h with hlt | heq
    · obtain ⟨p, k, hp, hk, hs⟩ := ih hlt
      exact ⟨p, k, hp, hk, hs.trans (List.suffix_cons q qs)⟩
    · obtain ⟨rfl, rfl⟩ := hm.unique hn heq
      exact ⟨q, n, rfl, hq, List.suffix_rfl⟩

/-- A pointer on a trail leads to the end of the trail or to another pointer on it. -/
lemma Trail.next_of_mem {ps : List String} {m : Node α} (h : Trail wanted definitions start ps m)
    {q : String} (hq : q ∈ ps) :
    ∃ k, Names wanted definitions q k ∧ (k = m ∨ ∃ r ∈ ps, k = .ref r) := by
  induction h with
  | start => simp at hq
  | @follow ps p m _ hp ih =>
    rcases List.mem_cons.mp hq with rfl | hq
    · exact ⟨m, hp, .inl rfl⟩
    · obtain ⟨k, hk, rfl | ⟨r, hr, rfl⟩⟩ := ih hq
      · exact ⟨_, hk, .inr ⟨p, List.mem_cons_self, rfl⟩⟩
      · exact ⟨_, hk, .inr ⟨r, List.mem_cons_of_mem p hr, rfl⟩⟩

lemma Trail.exists_of_le {ps : List String} {m : Node α} (h : Trail wanted definitions start ps m)
    {n : Nat} (hn : n ≤ ps.length) :
    ∃ qs k, Trail wanted definitions start qs k ∧ qs.length = n := by
  induction h with
  | start => exact ⟨_, _, .start, (Nat.le_zero.mp hn).symm⟩
  | follow h hp ih =>
    rcases Nat.le_succ_iff.mp hn with hn | rfl
    · exact ih hn
    · exact ⟨_, _, h.follow hp, rfl⟩

/-- A trail that comes back to one of its pointers never ends. -/
lemma Trail.endless {ps : List String} {r : String}
    (h : Trail wanted definitions start ps (.ref r)) (hr : r ∈ ps) :
    Endless wanted definitions start := by
  have hmore : ∀ n, ∃ qs q,
      Trail wanted definitions start qs (.ref q) ∧ q ∈ ps ∧ n ≤ qs.length := by
    intro n
    induction n with
    | zero => exact ⟨ps, r, h, hr, Nat.zero_le _⟩
    | succ n ih =>
      obtain ⟨qs, q, hqs, hq, hn⟩ := ih
      obtain ⟨k, hk, rfl | ⟨p, hp, rfl⟩⟩ := h.next_of_mem hq
      · exact ⟨q :: qs, r, hqs.follow hk, hr, Nat.succ_le_succ hn⟩
      · exact ⟨q :: qs, p, hqs.follow hk, hp, Nat.succ_le_succ hn⟩
  intro n
  obtain ⟨qs, q, hqs, -, hn⟩ := hmore n
  exact hqs.exists_of_le hn

/-! ### Ends of a chain -/

/-- Nothing can be followed from the node. -/
def Stuck (wanted : Section) (definitions : Definitions α) (node : Node α) : Prop :=
  ∀ p, node = .ref p → ∀ k, ¬Names wanted definitions p k

lemma stuck_inline (x : α) : Stuck wanted definitions (.inline x) := by
  simp [Stuck]

lemma Broken.stuck {p : String} {f : Fault} (h : Broken wanted definitions p f) :
    Stuck wanted definitions (.ref p) := by
  rintro _ ⟨⟩
  exact h.not_names

/-- No trail is longer than one that is stuck. -/
lemma Trail.length_le_of_stuck {ps qs : List String} {m n : Node α}
    (hm : Trail wanted definitions start ps m) (hs : Stuck wanted definitions m)
    (hn : Trail wanted definitions start qs n) : qs.length ≤ ps.length := by
  by_contra hlt
  obtain ⟨p, k, hp, hk, -⟩ := hm.goes_on hn (by omega)
  exact hs p hp k hk

lemma Trail.eq_of_stuck {ps qs : List String} {m n : Node α}
    (hm : Trail wanted definitions start ps m) (hsm : Stuck wanted definitions m)
    (hn : Trail wanted definitions start qs n) (hsn : Stuck wanted definitions n) : m = n :=
  (hm.unique hn (Nat.le_antisymm (hn.length_le_of_stuck hsn hm) (hm.length_le_of_stuck hsm hn))).2

lemma Trail.not_endless {ps : List String} {m : Node α} (h : Trail wanted definitions start ps m)
    (hs : Stuck wanted definitions m) : ¬Endless wanted definitions start := by
  intro he
  obtain ⟨qs, n, hn, hlen⟩ := he (ps.length + 1)
  have := h.length_le_of_stuck hs hn
  omega

/-- A trail of different pointers is no longer than one that comes back to a pointer. -/
lemma Trail.length_le_of_mem {ps qs : List String} {p : String} {n : Node α}
    (hp : Trail wanted definitions start ps (.ref p)) (hmem : p ∈ ps)
    (hn : Trail wanted definitions start qs n) (hqs : qs.Nodup) : qs.length ≤ ps.length := by
  by_contra hlt
  obtain ⟨_, _, ⟨⟩, -, hs⟩ := hp.goes_on hn (by omega)
  exact (List.nodup_cons.mp (hqs.sublist hs.sublist)).1 hmem

lemma Ends.unique {r r' : Except Fault α} (h : Ends wanted definitions start r)
    (h' : Ends wanted definitions start r') : r = r' := by
  cases h with
  | inline h =>
    cases h' with
    | inline h' =>
      cases h.eq_of_stuck (stuck_inline _) h' (stuck_inline _)
      rfl
    | circular h' _ hr => exact (h.not_endless (stuck_inline _) (h'.endless hr)).elim
    | broken h' hf => cases h.eq_of_stuck (stuck_inline _) h' hf.stuck
  | circular h hd hr =>
    cases h' with
    | inline h' => exact (h'.not_endless (stuck_inline _) (h.endless hr)).elim
    | circular h' hd' hr' =>
      have hle := h'.length_le_of_mem hr' h hd
      have hge := h.length_le_of_mem hr h' hd'
      cases (h.unique h' (Nat.le_antisymm hle hge)).2
      rfl
    | broken h' hf => exact (h'.not_endless hf.stuck (h.endless hr)).elim
  | broken h hf =>
    cases h' with
    | inline h' => cases h.eq_of_stuck hf.stuck h' (stuck_inline _)
    | circular h' _ hr => exact (h.not_endless hf.stuck (h'.endless hr)).elim
    | broken h' hf' =>
      cases h.eq_of_stuck hf.stuck h' hf'.stuck
      rw [hf.unique hf']

/-! ### Walks keep to the trail -/

lemma names_of_step {p : String} {node : Node α} (h : step wanted definitions p = .ok node) :
    Names wanted definitions p node :=
  step_eq_ok_iff.mp h

lemma broken_of_step {p : String} {f : Fault} (h : step wanted definitions p = .error f) :
    Broken wanted definitions p f := by
  unfold step Section.entry at h
  rcases hp : Pointer.parse? p with _ | ⟨s, name⟩
  · simp only [hp] at h
    cases h
    exact .badPointer hp
  · by_cases hs : s = wanted
    · subst hs
      rcases hl : definitions.bind (List.lookup name) with _ | node
      · simp only [hp, hl, if_true] at h
        cases h
        exact .notFound hp hl
      · simp [hp, hl] at h
    · simp only [hp, hs, if_false] at h
      cases h
      exact .wrongSection hp hs

/-- A sound walk that stands at the end of a trail and has met the pointers of it. -/
structure Walk.Follows (wanted : Section) (definitions : Definitions α) (start : Node α)
    (w : Walk α) : Prop where
  sound : w.Sound definitions
  trail : Trail wanted definitions start w.met w.node

lemma Walk.follows_start : Walk.Follows wanted definitions start ⟨start, []⟩ :=
  ⟨Walk.Sound.start definitions start, .start⟩

lemma Walk.Follows.look_inr {w w' : Walk α} (hw : w.Follows wanted definitions start)
    (h : look wanted definitions w = .inr w') : w'.Follows wanted definitions start := by
  obtain ⟨p, hp, -, hs, hmet⟩ := look_eq_inr h
  refine ⟨hw.sound.look h, ?_⟩
  rw [hmet]
  exact (hp ▸ hw.trail).follow (names_of_step hs)

lemma Walk.Follows.look_inl {w : Walk α} {r : Except Fault α}
    (hw : w.Follows wanted definitions start) (h : look wanted definitions w = .inl r) :
    Ends wanted definitions start r := by
  obtain ⟨hsound, htrail⟩ := hw
  unfold look at h
  split at h
  · rename_i x hx
    cases h
    exact .inline (hx ▸ htrail)
  · rename_i p hp
    rw [hp] at htrail
    split at h
    · rename_i hmet
      cases h
      exact .circular htrail hsound.distinct hmet
    · split at h
      · rename_i f hs
        cases h
        exact .broken htrail (broken_of_step hs)
      · cases h

/-- However many looks a walk takes, what it finds is what the chain of its start has. -/
lemma Walk.Follows.ends {w : Walk α} {r : Except Fault α} {n : Nat}
    (hw : w.Follows wanted definitions start) (h : walk wanted definitions n w = some r) :
    Ends wanted definitions start r := by
  induction n generalizing w with
  | zero => cases h
  | succ n ih =>
    unfold walk at h
    split at h
    · rename_i r' hl
      cases h
      exact hw.look_inl hl
    · rename_i w' hl
      exact ih (hw.look_inr hl) h

lemma walk_resolve (wanted : Section) (definitions : Definitions α) (start : Node α) :
    walk wanted definitions ((definitions.getD []).length + 2) ⟨start, []⟩ =
      some (resolve wanted definitions start) := by
  simp [resolve]

lemma resolve_eq_iff {r : Except Fault α} :
    resolve wanted definitions start = r ↔ Ends wanted definitions start r := by
  have hends := Walk.follows_start.ends (walk_resolve wanted definitions start)
  exact ⟨fun h => h ▸ hends, hends.unique⟩

/-! ### Results -/

/-- The result is what the unbounded chain of a node has. To find it a walk needs at most two looks
more than the section has entries. -/
structure Settles (wanted : Section) (definitions : Definitions α) (start : Node α)
    (result : Except Fault α) : Prop where
  looks : walk wanted definitions ((definitions.getD []).length + 2) ⟨start, []⟩ = some result
  /-- A definition is found if and only if the chain reaches it. -/
  inline : ∀ x, result = .ok x ↔ ∃ ps, Trail wanted definitions start ps (.inline x)
  /-- A chain is circular if and only if it never ends. -/
  endless : (∃ p, result = .error (.circular p)) ↔ Endless wanted definitions start
  /-- What is reported of it is the first pointer that is met again. -/
  circular : ∀ p, result = .error (.circular p) ↔
    ∃ ps, Trail wanted definitions start ps (.ref p) ∧ ps.Nodup ∧ p ∈ ps
  /-- Any other fault is that of a pointer where the chain breaks off. -/
  broken : ∀ f, (result = .error f ∧ ∀ p, f ≠ .circular p) ↔
    ∃ ps p, Trail wanted definitions start ps (.ref p) ∧ Broken wanted definitions p f

lemma Broken.ne_circular {p : String} {f : Fault} (h : Broken wanted definitions p f) (q : String) :
    f ≠ .circular q := by
  cases h <;> simp

lemma Ends.endless_iff {r : Except Fault α} (h : Ends wanted definitions start r) :
    (∃ p, r = .error (.circular p)) ↔ Endless wanted definitions start := by
  constructor
  · rintro ⟨p, rfl⟩
    cases h with
    | circular h _ hp => exact h.endless hp
    | broken _ hf => exact (hf.ne_circular p rfl).elim
  · intro he
    cases h with
    | inline h => exact (h.not_endless (stuck_inline _) he).elim
    | circular _ _ _ => exact ⟨_, rfl⟩
    | broken h hf => exact (h.not_endless hf.stuck he).elim

lemma settles_resolve (wanted : Section) (definitions : Definitions α) (start : Node α) :
    Settles wanted definitions start (resolve wanted definitions start) where
  looks := walk_resolve wanted definitions start
  inline x := by
    rw [resolve_eq_iff]
    constructor
    · rintro ⟨⟩
      exact ⟨_, ‹_›⟩
    · rintro ⟨ps, h⟩
      exact .inline h
  endless := (resolve_eq_iff.mp rfl).endless_iff
  circular p := by
    rw [resolve_eq_iff]
    constructor
    · intro h
      cases h with
      | circular h hd hp => exact ⟨_, h, hd, hp⟩
      | broken _ hf => exact (hf.ne_circular p rfl).elim
    · rintro ⟨ps, h, hd, hp⟩
      exact .circular h hd hp
  broken f := by
    rw [resolve_eq_iff]
    constructor
    · rintro ⟨h, hf⟩
      cases h with
      | circular _ _ _ => exact (hf _ rfl).elim
      | broken h hb => exact ⟨_, _, h, hb⟩
    · rintro ⟨ps, p, h, hb⟩
      exact ⟨.broken h hb, hb.ne_circular⟩

/-- **Chains.** Every parameter, response and request body of a document resolves to what its chain
of references has, however long the chain is. -/
theorem chains_settle (d : Document) :
    (∀ node, Settles .parameters d.parameterTable node (d.parameter node)) ∧
    (∀ node, Settles .responses d.responseTable node (d.response node)) ∧
    ∀ node, Settles .requestBodies d.requestBodyTable node (d.requestBody node) :=
  ⟨settles_resolve _ _, settles_resolve _ _, settles_resolve _ _⟩

/-- Two spellings of one pointer are two pointers, and the chain is circular at the second meeting
of the same spelling. -/
example : resolve .parameters
    (some [("a", .ref "#/parameters/b"), ("b", .ref "#/components/parameters/a")] :
      Definitions Nat) (.ref "#/parameters/a") = .error (.circular "#/parameters/b") := by
  rfl

end ApiOperations.Reference
