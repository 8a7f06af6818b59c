import Mathlib.Data.List.Basic
import ApiOperations.Proofs.DataType.Tokens
import ApiOperations.Proofs.Operation.Dependencies

/-!
Types told by their labels.

The row of tokens of a label is read from its end. The last token shows what kind of type stands there,
and a sign in front of that whether it is the only one or the last of several. Nothing shows how far back
the mark of an array reaches: an array of a union has the label of the union whose last member is an
array. Where no array is one of a union or an intersection, where these are not nested and where there
is no object, the label tells the type.
-/

namespace ApiOperations

open ApiOperations.Description

namespace DataType

variable {t u : DataType} {ts us : List DataType} {p q : List Token} {s s' : Sign}

/-! ### Unions and intersections -/

/-- The label of the type joins those of its members. -/
def isJoin : DataType → Bool
  | union _ | intersection _ => true
  | _ => false

/-- The types whose labels stand in a row: the members of a union or an intersection, or the type. -/
def members : DataType → List DataType
  | union ts | intersection ts => ts
  | t => [t]

/-- The sign between the labels of the members. -/
def separator : DataType → Sign
  | intersection _ => .ampersand
  | _ => .bar

lemma members_of_isJoin_eq_false (h : t.isJoin = false) : t.members = [t] := by
  cases t <;> first | rfl | cases h

lemma tokens_eq_joinTokens (t : DataType) : t.tokens = joinTokens t.separator t.members := by
  cases t <;> rfl

lemma separator_ne_opening (t : DataType) : t.separator ≠ .opening := by
  cases t <;> exact Sign.noConfusion

lemma joinTokens_concat (h : ts ≠ []) (t : DataType) :
    joinTokens s (ts ++ [t]) = joinTokens s ts ++ [.sign s] ++ t.tokens := by
  induction ts with
  | nil => exact absurd rfl h
  | cons v ts ih =>
    cases ts with
    | nil => simp [joinTokens]
    | cons w ts =>
      have htail := ih (List.cons_ne_nil w ts)
      rw [List.cons_append] at htail
      rw [List.cons_append, List.cons_append, joinTokens, htail, joinTokens]
      simp

/-- The mark of an array goes to the last of several labels. -/
lemma joinTokens_concat_array (ts : List DataType) (t : DataType) :
    joinTokens s (ts ++ [.array t]) = joinTokens s (ts ++ [t]) ++ [.sign .mark] := by
  cases ts with
  | nil => rfl
  | cons v ts =>
    have hne := List.cons_ne_nil v ts
    rw [joinTokens_concat hne, joinTokens_concat hne, tokens, List.append_assoc _ t.tokens]

/-! ### Types that can be told -/

/-- What is asked of a type, apart from its parts: it is no object, and a union or an intersection has
several members, none of which is of this kind itself. -/
def Flat : DataType → Prop
  | object _ => False
  | union ts | intersection ts => 2 ≤ ts.length ∧ ∀ t ∈ ts, t.isJoin = false
  | _ => True

/-- The type is no array of a union or an intersection. -/
def PlainItems : DataType → Prop
  | array t => t.isJoin = false
  | _ => True

/-- The types that have a name of their own. -/
def basics : List DataType :=
  [string, number, integer, boolean, null, any, dateTime, binary]

/-- The label of the type is one word. -/
inductive IsWord : DataType → Prop
  | basic {t : DataType} : t ∈ basics → IsWord t
  | ref {n : String} : IsSchemaName n → IsWord (.ref n)

/-- The types that a schema can describe and that are flat at any depth, with arrays of plain items. -/
inductive Legible : DataType → Prop
  | word {t : DataType} : t.IsWord → Legible t
  | literal (s : String) : Legible (.literal s)
  | array {t : DataType} : t.isJoin = false → Legible t → Legible (.array t)
  | map {t : DataType} : Legible t → Legible (.map t)
  | union {ts : List DataType} : 2 ≤ ts.length → (∀ t ∈ ts, t.isJoin = false) →
      (∀ t ∈ ts, Legible t) → Legible (.union ts)
  | intersection {ts : List DataType} : 2 ≤ ts.length → (∀ t ∈ ts, t.isJoin = false) →
      (∀ t ∈ ts, Legible t) → Legible (.intersection ts)

lemma Formed.legible (h : t.Formed IsSchemaName)
    (hall : ∀ v : DataType, v.Inside t → v.Flat ∧ v.PlainItems) : t.Legible := by
  induction h with
  | @leaf t ht =>
    cases t with
    | literal s => exact .literal s
    | string | number | integer | boolean | null | any | dateTime | binary =>
      exact .word (.basic (by simp [basics]))
    | array _ | object _ | map _ | ref _ | union _ | intersection _ | void => cases ht
  | array _ ih => exact .array (hall _ .whole).2 (ih fun v hv => hall v (.item hv))
  | map _ ih => exact .map (ih fun v hv => hall v (.value hv))
  | object _ _ _ => exact (hall _ .whole).1.elim
  | ref hn => exact .word (.ref hn)
  | union _ _ ih =>
    obtain ⟨hlength, hmembers⟩ := (hall _ .whole).1
    exact .union hlength hmembers fun t ht => ih t ht fun v hv => hall v (.variant ht hv)
  | intersection _ _ ih =>
    obtain ⟨hlength, hmembers⟩ := (hall _ .whole).1
    exact .intersection hlength hmembers fun t ht => ih t ht fun v hv => hall v (.part ht hv)

lemma IsWord.isJoin_eq_false (h : t.IsWord) : t.isJoin = false := by
  have hbasic : ∀ v ∈ basics, v.isJoin = false := by decide
  cases h with
  | basic h => exact hbasic t h
  | ref _ => rfl

lemma Legible.of_mem_members (h : t.Legible) : ∀ v ∈ t.members, v.Legible ∧ v.isJoin = false := by
  cases hjoin : t.isJoin with
  | false =>
    rw [members_of_isJoin_eq_false hjoin]
    exact List.forall_mem_singleton.mpr ⟨h, hjoin⟩
  | true =>
    cases h with
    | union _ hjoins hts | intersection _ hjoins hts => exact fun v hv => ⟨hts v hv, hjoins v hv⟩
    | word hword => cases hword.isJoin_eq_false.symm.trans hjoin
    | literal _ | array _ _ | map _ => cases hjoin

lemma Legible.two_le_length (h : t.Legible) (hjoin : t.isJoin = true) : 2 ≤ t.members.length := by
  cases h with
  | union hlength _ _ | intersection hlength _ _ => exact hlength
  | word hword => cases hword.isJoin_eq_false.symm.trans hjoin
  | literal _ | array _ _ | map _ => cases hjoin

lemma Legible.members_ne_nil (h : t.Legible) : t.members ≠ [] := by
  cases hjoin : t.isJoin with
  | false => exact members_of_isJoin_eq_false hjoin ▸ List.cons_ne_nil t []
  | true =>
    intro hnil
    have hlength := h.two_le_length hjoin
    rw [hnil, List.length_nil] at hlength
    omega

/-- A type is told by its members and the sign between them. -/
lemma Legible.eq_of_members_eq (ht : t.Legible) (hu : u.Legible) (hmembers : t.members = u.members)
    (hsign : 2 ≤ t.members.length → t.separator = u.separator) : t = u := by
  have hjoin : t.isJoin = u.isJoin := by
    cases htjoin : t.isJoin <;> cases hujoin : u.isJoin
    · rfl
    · have hlength := hu.two_le_length hujoin
      rw [← hmembers, members_of_isJoin_eq_false htjoin, List.length_singleton] at hlength
      omega
    · have hlength := ht.two_le_length htjoin
      rw [hmembers, members_of_isJoin_eq_false hujoin, List.length_singleton] at hlength
      omega
    · rfl
  cases htjoin : t.isJoin with
  | false =>
    rw [members_of_isJoin_eq_false htjoin, members_of_isJoin_eq_false (hjoin ▸ htjoin)] at hmembers
    exact List.singleton_inj.mp hmembers
  | true =>
    have hseparator := hsign (ht.two_le_length htjoin)
    rw [htjoin] at hjoin
    cases t <;> cases htjoin <;> cases u <;> cases hjoin
    · exact congrArg DataType.union hmembers
    · cases hseparator
    · cases hseparator
    · exact congrArg DataType.intersection hmembers

/-! ### Words -/

lemma IsWord.tokens_eq (h : t.IsWord) : t.tokens = [.word t.labelChars] := by
  have hbasic : ∀ v ∈ basics, v.tokens = [.word v.labelChars] := by decide
  cases h with
  | basic h => exact hbasic t h
  | ref _ => rfl

/-- A name of a schema is no name of a type, which would start with a small letter. -/
lemma labelChars_ne_of_isSchemaName (ht : t ∈ basics) {n : String} (hn : IsSchemaName n) :
    t.labelChars ≠ n.toList := by
  have hsmall : ∀ v ∈ basics, v.labelChars.head?.any Char.isLower = true := by decide
  obtain ⟨s, rfl⟩ := hn
  intro h
  have hhead := hsmall t ht
  rw [h, Option.any_eq_true] at hhead
  obtain ⟨c, hc, hlower⟩ := hhead
  rw [Name.isLower_of_mem_head_pascal c hc] at hlower
  cases hlower

lemma IsWord.eq_of_labelChars_eq (ht : t.IsWord) (hu : u.IsWord) (h : t.labelChars = u.labelChars) :
    t = u := by
  cases ht with
  | basic ht =>
    cases hu with
    | basic hu =>
      have hdistinct : (basics.map labelChars).Nodup := by decide
      exact List.inj_on_of_nodup_map hdistinct ht hu h
    | ref hn => exact absurd h (labelChars_ne_of_isSchemaName ht hn)
  | ref hn =>
    cases hu with
    | basic hu => exact absurd h.symm (labelChars_ne_of_isSchemaName hu hn)
    | ref hm => exact congrArg DataType.ref (String.toList_inj.mp h)

/-! ### Reading from the end -/

/-- How the row of tokens of a type ends that is no union or intersection: with this token, and these
are in front of it. -/
inductive EndsWith : DataType → List Token → Token → Prop
  | word {t : DataType} : t.IsWord → EndsWith t [] (.word t.labelChars)
  | literal (s : String) : EndsWith (.literal s) [] (.literal s)
  | array {t : DataType} : Legible t → t.isJoin = false → EndsWith (.array t) t.tokens (.sign .mark)
  | map {t : DataType} : Legible t →
      EndsWith (.map t) (.word "map".toList :: .sign .opening :: t.tokens) (.sign .closing)

lemma EndsWith.tokens_eq {front : List Token} {last : Token} (h : t.EndsWith front last) :
    t.tokens = front ++ [last] := by
  cases h with
  | word h => exact h.tokens_eq
  | literal _ | array _ _ | map _ => rfl

lemma Legible.exists_endsWith (h : t.Legible) (hjoin : t.isJoin = false) :
    ∃ front last, t.EndsWith front last := by
  cases h with
  | word h => exact ⟨_, _, .word h⟩
  | literal s => exact ⟨_, _, .literal s⟩
  | array hitem h => exact ⟨_, _, .array h hitem⟩
  | map h => exact ⟨_, _, .map h⟩
  | union _ _ _ | intersection _ _ _ => cases hjoin

/-- The end of a row of tokens shows this type, if no union or intersection stands there. -/
def Reads (t : DataType) : Prop :=
  ∀ u p q, u.Legible → u.isJoin = false → p ++ t.tokens = q ++ u.tokens → t = u ∧ p = q

/-- It is enough to look at the last tokens and at what is in front of them. -/
lemma EndsWith.reads {front : List Token} {last : Token} (ht : t.EndsWith front last)
    (h : ∀ u front' last' p q, u.EndsWith front' last' → p ++ front = q ++ front' → last = last' →
      t = u ∧ p = q) : Reads t := by
  intro u p q hu hjoin htokens
  obtain ⟨front', last', hends⟩ := hu.exists_endsWith hjoin
  rw [ht.tokens_eq, hends.tokens_eq, ← List.append_assoc, ← List.append_assoc,
    List.append_singleton_inj] at htokens
  exact h u front' last' p q hends htokens.1 htokens.2

/-- Nothing stands in front, or an opening sign does. -/
def Opened (p : List Token) : Prop :=
  ∀ x ∈ p.getLast?, x = .sign .opening

lemma not_opened_concat (hs : s ≠ .opening) : ¬Opened (p ++ [.sign s]) := by
  intro h
  rw [Opened, List.getLast?_concat] at h
  exact hs (Token.sign.inj (h _ rfl))

lemma opened_concat (p : List Token) (x : Token) : Opened (p ++ [x, .sign .opening]) := by
  intro y hy
  rw [List.getLast?_append_cons, Option.mem_def] at hy
  exact (Option.some.inj hy).symm

/-- A row of several labels shows how many they are, as it starts behind an opening sign. -/
lemma joinTokens_inj (hs : s ≠ .opening) (hs' : s' ≠ .opening) (hts : ∀ t ∈ ts, Reads t)
    (hus : ∀ u ∈ us, u.Legible ∧ u.isJoin = false) (hne : ts ≠ []) (hne' : us ≠ [])
    (hp : Opened p) (hq : Opened q) (h : p ++ joinTokens s ts = q ++ joinTokens s' us) :
    ts = us ∧ (2 ≤ ts.length → s = s') ∧ p = q := by
  have hconcat : ∀ {r : List Token} {s : Sign} {vs : List DataType} (v : DataType), vs ≠ [] →
      r ++ joinTokens s (vs ++ [v]) = (r ++ joinTokens s vs ++ [.sign s]) ++ v.tokens := by
    intro r s vs v hvs
    rw [joinTokens_concat hvs]
    simp only [List.append_assoc]
  induction ts using List.reverseRecOn generalizing us with
  | nil => exact absurd rfl hne
  | append_singleton ts t ih =>
    obtain ⟨us, u, rfl⟩ := (List.eq_nil_or_concat' us).resolve_left hne'
    have ht : Reads t := hts t (List.mem_append_right _ List.mem_cons_self)
    obtain ⟨hu, hujoin⟩ := hus u (List.mem_append_right _ List.mem_cons_self)
    by_cases hfirst : ts = [] <;> by_cases hfirst' : us = []
    · subst hfirst hfirst'
      obtain ⟨rfl, hpq⟩ := ht u p q hu hujoin h
      exact ⟨rfl, fun hlength => absurd hlength (by simp), hpq⟩
    · subst hfirst
      rw [hconcat u hfirst'] at h
      obtain ⟨-, hpq⟩ := ht u p _ hu hujoin h
      exact absurd (hpq ▸ hp) (not_opened_concat hs')
    · subst hfirst'
      rw [hconcat t hfirst] at h
      obtain ⟨-, hpq⟩ := ht u _ q hu hujoin h
      exact absurd (hpq ▸ hq) (not_opened_concat hs)
    · -- both rows go on in front of their last labels
      rw [hconcat t hfirst, hconcat u hfirst'] at h
      obtain ⟨rfl, hfront⟩ := ht u _ _ hu hujoin h
      obtain ⟨hfront, hsign⟩ := List.append_singleton_inj.mp hfront
      obtain ⟨rfl, -, hpq⟩ := ih (fun v hv => hts v (List.mem_append_left _ hv))
        (fun v hv => hus v (List.mem_append_left _ hv)) hfirst hfirst' hfront
      exact ⟨rfl, fun _ => Token.sign.inj hsign, hpq⟩

/-- A whole label is read from its members. -/
lemma tokens_inj (hreads : ∀ v ∈ t.members, Reads v) (ht : t.Legible) (hu : u.Legible)
    (hp : Opened p) (hq : Opened q) (h : p ++ t.tokens = q ++ u.tokens) : t = u ∧ p = q := by
  rw [tokens_eq_joinTokens t, tokens_eq_joinTokens u] at h
  obtain ⟨hmembers, hsign, hpq⟩ := joinTokens_inj t.separator_ne_opening u.separator_ne_opening
    hreads hu.of_mem_members ht.members_ne_nil hu.members_ne_nil hp hq h
  exact ⟨ht.eq_of_members_eq hu hmembers hsign, hpq⟩

lemma reads_word (h : t.IsWord) : Reads t := by
  refine (EndsWith.word h).reads fun u front last p q hends hfront hlast => ?_
  cases hends with
  | word hu =>
    rw [List.append_nil, List.append_nil] at hfront
    exact ⟨h.eq_of_labelChars_eq hu (Token.word.inj hlast), hfront⟩
  | literal _ | array _ _ | map _ => cases hlast

lemma reads_literal (s : String) : Reads (.literal s) := by
  refine (EndsWith.literal s).reads fun u front last p q hends hfront hlast => ?_
  cases hends with
  | literal s' =>
    rw [List.append_nil, List.append_nil] at hfront
    exact ⟨congrArg DataType.literal (Token.literal.inj hlast), hfront⟩
  | word _ | array _ _ | map _ => cases hlast

lemma reads_array (h : t.Legible) (hjoin : t.isJoin = false) (hreads : Reads t) :
    Reads (.array t) := by
  refine (EndsWith.array h hjoin).reads fun u front last p q hends hfront hlast => ?_
  cases hends with
  | array hu hujoin =>
    obtain ⟨rfl, hpq⟩ := hreads _ p q hu hujoin hfront
    exact ⟨rfl, hpq⟩
  | word _ | literal _ | map _ => cases hlast

lemma reads_map (h : t.Legible) (hreads : ∀ v ∈ t.members, Reads v) : Reads (.map t) := by
  refine (EndsWith.map h).reads fun u front last p q hends hfront hlast => ?_
  cases hends with
  | @map u hu =>
    have hfront : (p ++ [.word "map".toList, .sign .opening]) ++ t.tokens =
        (q ++ [.word "map".toList, .sign .opening]) ++ u.tokens := by
      simpa using hfront
    obtain ⟨rfl, hpq⟩ := tokens_inj hreads h hu (opened_concat p _) (opened_concat q _) hfront
    exact ⟨rfl, List.append_cancel_right hpq⟩
  | word _ | literal _ | array _ _ => cases hlast

lemma Legible.reads (h : t.Legible) : ∀ v ∈ t.members, Reads v := by
  have hsingle : ∀ {v : DataType}, v.isJoin = false → (∀ w ∈ v.members, Reads w) → Reads v := by
    intro v hjoin hv
    rw [members_of_isJoin_eq_false hjoin] at hv
    exact hv v List.mem_cons_self
  induction h with
  | word h =>
    rw [members_of_isJoin_eq_false h.isJoin_eq_false]
    exact List.forall_mem_singleton.mpr (reads_word h)
  | literal s => exact List.forall_mem_singleton.mpr (reads_literal s)
  | array hjoin h ih => exact List.forall_mem_singleton.mpr (reads_array h hjoin (hsingle hjoin ih))
  | map h ih => exact List.forall_mem_singleton.mpr (reads_map h ih)
  | union _ hjoin _ ih | intersection _ hjoin _ ih =>
    exact fun v hv => hsingle (hjoin v hv) (ih v hv)

/-- A label tells the type that it is the label of. -/
lemma Legible.eq_of_tokens_eq (ht : t.Legible) (hu : u.Legible) (h : t.tokens = u.tokens) :
    t = u := by
  have hopened : Opened [] := fun x hx => by cases hx
  exact (tokens_inj ht.reads ht hu hopened hopened h).1

/-! ### Labels of types -/

lemma label_array_of_tokens_eq (h : u.tokens = t.tokens ++ [.sign .mark]) :
    (array t).label = u.label := by
  rw [label, label, labelChars_eq, labelChars_eq, h, tokens]

variable {d d' : Document} {node node' : Node Schema}

lemma formed_isSchemaName_of_ofNode (h : ofNode d node = .ok t) : t.Formed IsSchemaName := by
  refine formed_ofNode node ?_ t h
  intro p u _ hu
  obtain ⟨name, -, -, rfl⟩ := ofPointer_eq_ok_iff.mp hu
  exact .ref ⟨name, rfl⟩

/-- **Labels.** Two types of schemas have the same label exactly if they are written with the same
words, texts and signs. They are the same type then, if they have no object and nowhere a union or an
intersection with a single member, or as a member of another one, or as the items of an array. The last
is needed: an array of a union or an intersection has the label of the union or intersection that has
the array of the last member in place of that. -/
theorem label_eq_iff (ht : ofNode d node = .ok t) (hu : ofNode d' node' = .ok u) :
    (t.label = u.label ↔ t.tokens = u.tokens) ∧
    ((∀ v : DataType, v.Inside t → v.Flat ∧ v.PlainItems) →
      (∀ v : DataType, v.Inside u → v.Flat ∧ v.PlainItems) → (t.label = u.label ↔ t = u)) ∧
    ∀ (ts : List DataType) (v : DataType),
      (array (union (ts ++ [v]))).label = (union (ts ++ [array v])).label ∧
      (array (intersection (ts ++ [v]))).label = (intersection (ts ++ [array v])).label := by
  have htformed := formed_isSchemaName_of_ofNode ht
  have huformed := formed_isSchemaName_of_ofNode hu
  have htokens := (htformed.tokens_eq_iff huformed).symm
  refine ⟨htokens, fun htall huall => ⟨fun h => ?_, fun h => h ▸ rfl⟩, fun ts v => ?_⟩
  · exact (htformed.legible htall).eq_of_tokens_eq (huformed.legible huall) (htokens.mp h)
  · exact ⟨label_array_of_tokens_eq (joinTokens_concat_array ts v),
      label_array_of_tokens_eq (joinTokens_concat_array ts v)⟩

/-- A schema with one keyword. -/
def ofKeyword (k : TypeKeyword) : Node Schema :=
  .inline { Schema.empty with type := some (.single k) }

def arrayOf (items : Node Schema) : Node Schema :=
  .inline { Schema.empty with type := some (.single .array), items := some items }

def oneOf (nodes : List (Node Schema)) : Node Schema :=
  .inline { Schema.empty with oneOf := nodes }

theorem label_eq_iff_of_petsOrNull :
    let pet : Node Schema := .ref "#/components/schemas/pet"
    let node : Node Schema := .inline
      { Schema.empty with type := some (.single .array), items := some pet, nullable := some true }
    let node' := oneOf [arrayOf pet, ofKeyword .null]
    ∃ t u, ofNode Operation.store node = .ok t ∧ ofNode Operation.store node' = .ok u ∧
      (∀ v : DataType, v.Inside t → v.Flat ∧ v.PlainItems) ∧
      (∀ v : DataType, v.Inside u → v.Flat ∧ v.PlainItems) ∧
      t.label = "Pet[] | null" ∧ u.label = "Pet[] | null" ∧ t.tokens = u.tokens ∧ t = u ∧
      (array (union [.ref "Pet", null])).label = (union [.ref "Pet", array null]).label := by
  intro pet node node'
  have ht : ofNode Operation.store node = .ok (union [array (.ref "Pet"), null]) := rfl
  have hu : ofNode Operation.store node' = .ok (union [array (.ref "Pet"), null]) := rfl
  have hall : ∀ v : DataType, v.Inside (union [array (.ref "Pet"), null]) → v.Flat ∧ v.PlainItems := by
    intro v hv
    cases hv with
    | whole => exact ⟨⟨by decide, by decide⟩, trivial⟩
    | variant hmem hv =>
      rcases List.mem_pair.mp hmem with rfl | rfl
      · cases hv with
        | whole => exact ⟨trivial, rfl⟩
        | item hv =>
          cases hv
          exact ⟨trivial, trivial⟩
      · cases hv
        exact ⟨trivial, trivial⟩
  obtain ⟨htokens, htype, harray⟩ := label_eq_iff ht hu
  have hlabel : (union [array (.ref "Pet"), null]).label = "Pet[] | null" := by decide
  exact ⟨_, _, ht, hu, hall, hall, hlabel, hlabel, htokens.mp rfl, (htype hall hall).mp rfl,
    (harray [.ref "Pet"] null).1⟩

/-- The label does not show what the mark of an array belongs to. -/
theorem label_of_array_of_union :
    let t := array (union [string, integer])
    let u := union [string, array integer]
    ofNode Operation.bare (arrayOf (oneOf [ofKeyword .string, ofKeyword .integer])) = .ok t ∧
    ofNode Operation.bare (oneOf [ofKeyword .string, arrayOf (ofKeyword .integer)]) = .ok u ∧
    (∀ v : DataType, v.Inside t → v.Flat) ∧ (∀ v : DataType, v.Inside u → v.Flat) ∧
    t.label = "string | integer[]" ∧ u.label = "string | integer[]" ∧ t ≠ u := by
  intro t u
  refine ⟨rfl, rfl, ?_, ?_, by decide, by decide, DataType.noConfusion⟩
  · intro v hv
    change v.Inside (array (union [string, integer])) at hv
    cases hv with
    | whole => trivial
    | item hv =>
      cases hv with
      | whole => exact ⟨by decide, by decide⟩
      | variant hmem hv =>
        rcases List.mem_pair.mp hmem with rfl | rfl <;> cases hv <;> trivial
  · intro v hv
    change v.Inside (union [string, array integer]) at hv
    cases hv with
    | whole => exact ⟨by decide, by decide⟩
    | variant hmem hv =>
      rcases List.mem_pair.mp hmem with rfl | rfl
      · cases hv
        trivial
      · cases hv with
        | whole => trivial
        | item hv =>
          cases hv
          trivial

end DataType

end ApiOperations
