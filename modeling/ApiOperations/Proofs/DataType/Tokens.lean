import Mathlib.Data.List.Chain
import ApiOperations.Proofs.DataType.Formed
import ApiOperations.Proofs.Name
import ApiOperations.Proofs.Text.Quoted

/-!
Labels as rows of tokens.

A label is put together from words, quoted texts and signs. A word is made of letters and numerals, no
sign starts with one, and between two words or texts there is always a sign. So a label can be taken
apart in one way only, and two types have the same label exactly if they have the same row of tokens.
-/

namespace ApiOperations.DataType

open ApiOperations.Text

inductive Sign where
  /-- The mark of an array, behind its items. -/
  | mark
  | opening
  | closing
  | bar
  | ampersand
  deriving DecidableEq

inductive Token where
  | word (cs : List Char)
  /-- A text in quotes. -/
  | literal (s : String)
  | sign (s : Sign)
  deriving DecidableEq

def Sign.chars : Sign → List Char
  | mark => "[]".toList
  | opening => "<".toList
  | closing => ">".toList
  | bar => " | ".toList
  | ampersand => " & ".toList

def Token.chars : Token → List Char
  | word cs => cs
  | literal s => quoted s.toList
  | sign s => s.chars

def Token.isSign : Token → Bool
  | sign _ => true
  | word _ | literal _ => false

/-! ### The tokens of a type -/

mutual

/-- The tokens of a label. A type without parts is one word, and so is an object. -/
def tokens : DataType → List Token
  | literal s => [.literal s]
  | array t => tokens t ++ [.sign .mark]
  | map t => .word "map".toList :: .sign .opening :: (tokens t ++ [.sign .closing])
  | union ts => joinTokens .bar ts
  | intersection ts => joinTokens .ampersand ts
  | t => [.word t.labelChars]

/-- The tokens of several types with a sign between them. -/
def joinTokens (separator : Sign) : List DataType → List Token
  | [] => []
  | [t] => tokens t
  | t :: u :: ts => tokens t ++ .sign separator :: joinTokens separator (u :: ts)

end

lemma labelChars_array (t : DataType) : (array t).labelChars = t.labelChars ++ "[]".toList :=
  rfl

lemma labelChars_map (t : DataType) :
    (map t).labelChars = "map<".toList ++ t.labelChars ++ ">".toList :=
  rfl

mutual

theorem labelChars_eq : ∀ t : DataType, t.labelChars = t.tokens.flatMap Token.chars
  | .array t => by
    rw [labelChars_array, tokens, List.flatMap_append, labelChars_eq t, List.flatMap_singleton]
    rfl
  | .map t => by
    rw [labelChars_map, tokens, List.flatMap_cons, List.flatMap_cons, List.flatMap_append,
      labelChars_eq t, List.flatMap_singleton, List.append_assoc]
    rfl
  | .union ts => joinLabels_eq .bar ts
  | .intersection ts => joinLabels_eq .ampersand ts
  | .literal s => (List.append_nil _).symm
  | .object _ | .ref _ | .string | .number | .integer | .boolean | .null | .any | .void | .dateTime
  | .binary => (List.append_nil _).symm

theorem joinLabels_eq (separator : Sign) :
    ∀ ts : List DataType, joinLabels separator.chars ts =
      (joinTokens separator ts).flatMap Token.chars
  | [] => rfl
  | [t] => labelChars_eq t
  | t :: u :: ts => by
    simp [joinLabels, joinTokens, labelChars_eq t, joinLabels_eq separator (u :: ts), Token.chars]

end

/-! ### Reading tokens -/

variable {x y : Token} {xs ys : List Token} {rest rest' : List Char}

/-- A word is not empty and has only characters of words. -/
def Token.Proper : Token → Prop
  | word cs => cs ≠ [] ∧ ∀ c ∈ cs, Unmarked c
  | literal _ | sign _ => True

lemma proper_word {cs : List Char} (hne : cs ≠ []) (h : cs.all Char.isAlphanum = true) :
    (Token.word cs).Proper :=
  ⟨hne, fun c hc _ => List.all_eq_true.mp h c hc⟩

lemma Sign.exists_chars_eq (s : Sign) : ∃ c cs, s.chars = c :: cs ∧ ¬Unmarked c ∧ c ≠ '"' := by
  cases s <;> exact ⟨_, _, rfl, by decide, by decide⟩

lemma Sign.append_inj {s s' : Sign} (h : s.chars ++ rest = s'.chars ++ rest') :
    s = s' ∧ rest = rest' := by
  cases s <;> cases s' <;> simp_all [chars]

namespace Token

/-- The first character tells what kind of token it starts. -/
lemma Proper.exists_chars_eq (h : x.Proper) : ∃ c cs, x.chars = c :: cs ∧
    (Unmarked c ↔ ∃ w, x = word w) ∧ (c = '"' ↔ ∃ s, x = literal s) := by
  cases x with
  | word w =>
    obtain ⟨c, cs, rfl⟩ := List.exists_cons_of_ne_nil h.1
    have hc : Unmarked c := h.2 c List.mem_cons_self
    refine ⟨c, cs, rfl, by simp [hc], ?_⟩
    rw [iff_false_right (by simp)]
    rintro rfl
    exact absurd hc (by decide)
  | literal s => exact ⟨'"', _, rfl, by simp; decide, by simp⟩
  | sign s =>
    obtain ⟨c, cs, hchars, hmark, hquote⟩ := s.exists_chars_eq
    exact ⟨c, cs, hchars, by simp [hmark], by simp [hquote]⟩

/-- Nothing that can be read as a word stands at the start of the text. -/
def Ends (rest : List Char) : Prop :=
  ∀ c ∈ rest.head?, ¬Unmarked c

/-- A token can be told from what stands behind it, if that does not go on with the word. -/
lemma Proper.append_inj (hx : x.Proper) (hy : y.Proper) (hrest : (∃ w, x = word w) → Ends rest)
    (hrest' : (∃ w, y = word w) → Ends rest') (h : x.chars ++ rest = y.chars ++ rest') :
    x = y ∧ rest = rest' := by
  obtain ⟨c, cs, hchars, hword, hliteral⟩ := hx.exists_chars_eq
  obtain ⟨c', cs', hchars', hword', hliteral'⟩ := hy.exists_chars_eq
  have hfirst : c = c' := by
    rw [hchars, hchars'] at h
    exact (List.cons.inj h).1
  subst hfirst
  -- both tokens are of the kind that the character tells
  cases x with
  | word w =>
    obtain ⟨w', rfl⟩ := hword'.mp (hword.mpr ⟨w, rfl⟩)
    have hends : ∀ r : List Char, Ends r → ∀ c ∈ r.head?, decide (Unmarked c) = false :=
      fun r hr c hc => decide_eq_false (hr c hc)
    obtain ⟨rfl, hrest⟩ := List.append_inj_of_head (p := fun c => decide (Unmarked c))
      (fun c hc => decide_eq_true (hx.2 c hc)) (fun c hc => decide_eq_true (hy.2 c hc))
      (hends rest (hrest ⟨w, rfl⟩)) (hends rest' (hrest' ⟨w', rfl⟩)) h
    exact ⟨rfl, hrest⟩
  | literal s =>
    obtain ⟨s', rfl⟩ := hliteral'.mp (hliteral.mpr ⟨s, rfl⟩)
    obtain ⟨htext, hrest⟩ := quoted_append_inj h
    rw [String.toList_inj.mp htext]
    exact ⟨rfl, hrest⟩
  | sign s =>
    cases y with
    | word w => exact absurd (hword.mp (hword'.mpr ⟨w, rfl⟩)) (by simp)
    | literal s' => exact absurd (hliteral.mp (hliteral'.mpr ⟨s', rfl⟩)) (by simp)
    | sign s' =>
      obtain ⟨rfl, hrest⟩ := Sign.append_inj h
      exact ⟨rfl, hrest⟩

end Token

/-- The tokens are proper, and of two in a row one is a sign. -/
structure Written (xs : List Token) : Prop where
  proper : ∀ x ∈ xs, x.Proper
  apart : xs.IsChain fun x y => x.isSign ∨ y.isSign

namespace Written

lemma tail (h : Written (x :: xs)) : Written xs :=
  ⟨fun y hy => h.proper y (List.mem_cons_of_mem x hy), h.apart.tail⟩

/-- A word ends where the next token starts. -/
lemma ends (h : Written (x :: xs)) (hx : ∃ w, x = .word w) :
    Token.Ends (xs.flatMap Token.chars) := by
  obtain ⟨w, rfl⟩ := hx
  cases xs with
  | nil => exact fun c hc => by cases hc
  | cons y ys =>
    have hy : y.isSign = true := by simpa [Token.isSign] using (List.isChain_cons_cons.mp h.apart).1
    cases y with
    | word _ | literal _ => cases hy
    | sign s =>
      obtain ⟨c, cs, hchars, hmark, -⟩ := s.exists_chars_eq
      rw [List.flatMap_cons, Token.chars, hchars]
      rintro d ⟨⟩
      exact hmark

/-- Tokens are read back from their characters. -/
lemma eq_of_chars_eq (hxs : Written xs) (hys : Written ys)
    (h : xs.flatMap Token.chars = ys.flatMap Token.chars) : xs = ys := by
  have hnil : ∀ {z : Token} {zs : List Token}, Written (z :: zs) →
      (z :: zs).flatMap Token.chars ≠ [] := by
    intro z zs hz
    obtain ⟨c, cs, hchars, -⟩ := (hz.proper z List.mem_cons_self).exists_chars_eq
    rw [List.flatMap_cons, hchars]
    exact List.cons_ne_nil _ _
  induction xs generalizing ys with
  | nil =>
    cases ys with
    | nil => rfl
    | cons y ys => exact absurd h.symm (hnil hys)
  | cons x xs ih =>
    cases ys with
    | nil => exact absurd h (hnil hxs)
    | cons y ys =>
      rw [List.flatMap_cons, List.flatMap_cons] at h
      obtain ⟨rfl, htail⟩ := (hxs.proper x List.mem_cons_self).append_inj
        (hys.proper y List.mem_cons_self) hxs.ends hys.ends h
      rw [ih hxs.tail hys.tail htail]

lemma singleton (h : x.Proper) : Written [x] :=
  ⟨List.forall_mem_singleton.mpr h, List.isChain_singleton x⟩

/-- A sign keeps apart what stands on its two sides. -/
lemma append_sign (hxs : Written xs) (s : Sign) (hys : Written ys) :
    Written (xs ++ .sign s :: ys) := by
  refine ⟨?_, ?_⟩
  · intro x hx
    rcases List.mem_append.mp hx with hx | hx
    · exact hxs.proper x hx
    · rcases List.mem_cons.mp hx with rfl | hx
      · trivial
      · exact hys.proper x hx
  · rw [List.isChain_append, List.isChain_cons]
    refine ⟨hxs.apart, ⟨fun _ _ => .inl rfl, hys.apart⟩, ?_⟩
    rintro x - y ⟨⟩
    exact .inr rfl

lemma nil : Written [] :=
  ⟨fun _ h => absurd h List.not_mem_nil, .nil⟩

lemma joinTokens {separator : Sign} {ts : List DataType} (h : ∀ t ∈ ts, Written t.tokens) :
    Written (joinTokens separator ts) := by
  induction ts with
  | nil => exact .nil
  | cons t ts ih =>
    obtain ⟨ht, hts⟩ := List.forall_mem_cons.mp h
    cases ts with
    | nil => exact ht
    | cons u ts => exact ht.append_sign separator (ih hts)

end Written

/-! ### Labels of formed types -/

/-- The text is the name that the model gives to a schema. -/
def IsSchemaName (n : String) : Prop :=
  ∃ s, n = (Name.ofString s).pascal

lemma IsSchemaName.proper {n : String} (h : IsSchemaName n) : (Token.word n.toList).Proper := by
  obtain ⟨s, rfl⟩ := h
  exact ⟨fun hnil => Name.pascal_ne_empty s (String.toList_eq_nil_iff.mp hnil),
    Name.unmarked_of_mem_pascal⟩

lemma Formed.written {t : DataType} (h : t.Formed IsSchemaName) : Written t.tokens := by
  induction h with
  | @leaf t ht =>
    cases t with
    | literal s => exact .singleton trivial
    | string | number | integer | boolean | null | any | dateTime | binary =>
      exact .singleton (proper_word (by decide) (by decide))
    | array _ | object _ | map _ | ref _ | union _ | intersection _ | void => cases ht
  | array _ ih => exact ih.append_sign .mark .nil
  | map _ ih =>
    have hmap : Written [.word "map".toList] := .singleton (proper_word (by decide) (by decide))
    exact hmap.append_sign .opening (ih.append_sign .closing .nil)
  | object _ _ _ =>
    have hobject : Written [.word "object".toList] := .singleton (proper_word (by decide) (by decide))
    exact hobject
  | ref hn => exact .singleton hn.proper
  | union _ _ ih => exact .joinTokens ih
  | intersection _ _ ih => exact .joinTokens ih

/-- Labels show the tokens that they are made of. -/
lemma Formed.tokens_eq_iff {t u : DataType} (ht : t.Formed IsSchemaName) (hu : u.Formed IsSchemaName) :
    t.tokens = u.tokens ↔ t.label = u.label := by
  rw [label, label, String.ofList_inj, labelChars_eq, labelChars_eq]
  exact ⟨congrArg _, ht.written.eq_of_chars_eq hu.written⟩

end ApiOperations.DataType
