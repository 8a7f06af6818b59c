import Mathlib.Data.Nat.Digits.Defs
import ApiOperations.Proofs.DataType.References
import ApiOperations.Proofs.Response.Partition
import ApiOperations.Proofs.Text.Ascii
import ApiOperations.Proofs.Text.Trim

/-!
Keys of response tables.

A key is white space, then the spelling of a status, then white space again. The default is spelled by
its name in letters of either case, a hundred by a digit and two letters, and an exact code by any
number of digits, of which only the value counts. A reader of digits that has 16 bits and stops when a
number outgrows them finds the same codes, so a long number never passes for a short one. What spells
no status is reported as it stands, and what a status is displayed as spells it.
-/

namespace ApiOperations

open ApiOperations.Description (Document)

/-! ### Letters of either case -/

namespace Text

/-- The character is the given lower-case letter or its upper case. -/
def EitherCase (letter c : Char) : Prop :=
  c = letter ∨ c = letter.toUpper

variable {letter c : Char}

lemma toLower_eq_iff (h : letter.isLower = true) : c.toLower = letter ↔ EitherCase letter c := by
  have hlower := toLower_cases c
  have hupper := toUpper_cases letter
  rw [isLower_iff] at h
  rw [EitherCase, ← Char.toNat_inj, ← Char.toNat_inj, ← Char.toNat_inj]
  omega

lemma toUpper_eq_iff (h : letter.isLower = true) :
    c.toUpper = letter.toUpper ↔ EitherCase letter c := by
  have hletter : letter.toLower = letter := toLower_eq_self (isUpper_eq_false_of_isLower h)
  rw [← toLower_eq_iff h]
  constructor
  · intro hc
    rw [← toLower_toUpper, hc, toLower_toUpper, hletter]
  · rintro rfl
    rw [toUpper_toLower]

lemma toUpper_eq_x_iff : c.toUpper = 'X' ↔ EitherCase 'x' c := by
  have hx : 'x'.isLower = true := rfl
  exact toUpper_eq_iff hx

lemma sameIgnoringAsciiCase_iff {word cs : List Char} (h : ∀ l ∈ word, l.isLower = true) :
    sameIgnoringAsciiCase cs word = true ↔ List.Forall₂ EitherCase word cs := by
  rw [sameIgnoringAsciiCase, beq_iff_eq]
  induction word generalizing cs with
  | nil => simp
  | cons l word ih =>
    obtain ⟨hl, hword⟩ := List.forall_mem_cons.mp h
    rw [List.forall₂_cons_left_iff]
    cases cs with
    | nil => simp
    | cons c cs =>
      have hletter : l.toLower = l := toLower_eq_self (isUpper_eq_false_of_isLower hl)
      simp [hletter, toLower_eq_iff hl, ih hword]

lemma EitherCase.isAlphanum (hc : EitherCase letter c) (h : letter.isLower = true) :
    c.isAlphanum = true := by
  have hletter : letter.isAlphanum = true := isAlphanum_of_isLower h
  rcases hc with rfl | rfl
  · exact hletter
  · rw [isAlphanum_toUpper, hletter]

lemma isAlphanum_of_forall₂ {word cs : List Char} (hcs : List.Forall₂ EitherCase word cs)
    (h : ∀ l ∈ word, l.isLower = true) : ∀ c ∈ cs, c.isAlphanum = true := by
  induction hcs with
  | nil => exact List.forall_mem_nil _
  | cons hc _ ih =>
    obtain ⟨hl, hword⟩ := List.forall_mem_cons.mp h
    exact List.forall_mem_cons.mpr ⟨hc.isAlphanum hl, ih hword⟩

/-- No letter or digit of ASCII is white space. -/
lemma isBlank_of_isAlphanum (h : c.isAlphanum = true) : isBlank c = false := by
  have hrange : 48 ≤ c.toNat ∧ c.toNat ≤ 122 := by
    rw [isAlphanum_iff] at h
    omega
  unfold isBlank
  grind

end Text

namespace Status

open ApiOperations.Text

/-! ### Numbers -/

/-- The number that a digit spells. -/
def digit (c : Char) : Nat :=
  c.toNat - '0'.toNat

/-- The number that digits spell: the last one counts once, the one before it ten times, and so on. -/
def value (ds : List Char) : Nat :=
  Nat.ofDigits 10 (ds.reverse.map digit)

lemma value_append_singleton (ds : List Char) (c : Char) :
    value (ds ++ [c]) = 10 * value ds + digit c := by
  simp only [value, List.reverse_append, List.reverse_singleton, List.singleton_append,
    List.map_cons, Nat.ofDigits_cons]
  omega

lemma decimal_eq_value (ds : List Char) : decimal ds = value ds := by
  induction ds using List.reverseRecOn with
  | nil => rfl
  | append_singleton ds c ih =>
    rw [value_append_singleton, ← ih, decimal, List.foldl_append]
    rfl

lemma value_toDigits (n : Nat) : value (Nat.toDigits 10 n) = n := by
  rw [← decimal_eq_value]
  exact Nat.ofDigitChars_ten_toDigits

/-- A number of 16 bits with one more digit, unless it outgrows them. -/
def push? (n : UInt16) (c : Char) : Option UInt16 :=
  if 10 * n.toNat + digit c < UInt16.size then some (10 * n + UInt16.ofNat (digit c)) else none

/-- The number that digits spell, gathered from the left in 16 bits. -/
def word? (ds : List Char) : Option UInt16 :=
  ds.foldlM push? 0

/-- Digits are gathered without wrapping: once a number has outgrown the bits, no further digit makes
it smaller. -/
lemma word?_eq (ds : List Char) :
    word? ds = if value ds < UInt16.size then some (UInt16.ofNat (value ds)) else none := by
  induction ds using List.reverseRecOn with
  | nil => rfl
  | append_singleton ds c ih =>
    have hstep : word? (ds ++ [c]) = (word? ds).bind fun n => push? n c := by
      simp [word?, List.foldlM_append]
    have happend := value_append_singleton ds c
    rw [hstep, ih, happend]
    by_cases hfits : value ds < UInt16.size
    · have hnat : (UInt16.ofNat (value ds)).toNat = value ds := UInt16.toNat_ofNat_of_lt' hfits
      rw [if_pos hfits, Option.bind_some, push?, hnat, UInt16.ofNat_add, UInt16.ofNat_mul]
      rfl
    · have houtgrown : ¬10 * value ds + digit c < UInt16.size := by omega
      rw [if_neg hfits, if_neg houtgrown, Option.bind_none]

/-! ### Spellings -/

/-- The text spells the status. -/
inductive Spells : List Char → Status → Prop
  | code {ds : List Char} (hne : ds ≠ []) (hdigits : ∀ c ∈ ds, c.isDigit = true)
      (hlow : 100 ≤ value ds) (hhigh : value ds ≤ 599) : Spells ds (.code (value ds))
  | hundred {c x y : Char} (hlow : '1' ≤ c) (hhigh : c ≤ '5') (hx : EitherCase 'x' x)
      (hy : EitherCase 'x' y) : Spells [c, x, y] (.hundred (digit c))
  | default {cs : List Char} (h : List.Forall₂ EitherCase "default".toList cs) :
      Spells cs .default

variable {cs : List Char} {s : Status} {key : String}

lemma exactCode?_eq_some_iff :
    ofTrimmed?.exactCode? cs = some s ↔
      cs ≠ [] ∧ (∀ c ∈ cs, c.isDigit = true) ∧ 100 ≤ value cs ∧ value cs ≤ 599 ∧
        s = .code (value cs) := by
  unfold ofTrimmed?.exactCode?
  simp only [decimal_eq_value, List.all_eq_true]
  constructor
  · intro h
    split at h
    · rename_i hall
      cases h
      exact ⟨hall.1, hall.2.1, hall.2.2.1, hall.2.2.2, rfl⟩
    · cases h
  · rintro ⟨hne, hdigits, hlow, hhigh, rfl⟩
    exact if_pos ⟨hne, hdigits, hlow, hhigh⟩

lemma sameAsDefault_iff : sameIgnoringAsciiCase cs "default".toList = true ↔
    List.Forall₂ EitherCase "default".toList cs :=
  sameIgnoringAsciiCase_iff (List.all_eq_true.mp rfl)

lemma spells_of_ofTrimmed? (h : ofTrimmed? cs = some s) : Spells cs s := by
  have hexact : ofTrimmed?.exactCode? cs = some s → Spells cs s := by
    intro h
    obtain ⟨hne, hdigits, hlow, hhigh, rfl⟩ := exactCode?_eq_some_iff.mp h
    exact .code hne hdigits hlow hhigh
  unfold ofTrimmed? at h
  split at h
  · rename_i hdefault
    cases h
    exact .default (sameAsDefault_iff.mp hdefault)
  · split at h
    · rename_i c x y
      split at h
      · rename_i hxy
        split at h
        · rename_i hc
          cases h
          exact .hundred hc.1 hc.2 (toUpper_eq_x_iff.mp hxy.1) (toUpper_eq_x_iff.mp hxy.2)
        · cases h
      · exact hexact h
    · exact hexact h

/-- No letter is a digit, so digits spell neither the default nor a hundred. -/
lemma not_eitherCase_of_isDigit {letter c : Char} (hl : letter.isLower = true)
    (hc : c.isDigit = true) : ¬EitherCase letter c := by
  have hupper := toUpper_cases letter
  rw [isLower_iff] at hl
  rw [isDigit_iff] at hc
  rintro (rfl | rfl) <;> omega

lemma Spells.ofTrimmed?_eq (h : Spells cs s) : ofTrimmed? cs = some s := by
  unfold ofTrimmed?
  cases h with
  | default h => rw [if_pos (sameAsDefault_iff.mpr h)]
  | @hundred c x y hlow hhigh hx hy =>
    have hlength : ¬sameIgnoringAsciiCase [c, x, y] "default".toList = true := fun hsame => by
      have hlength := (sameAsDefault_iff.mp hsame).length_eq
      simp at hlength
    have hxy : x.toUpper = 'X' ∧ y.toUpper = 'X' :=
      ⟨toUpper_eq_x_iff.mpr hx, toUpper_eq_x_iff.mpr hy⟩
    rw [if_neg hlength]
    simp only [hxy, and_self, if_true, hlow, hhigh]
    rfl
  | code hne hdigits hlow hhigh =>
    have hexact : ofTrimmed?.exactCode? cs = some (.code (value cs)) :=
      exactCode?_eq_some_iff.mpr ⟨hne, hdigits, hlow, hhigh, rfl⟩
    have hdefault : ¬sameIgnoringAsciiCase cs "default".toList = true := by
      rw [sameAsDefault_iff]
      intro hsame
      obtain ⟨c, cs, hc, -, rfl⟩ := List.forall₂_cons_left_iff.mp hsame
      exact not_eitherCase_of_isDigit rfl (hdigits c List.mem_cons_self) hc
    rw [if_neg hdefault]
    split
    · rename_i c x y
      have hx : ¬x.toUpper = 'X' := fun hx =>
        not_eitherCase_of_isDigit rfl (hdigits x (by simp)) (toUpper_eq_x_iff.mp hx)
      rw [if_neg (fun h => hx h.1), hexact]
    · exact hexact

lemma ofKey?_eq_some_iff : ofKey? key = some s ↔ Spells (trim key.toList) s :=
  ⟨spells_of_ofTrimmed?, Spells.ofTrimmed?_eq⟩

/-- The codes are those that a reader of 16 bits finds. -/
lemma spells_code_iff {n : Nat} :
    Spells cs (.code n) ↔ cs ≠ [] ∧ (∀ c ∈ cs, c.isDigit = true) ∧
      ∃ w, word? cs = some w ∧ w.toNat = n ∧ 100 ≤ n ∧ n ≤ 599 := by
  rw [word?_eq]
  constructor
  · intro h
    cases h with
    | code hne hdigits hlow hhigh =>
      have hsize : UInt16.size = 65536 := rfl
      have hfits : value cs < UInt16.size := by omega
      exact ⟨hne, hdigits, _, if_pos hfits, UInt16.toNat_ofNat_of_lt' hfits, hlow, hhigh⟩
  · rintro ⟨hne, hdigits, w, hw, rfl, hlow, hhigh⟩
    split at hw
    · rename_i hfits
      cases hw
      rw [UInt16.toNat_ofNat_of_lt' hfits] at hlow hhigh ⊢
      exact .code hne hdigits hlow hhigh
    · cases hw

/-! ### Display -/

lemma eq_of_one_le_of_le_five {c : Char} (hlow : '1' ≤ c) (hhigh : c ≤ '5') :
    c = '1' ∨ c = '2' ∨ c = '3' ∨ c = '4' ∨ c = '5' := by
  have hlow : 49 ≤ c.toNat := UInt32.le_iff_toNat_le.mp hlow
  have hhigh : c.toNat ≤ 53 := UInt32.le_iff_toNat_le.mp hhigh
  have hcases : c.toNat = 49 ∨ c.toNat = 50 ∨ c.toNat = 51 ∨ c.toNat = 52 ∨ c.toNat = 53 := by omega
  rw [← Char.ofNat_toNat c]
  rcases hcases with h | h | h | h | h <;> rw [h] <;> decide

lemma Spells.isBlank_eq_false (h : Spells cs s) : ∀ c ∈ cs, isBlank c = false := by
  have hletters : ∀ c ∈ cs, c.isAlphanum = true := by
    cases h with
    | code hne hdigits hlow hhigh =>
      intro c hc
      exact isAlphanum_of_isDigit (hdigits c hc)
    | @hundred c x y hlow hhigh hx hy =>
      have hc : c.isDigit = true := by
        rcases eq_of_one_le_of_le_five hlow hhigh with rfl | rfl | rfl | rfl | rfl <;> rfl
      have hall : ∀ l ∈ [x, y], l.isAlphanum = true :=
        isAlphanum_of_forall₂ (.cons hx (.cons hy .nil)) (List.all_eq_true.mp rfl)
      exact List.forall_mem_cons.mpr ⟨isAlphanum_of_isDigit hc, hall⟩
    | default h => exact isAlphanum_of_forall₂ h (List.all_eq_true.mp rfl)
  exact fun c hc => isBlank_of_isAlphanum (hletters c hc)

/-- What spells a status is displayed in a form that spells it again. -/
lemma Spells.display (h : Spells cs s) : Spells s.display.toList s := by
  cases h with
  | code hne hdigits hlow hhigh =>
    have hvalue := value_toDigits (value cs)
    have hspells : Spells (Nat.toDigits 10 (value cs)) (.code (value (Nat.toDigits 10 (value cs)))) :=
      .code Nat.toDigits_ne_nil
        (fun c hc => Nat.isDigit_of_mem_toDigits (by decide) (by decide) hc)
        (by rwa [hvalue]) (by rwa [hvalue])
    rw [hvalue] at hspells
    rwa [Status.display, String.toList_ofList]
  | @hundred c x y hlow hhigh hx hy =>
    have htext : (Status.hundred (digit c)).display.toList = [c, 'X', 'X'] := by
      rcases eq_of_one_le_of_le_five hlow hhigh with rfl | rfl | rfl | rfl | rfl <;> rfl
    rw [htext]
    exact .hundred hlow hhigh (.inr rfl) (.inr rfl)
  | default h => exact .default (sameAsDefault_iff.mp rfl)

lemma ofKey?_display (h : ofKey? key = some s) {before after : String}
    (hbefore : isAllBlank before = true) (hafter : isAllBlank after = true) :
    ofKey? (before ++ s.display ++ after) = some s := by
  have hspells := (ofKey?_eq_some_iff.mp h).display
  have htrimmed : Trimmed s.display.toList := trimmed_of_forall hspells.isBlank_eq_false
  rw [ofKey?_eq_some_iff, String.toList_append, String.toList_append,
    htrimmed.trim_eq (isAllBlank_iff.mp hbefore) (isAllBlank_iff.mp hafter)]
  exact hspells

end Status

/-! ### Keys that spell no status -/

section Faults

variable (d : Document)

lemma Reference.resolve_ne_badStatus {α : Type} (wanted : Section)
    (definitions : Reference.Definitions α) (node : Node α) (k : String) :
    Reference.resolve wanted definitions node ≠ .error (.badStatus k) := by
  intro h
  cases Reference.resolve_eq_iff.mp h with
  | broken _ hbroken => cases hbroken

lemma Description.Document.schemaName_ne_badStatus (p k : String) :
    d.schemaName p ≠ .error (.badStatus k) := by
  unfold Description.Document.schemaName Section.entry
  rcases Pointer.parse? p with _ | ⟨s, name⟩
  · simp [bind, Except.bind]
  · by_cases hs : s = .schemas
    · by_cases hname : (d.schemaTable.lookup name).isSome = true
      · simp [hs, hname, bind, Except.bind, pure, Except.pure]
      · simp [hs, hname, bind, Except.bind, throw, throwThe, MonadExceptOf.throw]
    · simp [hs, bind, Except.bind]

lemma DataType.ofNode_ne_badStatus (node : Node Description.Schema) (k : String) :
    DataType.ofNode d node ≠ .error (.badStatus k) := by
  intro h
  obtain ⟨p, -, hp⟩ := DataType.exists_occurs_of_ofNode_eq_error h
  exact d.schemaName_ne_badStatus p k hp

namespace Responses

lemma contentType_ne_badStatus (r : Description.Response) (k : String) :
    contentType d r ≠ .error (.badStatus k) := by
  unfold contentType
  split
  · rw [Ne, Except.map_eq_error_iff]
    exact DataType.ofNode_ne_badStatus d _ k
  · split
    · simp
    · split
      · rw [Ne, Except.map_eq_error_iff]
        exact DataType.ofNode_ne_badStatus d _ k
      · simp

variable {d}

lemma ofEntry_eq_badStatus_iff {key k : String} {node : Node Description.Response} :
    ofEntry d key node = .error (.badStatus k) ↔ Status.ofKey? key = none ∧ k = key := by
  unfold ofEntry
  cases hkey : Status.ofKey? key with
  | none =>
    simp [bind, Except.bind, throw, throwThe, MonadExceptOf.throw, eq_comm]
  | some s =>
    simp only [reduceCtorEq, false_and, iff_false]
    intro h
    rcases Except.bind_eq_error_iff.mp h with ⟨⟨⟩⟩ | ⟨_, ⟨⟩, h⟩
    rcases Except.bind_eq_error_iff.mp h with h | ⟨r, hr, h⟩
    · exact Reference.resolve_ne_badStatus _ _ _ k h
    · rcases Except.bind_eq_error_iff.mp h with h | ⟨_, _, ⟨⟩⟩
      exact contentType_ne_badStatus d r k h

end Responses

end Faults

namespace Status

open ApiOperations.Text

/-- **Keys.** A key gives the status that it spells without the white space around it, and exact codes
are found in 16 bits. If it spells none, it is the fault of its entry just as it stands. What a status
found is displayed as gives that status again, whatever white space is put around it. -/
theorem keys_spell_statuses (key : String) :
    (∀ s, ofKey? key = some s ↔ Spells (trim key.toList) s) ∧
    (∀ n, ofKey? key = some (.code n) ↔
      trim key.toList ≠ [] ∧ (∀ c ∈ trim key.toList, c.isDigit = true) ∧
        ∃ w, word? (trim key.toList) = some w ∧ w.toNat = n ∧ 100 ≤ n ∧ n ≤ 599) ∧
    (∀ d node k, Responses.ofEntry d key node = .error (.badStatus k) ↔
      k = key ∧ ∀ s, ¬Spells (trim key.toList) s) ∧
    ∀ s, ofKey? key = some s → ∀ before after : String, isAllBlank before = true →
      isAllBlank after = true → ofKey? (before ++ s.display ++ after) = some s := by
  refine ⟨fun s => ofKey?_eq_some_iff, fun n => ?_, fun d node k => ?_,
    fun s hs before after hbefore hafter => ofKey?_display hs hbefore hafter⟩
  · rw [ofKey?_eq_some_iff, spells_code_iff]
  · have hnone : ofKey? key = none ↔ ∀ s, ¬Spells (trim key.toList) s := by
      simp only [← ofKey?_eq_some_iff]
      exact Option.eq_none_iff_forall_ne_some
    rw [Responses.ofEntry_eq_badStatus_iff, hnone, and_comm]

/-- The key of a code with many zeros, and one that is a code only in what 16 bits leave of it. -/
theorem keys_spell_statuses_of_padded :
    ofKey? "\t000000000404 " = some (.code 404) ∧ isAllBlank "\u00a0" = true ∧
    isAllBlank "\r\n" = true ∧ ofKey? ("\u00a0" ++ "404" ++ "\r\n") = some (.code 404) ∧
    ofKey? "65936 " = none ∧ (∀ s, ¬Spells (trim "65936 ".toList) s) ∧
    Responses.ofEntry Responses.catalog "65936 " (Responses.said "fine") =
      .error (.badStatus "65936 ") := by
  have hkey : ofKey? "\t000000000404 " = some (.code 404) := by decide +kernel
  have hnone : ofKey? "65936 " = none := by decide +kernel
  have hspells : ∀ s, ¬Spells (trim "65936 ".toList) s := fun s hs => by
    rw [((keys_spell_statuses "65936 ").1 s).mpr hs] at hnone
    cases hnone
  refine ⟨hkey, by decide +kernel, by decide +kernel, ?_, hnone, hspells, ?_⟩
  · exact (keys_spell_statuses _).2.2.2 _ hkey _ _ (by decide +kernel) (by decide +kernel)
  · exact ((keys_spell_statuses _).2.2.1 _ _ _).mpr ⟨rfl, hspells⟩

end Status

end ApiOperations
