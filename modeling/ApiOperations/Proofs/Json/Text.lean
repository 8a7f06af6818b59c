import ApiOperations.Proofs.Tree.Spelling

/-!
Compact JSON texts are read back. The text of a value whose numbers are integers is read as the tree
of that value: each string by its characters, each integer by its digits, each array and object by
its parts.
-/

namespace ApiOperations.Json

open ApiOperations.Tree (spell spellMember spell_array spell_object)

/-! ### Strings -/

lemma hexValue?_digitChar : ∀ d < 16, hexValue? (Nat.digitChar d) = some d := by
  decide

lemma readPieces_unit {a b c d : Char} {n : Nat} (h : fourHex? a b c d = some n)
    (rest : List Char) : readPieces ('\\' :: 'u' :: a :: b :: c :: d :: rest) =
      (readPieces rest).map fun r => (.unit n :: r.1, r.2) := by
  rw [readPieces, h]
  cases readPieces rest <;> rfl

lemma readPieces_escape {e c : Char} (he : e ≠ 'u') (h : escaped? e = some c) (rest : List Char) :
    readPieces ('\\' :: e :: rest) = (readPieces rest).map fun r => (.char c :: r.1, r.2) := by
  rw [readPieces, h]
  · cases readPieces rest <;> rfl
  · intro a b c d cs hu _
    exact he hu

lemma readPieces_char {c : Char} (hquote : c ≠ '"') (hslash : c ≠ '\\') (hc : ¬ c.toNat < 0x20)
    (rest : List Char) :
    readPieces (c :: rest) = (readPieces rest).map fun r => (.char c :: r.1, r.2) := by
  rw [readPieces, if_neg (not_or.mpr ⟨hslash, hc⟩)]
  · exact hquote
  · intro a b c' d cs h
    exact absurd h hslash
  · intro e cs h
    exact absurd h hslash

lemma assemble_unit {n : Nat} (h : n < 0xD800) (ps : List Piece) :
    assemble (.unit n :: ps) = (assemble ps).map (Char.ofNat n :: ·) := by
  have hhigh : isHighSurrogate n = false := by
    simp only [isHighSurrogate, Bool.and_eq_false_iff, decide_eq_false_iff_not]
    omega
  have hlow : isLowSurrogate n = false := by
    simp only [isLowSurrogate, Bool.and_eq_false_iff, decide_eq_false_iff_not]
    omega
  rw [assemble.eq_def]
  simp only [hhigh, hlow, Bool.false_eq_true, if_false]

/-- The characters that stand for one character are read as one piece, and it spells that
character. -/
lemma exists_piece (c : Char) : ∃ p : Piece,
    (∀ rest, readPieces (stringChar c ++ rest) = (readPieces rest).map fun r => (p :: r.1, r.2)) ∧
      ∀ ps, assemble (p :: ps) = (assemble ps).map (c :: ·) := by
  unfold stringChar
  split
  case h_8 hquote hslash _ _ _ _ _ =>
    split_ifs with hc
    · -- A control character without a letter of its own is read as a code unit.
      have hhex : fourHex? '0' '0' (Nat.digitChar (c.toNat / 16)) (Nat.digitChar (c.toNat % 16)) =
          some c.toNat := by
        rw [fourHex?, hexValue?_digitChar _ (by omega), hexValue?_digitChar _ (by omega)]
        exact congrArg some (by omega)
      refine ⟨.unit c.toNat, fun rest => readPieces_unit hhex rest, fun ps => ?_⟩
      rw [assemble_unit (by omega), Char.ofNat_toNat]
    · exact ⟨.char c, fun rest => readPieces_char hquote hslash hc rest, fun ps => rfl⟩
  all_goals
    exact ⟨.char _, fun rest => readPieces_escape (by decide) rfl rest, fun ps => rfl⟩

lemma exists_readPieces (cs rest : List Char) : ∃ ps,
    readPieces (cs.flatMap stringChar ++ '"' :: rest) = some (ps, rest) ∧ assemble ps = some cs := by
  induction cs with
  | nil => exact ⟨[], rfl, rfl⟩
  | cons c cs ih =>
    obtain ⟨ps, hps, hcs⟩ := ih
    obtain ⟨p, hp, hc⟩ := exists_piece c
    refine ⟨p :: ps, ?_, ?_⟩
    · rw [List.flatMap_cons, List.append_assoc, hp, hps]
      rfl
    · rw [hc, hcs]
      rfl

/-- **Strings are read as they are written.** -/
lemma readString_writeString (s : String) (rest : List Char) :
    readString (s.toList.flatMap stringChar ++ '"' :: rest) = some (some s, rest) := by
  obtain ⟨ps, hps, hs⟩ := exists_readPieces s.toList rest
  rw [readString, hps, Option.map_some, hs, Option.map_some, String.ofList_toList]

/-! ### Values -/

lemma skipBlanks_cons {c : Char} (hc : isBlank c = false) (cs : List Char) :
    skipBlanks (c :: cs) = c :: cs :=
  List.dropWhile_cons_of_neg (by simp [hc])

lemma ne_of_isDigit {c d : Char} (hc : c.isDigit) (hd : d.isDigit = false) : c ≠ d := by
  rintro rfl
  simp [hd] at hc

lemma isBlank_digit {c : Char} (hc : c.isDigit) : isBlank c = false := by
  simp [isBlank, ne_of_isDigit hc]

lemma readValue_digit {c : Char} (hc : c.isDigit) (fuel : Nat) (cs : List Char) :
    readValue (fuel + 1) (c :: cs) =
      (readNumeral false (c :: cs)).map fun r => (.leaf (.number r.1), r.2) := by
  rw [readValue, skipBlanks_cons (isBlank_digit hc)]
  split
  all_goals first
    | rfl
    | exact absurd (List.cons.inj ‹_›).1 (ne_of_isDigit hc rfl)

lemma exists_toDigits_eq (m : Nat) : ∃ c cs, Nat.toDigits 10 m = c :: cs ∧ c.isDigit := by
  obtain ⟨c, cs, hcs⟩ := List.exists_cons_of_ne_nil (Nat.toDigits_ne_nil (n := m) (b := 10))
  have hmem : c ∈ Nat.toDigits 10 m := hcs ▸ List.mem_cons_self
  exact ⟨c, cs, hcs, Nat.isDigit_of_mem_toDigits (by decide) (by decide) hmem⟩

/-- The compact form of the value is read as its tree, in any text that does not go on like a
numeral. The reader takes one step for a value, and two for each item or member, which has at least
one character and a comma or bracket after it. -/
def ReadsBack (v : Value) : Prop :=
  ∀ fuel rest, (compact v).length ≤ fuel → EndsNumeral rest →
    readValue (fuel + 1) (compact v ++ rest) = some (spell v, rest)

lemma readsBack_string (s : String) : ReadsBack (.string s) := by
  intro fuel rest _ _
  rw [compact, writeString, List.cons_append, List.append_assoc]
  change (readString (_ ++ '"' :: rest)).map _ = _
  rw [readString_writeString]
  rfl

lemma readsBack_int (n : Int) : ReadsBack (.number (.int n)) := by
  intro fuel rest _ hrest
  rw [compact, writeNumber, writeInt]
  by_cases hn : n < 0
  · rw [if_pos hn, List.cons_append]
    change (readNumeral true _).map _ = _
    rw [readNumeral_toDigits true _ hrest]
    simp [spell, Spelling.int, Numeral.ofInt, hn]
  · obtain ⟨c, cs, hcs, hc⟩ := exists_toDigits_eq n.natAbs
    have hread := readNumeral_toDigits false n.natAbs hrest
    rw [if_neg hn, hcs, List.cons_append, readValue_digit hc, ← List.cons_append, ← hcs, hread]
    simp [spell, Spelling.int, Numeral.ofInt, hn]

/-- An integral value starts with a character that is no blank and does not end an array. -/
lemma exists_compact_eq {v : Value} (hv : v.Integral) :
    ∃ c cs, compact v = c :: cs ∧ isBlank c = false ∧ c ≠ ']' := by
  cases v with
  | null => exact ⟨_, _, rfl, by decide⟩
  | bool b => cases b <;> exact ⟨_, _, rfl, by decide⟩
  | string s => exact ⟨_, _, rfl, by decide⟩
  | array items => exact ⟨_, _, rfl, by decide⟩
  | object members => exact ⟨_, _, rfl, by decide⟩
  | number n =>
    cases n with
    | float x => exact (Value.integral_number.mp hv).elim
    | int n =>
      rw [compact, writeNumber, writeInt]
      by_cases hn : n < 0
      · rw [if_pos hn]
        exact ⟨_, _, rfl, by decide⟩
      · obtain ⟨c, cs, hcs, hc⟩ := exists_toDigits_eq n.natAbs
        rw [if_neg hn]
        exact ⟨c, cs, hcs, isBlank_digit hc, ne_of_isDigit hc rfl⟩

lemma endsNumeral_cons {c : Char} (cs : List Char)
    (hc : c.isDigit = false ∧ c ≠ '.' ∧ c ≠ 'e' ∧ c ≠ 'E') : EndsNumeral (c :: cs) := by
  intro d hd
  obtain rfl : c = d := Option.some.inj hd
  exact hc

lemma readItems_compactItems {vs : List Value} (hne : vs ≠ []) (h : ∀ v ∈ vs, ReadsBack v) :
    ∀ fuel rest, (compactItems vs).length < fuel →
      readItems (fuel + 1) (compactItems vs ++ ']' :: rest) = some (vs.map spell, rest) := by
  induction vs with
  | nil => exact absurd rfl hne
  | cons v vs ih =>
    obtain ⟨hv, hvs⟩ := List.forall_mem_cons.mp h
    intro fuel rest hfuel
    obtain ⟨fuel, rfl⟩ := Nat.exists_eq_add_of_lt (Nat.zero_lt_of_lt hfuel)
    rw [Nat.zero_add] at hfuel ⊢
    cases vs with
    | nil =>
      have hread := hv fuel (']' :: rest) (Nat.le_of_lt_succ hfuel) (endsNumeral_cons _ (by decide))
      rw [compactItems, readItems, hread]
      rfl
    | cons w ws =>
      rw [compactItems, List.length_append, List.length_cons] at hfuel
      have hread := hv fuel (',' :: (compactItems (w :: ws) ++ ']' :: rest)) (by omega)
        (endsNumeral_cons _ (by decide))
      rw [compactItems, List.append_assoc, List.cons_append, readItems, hread]
      change (readItems (fuel + 1) _).bind _ = _
      rw [ih (List.cons_ne_nil w ws) hvs fuel rest (by omega)]
      rfl

/-- A list that is not empty starts like its first item. -/
lemma readValue_compactItems {v : Value} {vs : List Value} (hv : v.Integral) (fuel : Nat)
    (rest : List Char) :
    readValue (fuel + 1) ('[' :: (compactItems (v :: vs) ++ rest)) =
      (readItems fuel (compactItems (v :: vs) ++ rest)).map fun r => (.list r.1, r.2) := by
  obtain ⟨c, cs, hcs, hblank, hc⟩ := exists_compact_eq hv
  obtain ⟨tail, htail⟩ : ∃ tail, compactItems (v :: vs) = c :: tail := by
    cases vs with
    | nil => exact ⟨cs, by rw [compactItems, hcs]⟩
    | cons w ws => exact ⟨_, by rw [compactItems, hcs, List.cons_append]⟩
  rw [htail, List.cons_append, readValue, skipBlanks_cons (by decide)]
  split
  case h_2 heq =>
    obtain ⟨-, rfl⟩ := List.cons.inj heq
    rw [skipBlanks_cons hblank]
    split
    · exact absurd (List.cons.inj ‹_›).1 hc
    · rfl
  case h_8 hother _ _ _ _ _ => exact (hother _ rfl).elim
  all_goals exact absurd (List.cons.inj ‹_›).1 (by decide)

/-- A member starts with its key, and what its value ends with says whether there is another one. -/
lemma exists_readMembers_eq (key : String) (fuel : Nat) :
    ∃ after : Tree Leaf × List Char → Option (List (Tree Leaf × Tree Leaf) × List Char),
      (∀ cs, readMembers (fuel + 1) (writeString key ++ ':' :: cs) = (readValue fuel cs).bind after) ∧
        (∀ t cs, after (t, '}' :: cs) = some ([(.leaf (.string (some key)), t)], cs)) ∧
          ∀ t cs, after (t, ',' :: cs) =
            (readMembers fuel cs).bind fun r => some ((.leaf (.string (some key)), t) :: r.1, r.2) := by
  refine ⟨?after, fun cs => ?reads, ?last, ?more⟩
  case reads =>
    rw [writeString, List.cons_append, List.append_assoc]
    change (readString (_ ++ '"' :: ':' :: cs)).bind _ = _
    rw [readString_writeString]
    rfl
  case last => exact fun _ _ => rfl
  case more => exact fun _ _ => rfl

lemma readMembers_compactMembers {ms : List (String × Value)} (hne : ms ≠ [])
    (h : ∀ m ∈ ms, ReadsBack m.2) : ∀ fuel rest, (compactMembers ms).length < fuel →
      readMembers (fuel + 1) (compactMembers ms ++ '}' :: rest) =
        some (ms.map spellMember, rest) := by
  induction ms with
  | nil => exact absurd rfl hne
  | cons m ms ih =>
    obtain ⟨k, v⟩ := m
    obtain ⟨hv, hms⟩ : ReadsBack v ∧ ∀ m ∈ ms, ReadsBack m.2 := List.forall_mem_cons.mp h
    intro fuel rest hfuel
    obtain ⟨fuel, rfl⟩ := Nat.exists_eq_add_of_lt (Nat.zero_lt_of_lt hfuel)
    rw [Nat.zero_add] at hfuel ⊢
    obtain ⟨after, hkey, hlast, hmore⟩ := exists_readMembers_eq k (fuel + 1)
    cases ms with
    | nil =>
      rw [compactMembers, List.length_append, List.length_cons] at hfuel
      have hread := hv fuel ('}' :: rest) (by omega) (endsNumeral_cons _ (by decide))
      rw [compactMembers, List.append_assoc, List.cons_append, hkey, hread]
      exact hlast (spell v) rest
    | cons m' ms =>
      simp only [compactMembers, List.length_append, List.length_cons] at hfuel
      have hread := hv fuel (',' :: (compactMembers (m' :: ms) ++ '}' :: rest)) (by omega)
        (endsNumeral_cons _ (by decide))
      rw [compactMembers, List.append_assoc, List.cons_append, List.append_assoc, List.cons_append,
        hkey, hread, Option.bind_some, hmore,
        ih (List.cons_ne_nil m' ms) hms fuel rest (by omega)]
      rfl

lemma readsBack_array {items : List Value} (hi : ∀ v ∈ items, v.Integral)
    (h : ∀ v ∈ items, ReadsBack v) : ReadsBack (.array items) := by
  intro fuel rest hfuel _
  rw [compact, List.length_cons, List.length_append, List.length_singleton] at hfuel
  obtain ⟨fuel, rfl⟩ := Nat.exists_eq_add_of_lt (Nat.zero_lt_of_lt hfuel)
  rw [compact, spell_array, List.cons_append, List.append_assoc, List.singleton_append]
  cases items with
  | nil => rfl
  | cons v vs =>
    rw [readValue_compactItems (hi v List.mem_cons_self), Nat.zero_add,
      readItems_compactItems (List.cons_ne_nil v vs) h fuel rest (by omega)]
    rfl

lemma readsBack_object {members : List (String × Value)} (h : ∀ m ∈ members, ReadsBack m.2) :
    ReadsBack (.object members) := by
  intro fuel rest hfuel _
  rw [compact, List.length_cons, List.length_append, List.length_singleton] at hfuel
  obtain ⟨fuel, rfl⟩ := Nat.exists_eq_add_of_lt (Nat.zero_lt_of_lt hfuel)
  rw [compact, spell_object, List.cons_append, List.append_assoc, List.singleton_append]
  cases members with
  | nil => rfl
  | cons m ms =>
    have hopen : readValue (fuel + 1 + 1) ('{' :: (compactMembers (m :: ms) ++ '}' :: rest)) =
        (readMembers (fuel + 1) (compactMembers (m :: ms) ++ '}' :: rest)).map fun r =>
          (.record r.1, r.2) := by
      obtain ⟨tail, htail⟩ : ∃ tail, compactMembers (m :: ms) = '"' :: tail := by
        cases ms <;> exact ⟨_, rfl⟩
      rw [htail]
      rfl
    rw [Nat.zero_add, hopen,
      readMembers_compactMembers (List.cons_ne_nil m ms) h fuel rest (by omega)]
    rfl

lemma readsBack {v : Value} (hv : v.Integral) : ReadsBack v := by
  induction v using Value.induction with
  | null => exact fun _ _ _ _ => rfl
  | bool b => cases b <;> exact fun _ _ _ _ => rfl
  | string s => exact readsBack_string s
  | number n =>
    cases n with
    | int n => exact readsBack_int n
    | float x => exact (Value.integral_number.mp hv).elim
  | array items ih =>
    rw [Value.integral_array] at hv
    exact readsBack_array hv fun v hmem => ih v hmem (hv v hmem)
  | object members ih =>
    rw [Value.integral_object] at hv
    exact readsBack_object fun m hmem => ih m hmem (hv m hmem)

/-- **Compact texts are read back.** -/
theorem read_toCompact {v : Value} (hv : v.Integral) : read v.toCompact = some (spell v) := by
  have hread := readsBack hv (2 * (compact v).length + 1) [] (by omega) (by simp [EndsNumeral])
  rw [List.append_nil] at hread
  rw [read, Value.toCompact, String.toList_ofList, hread]
  rfl

end ApiOperations.Json
