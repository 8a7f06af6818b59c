import Mathlib.Data.List.Basic
import ApiOperations.Proofs.Text.Spelling

/-!
What the tables of letter case have to do with one another. No character is both lower and upper case,
upper-case letters are their own upper case, and an image that starts with its own character is that
character. Capital letters are letters or numerals like those they come from. The tables are compared
run by run, never character by character.
-/

namespace ApiOperations.Text

/-! ### Runs -/

namespace Run

variable {r s : Run} {rs ss : List Run} {n : Nat}

/-- All members are even or all are odd. -/
def alternates (r : Run) : Bool :=
  r.step == 2 || r.first == r.last

/-- Runs that share no member: one ends before the other begins, or their members alternate. -/
def apart (r s : Run) : Bool :=
  r.last.blt s.first || s.last.blt r.first ||
    (r.alternates && s.alternates && r.first % 2 != s.first % 2)

lemma le_of_contains (h : r.contains n = true) : r.first ≤ n ∧ n ≤ r.last := by
  simp only [contains, Bool.and_eq_true, decide_eq_true_eq] at h
  exact h.1

lemma mod_two_eq (hr : r.alternates = true) (h : r.contains n = true) : n % 2 = r.first % 2 := by
  have hbounds := le_of_contains h
  simp only [contains, Bool.and_eq_true, beq_iff_eq] at h
  simp only [alternates, Bool.or_eq_true, beq_iff_eq] at hr
  rcases hr with hstep | hsingle
  · rw [hstep] at h
    omega
  · omega

lemma contains_eq_false_of_apart (hapart : r.apart s = true) (h : r.contains n = true) :
    s.contains n = false := by
  by_contra hboth
  rw [Bool.not_eq_false] at hboth
  have hr_bounds := le_of_contains h
  have hs_bounds := le_of_contains hboth
  simp only [apart, Bool.or_eq_true, Bool.and_eq_true, Nat.blt_eq, bne_iff_ne] at hapart
  rcases hapart with (hbefore | hbehind) | ⟨⟨hr, hs⟩, hparity⟩
  · omega
  · omega
  · have hn := mod_two_eq hr h
    have hn' := mod_two_eq hs hboth
    omega

lemma any_contains_eq_false (hapart : (rs.all fun r => ss.all r.apart) = true)
    (h : rs.any (·.contains n) = true) : ss.any (·.contains n) = false := by
  obtain ⟨r, hr, hn⟩ := List.any_eq_true.mp h
  rw [List.any_eq_false]
  intro s hs
  have hrs := List.all_eq_true.mp (List.all_eq_true.mp hapart r hr) s hs
  rw [contains_eq_false_of_apart hrs hn]
  exact Bool.false_ne_true

end Run

/-! ### Lower and upper case -/

variable {c d : Char}

lemma isLowercase_eq_false (h : isUppercase c = true) : isLowercase c = false := by
  unfold isUppercase at h
  unfold isLowercase
  split at h
  · rename_i hc
    rw [if_pos hc]
    exact isLower_eq_false_of_isUpper h
  · rename_i hc
    rw [if_neg hc]
    exact Run.any_contains_eq_false (by decide +kernel) h

lemma isUppercase_eq_false (h : isLowercase c = true) : isUppercase c = false := by
  by_contra hupper
  rw [Bool.not_eq_false] at hupper
  rw [isLowercase_eq_false hupper] at h
  exact Bool.false_ne_true h

lemma toUppercase_of_isUppercase (h : isUppercase c = true) : toUppercase c = [c] := by
  unfold isUppercase at h
  unfold toUppercase
  split at h
  · rename_i hc
    rw [if_pos hc, toUpper_eq_self (isLower_eq_false_of_isUpper h)]
  · rename_i hc
    have hshifts : (Table.toUpper.map (·.run)).any (·.contains c.toNat) = false :=
      Run.any_contains_eq_false (by decide +kernel) h
    have hexceptions :
        (Table.toUpperMany.map fun e => Run.mk e.1 e.1 1).any (·.contains c.toNat) = false :=
      Run.any_contains_eq_false (by decide +kernel) h
    have hshift : Table.toUpper.find? (·.run.contains c.toNat) = none := by
      rw [List.any_map, List.any_eq_false] at hshifts
      exact List.find?_eq_none.mpr hshifts
    have hmany : Table.toUpperMany.lookup c.toNat = none := by
      rw [List.any_map, List.any_eq_false] at hexceptions
      rw [List.lookup_eq_none_iff]
      intro e he
      rw [bne_iff_ne]
      intro heq
      exact hexceptions e he (by simp [Run.contains, heq])
    simp only [if_neg hc, mapped, shiftBy, hshift, hmany, Option.map_none]

/-! ### The first character of an image -/

/-- In a map where no exception starts with its own letter, only the character itself does. -/
lemma mapped_eq_of_head {shifts : List Shift} {exceptions : List (Nat × List Nat)}
    (he : ∀ e ∈ exceptions, ∀ n ∈ e.2.head?, (Char.ofNat n).toNat ≠ e.1)
    (h : c ∈ (mapped shifts exceptions c).head?) : mapped shifts exceptions c = [c] := by
  unfold mapped at h ⊢
  split at h
  · rw [List.head?_cons, Option.mem_some_iff] at h
    rw [h]
  · split at h
    · rename_i ns hns
      obtain ⟨l, l', hl, -⟩ := List.lookup_eq_some_iff.mp hns
      rw [List.head?_map, Option.mem_def, Option.map_eq_some_iff] at h
      obtain ⟨n, hn, hc⟩ := h
      have hmem : (c.toNat, ns) ∈ exceptions := hl ▸ List.mem_append_right _ List.mem_cons_self
      exact absurd (congrArg Char.toNat hc) (he _ hmem n hn)
    · rfl

lemma toLowercase_eq_of_head (h : c ∈ (toLowercase c).head?) : toLowercase c = [c] := by
  by_cases hc : c.toNat < 0x80
  · rw [toLowercase_of_ascii hc, List.head?_cons, Option.mem_some_iff] at h
    rw [toLowercase_of_ascii hc, h]
  · rw [toLowercase, if_neg hc] at h ⊢
    exact mapped_eq_of_head (by decide) h

lemma toUppercase_eq_of_head (h : c ∈ (toUppercase c).head?) : toUppercase c = [c] := by
  by_cases hc : c.toNat < 0x80
  · rw [toUppercase_of_ascii hc, List.head?_cons, Option.mem_some_iff] at h
    rw [toUppercase_of_ascii hc, h]
  · rw [toUppercase, if_neg hc] at h ⊢
    exact mapped_eq_of_head (by decide) h

lemma toLowercase_ne_nil (c : Char) : toLowercase c ≠ [] := by
  unfold toLowercase
  split
  · exact List.cons_ne_nil _ _
  · exact mapped_ne_nil (by decide) c

/-! ### Capital letters -/

/-- Nothing in upper case is one of the small letters of ASCII. -/
lemma isLower_of_mem_toUppercase (hd : d ∈ toUppercase c) : d.isLower = false := by
  by_cases hc : c.toNat < 0x80
  · rw [toUppercase_of_ascii hc] at hd
    rw [List.mem_singleton.mp hd]
    exact isLower_toUpper c
  · have hself : c.isLower = false := by
      rw [isLower_eq_false_iff]
      omega
    rw [toUppercase, if_neg hc] at hd
    exact of_mem_mapped (p := fun c => c.isLower = false) (by decide +kernel) (by decide) hself hd

/-- The images of the shift lie in one interval of the alphabet. -/
def Shift.alphabetic (s : Shift) : Bool :=
  Table.alphabetic.any fun r => r.1.ble s.target && (s.target + (s.run.last - s.run.first)).ble r.2

lemma isAlphabetic_of_coveredBy {n : Nat} (h : coveredBy Table.alphabetic n = true) :
    isAlphabetic (Char.ofNat n) = true := by
  have hintervals : (Table.alphabetic.all fun r =>
      (0x80).ble r.1 && (r.2.blt 0xD800 || ((0xDFFF).blt r.1 && r.2.blt 0x110000))) = true := by
    decide +kernel
  obtain ⟨r, hr, hn⟩ := List.any_eq_true.mp h
  have hinterval := List.all_eq_true.mp hintervals r hr
  simp only [Bool.and_eq_true, Bool.or_eq_true, Nat.ble_eq, Nat.blt_eq, decide_eq_true_eq]
    at hinterval hn
  have hvalid : n.isValidChar := by
    unfold Nat.isValidChar
    omega
  have hnat : (Char.ofNat n).toNat = n := by
    rw [Char.ofNat, dif_pos hvalid]
    rfl
  rw [isAlphabetic, hnat, if_neg (by omega)]
  exact h

/-- The images of the shift are letters or numerals. Few shifts leave the alphabet between two images;
of those they are looked up one by one. -/
def Shift.alphanumeric (s : Shift) : Bool :=
  s.alphabetic || (List.range (s.run.last - s.run.first + 1)).all fun i =>
    i % s.run.step != 0 || isAlphanumeric (Char.ofNat (s.target + i))

lemma Shift.isAlphanumeric_image {s : Shift} {n : Nat} (h : s.alphanumeric = true)
    (hn : s.run.contains n = true) :
    isAlphanumeric (Char.ofNat (s.target + (n - s.run.first))) = true := by
  have hbounds := Run.le_of_contains hn
  rcases Bool.or_eq_true_iff.mp h with hinterval | himages
  · obtain ⟨r, hr, hwithin⟩ := List.any_eq_true.mp hinterval
    simp only [Bool.and_eq_true, Nat.ble_eq] at hwithin
    have hcovered : coveredBy Table.alphabetic (s.target + (n - s.run.first)) = true := by
      refine List.any_eq_true.mpr ⟨r, hr, ?_⟩
      simp only [Bool.and_eq_true, decide_eq_true_eq]
      omega
    rw [isAlphanumeric, isAlphabetic_of_coveredBy hcovered, Bool.true_or]
  · have himage := List.all_eq_true.mp himages (n - s.run.first) (List.mem_range.mpr (by omega))
    simp only [Run.contains, Bool.and_eq_true, beq_iff_eq] at hn
    simpa [hn.2] using himage

/-- What holds of every first character in a map, and of `c`, holds of the first character that `c`
goes to. -/
lemma of_mem_head_mapped {p : Char → Prop} {shifts : List Shift} {exceptions : List (Nat × List Nat)}
    (hs : ∀ s ∈ shifts, ∀ n, s.run.contains n = true → p (Char.ofNat (s.target + (n - s.run.first))))
    (he : ∀ e ∈ exceptions, ∀ n ∈ e.2.head?, p (Char.ofNat n)) (hc : p c)
    (hd : d ∈ (mapped shifts exceptions c).head?) : p d := by
  unfold mapped shiftBy at hd
  cases hshift : shifts.find? (·.run.contains c.toNat) with
  | some s =>
    simp only [hshift, Option.map_some, List.head?_cons, Option.mem_some_iff] at hd
    have hrun := List.find?_some hshift
    exact hd ▸ hs s (List.mem_of_find?_eq_some hshift) c.toNat hrun
  | none =>
    simp only [hshift, Option.map_none] at hd
    cases hmany : exceptions.lookup c.toNat with
    | some ns =>
      obtain ⟨l, l', hl, -⟩ := List.lookup_eq_some_iff.mp hmany
      simp only [hmany, List.head?_map, Option.mem_def, Option.map_eq_some_iff] at hd
      obtain ⟨n, hn, rfl⟩ := hd
      exact he (c.toNat, ns) (hl ▸ List.mem_append_right _ List.mem_cons_self) n hn
    | none =>
      simp only [hmany, List.head?_cons, Option.mem_some_iff] at hd
      exact hd ▸ hc

/-- The upper case of a letter or numeral starts with one. -/
lemma isAlphanumeric_of_mem_head_toUppercase (h : isAlphanumeric c = true)
    (hd : d ∈ (toUppercase c).head?) : isAlphanumeric d = true := by
  by_cases hc : c.toNat < 0x80
  · rw [toUppercase_of_ascii hc, List.head?_cons, Option.mem_some_iff] at hd
    have hupper := toUpper_cases c
    rw [isAlphanumeric_of_ascii hc] at h
    rw [← hd, isAlphanumeric_of_ascii (by omega), isAlphanum_toUpper, h]
  · rw [toUppercase, if_neg hc] at hd
    have hshifts : Table.toUpper.all Shift.alphanumeric = true := by decide +kernel
    exact of_mem_head_mapped (p := fun c => isAlphanumeric c = true)
      (fun s hs n => s.isAlphanumeric_image (List.all_eq_true.mp hshifts s hs))
      (by decide +kernel) h hd

end ApiOperations.Text
