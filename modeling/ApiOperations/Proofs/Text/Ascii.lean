import Mathlib.Tactic.Lemma

/-!
Letter case inside ASCII, by code points. A capital letter stands 32 before its small one, and nothing
else has a case there. So the tests of characters are bounds, a change of case is a sum, and what they
have to do with one another is arithmetic.
-/

namespace ApiOperations.Text

variable {c : Char}

/-! ### Tests -/

lemma isUpper_iff : c.isUpper = true ↔ 65 ≤ c.toNat ∧ c.toNat ≤ 90 :=
  decide_eq_true_iff

lemma isLower_iff : c.isLower = true ↔ 97 ≤ c.toNat ∧ c.toNat ≤ 122 :=
  Bool.and_eq_true_iff.trans (and_congr decide_eq_true_iff decide_eq_true_iff)

lemma isDigit_iff : c.isDigit = true ↔ 48 ≤ c.toNat ∧ c.toNat ≤ 57 :=
  Char.isDigit_iff_toNat

lemma isAlphanum_iff : c.isAlphanum = true ↔
    ((65 ≤ c.toNat ∧ c.toNat ≤ 90) ∨ 97 ≤ c.toNat ∧ c.toNat ≤ 122) ∨
      48 ≤ c.toNat ∧ c.toNat ≤ 57 := by
  rw [← isUpper_iff, ← isLower_iff, ← isDigit_iff, ← Bool.or_eq_true, ← Bool.or_eq_true]
  rfl

lemma isLower_eq_false_iff : c.isLower = false ↔ ¬(97 ≤ c.toNat ∧ c.toNat ≤ 122) := by
  rw [← isLower_iff, Bool.not_eq_true]

lemma isUpper_eq_false_iff : c.isUpper = false ↔ ¬(65 ≤ c.toNat ∧ c.toNat ≤ 90) := by
  rw [← isUpper_iff, Bool.not_eq_true]

lemma isLower_eq_false_of_isUpper (h : c.isUpper = true) : c.isLower = false := by
  rw [isUpper_iff] at h
  rw [isLower_eq_false_iff]
  omega

lemma isUpper_eq_false_of_isLower (h : c.isLower = true) : c.isUpper = false := by
  rw [isLower_iff] at h
  rw [isUpper_eq_false_iff]
  omega

lemma isAlphanum_of_isLower (h : c.isLower = true) : c.isAlphanum = true :=
  isAlphanum_iff.mpr (.inl (.inr (isLower_iff.mp h)))

lemma isAlphanum_of_isDigit (h : c.isDigit = true) : c.isAlphanum = true :=
  isAlphanum_iff.mpr (.inr (isDigit_iff.mp h))

/-! ### Changes of case -/

/-- A capital letter moves up by 32, and any other character stays. -/
lemma toLower_cases (c : Char) :
    (65 ≤ c.toNat ∧ c.toNat ≤ 90) ∧ c.toLower.toNat = c.toNat + 32 ∨
      ¬(65 ≤ c.toNat ∧ c.toNat ≤ 90) ∧ c.toLower.toNat = c.toNat := by
  by_cases h : 65 ≤ c.toNat ∧ c.toNat ≤ 90
  · have hlower : c.toLower.toNat = (c.val + 32).toNat := congrArg Char.toNat (dif_pos h)
    have hsum : (c.val + 32).toNat = (c.toNat + 32) % 2 ^ 32 := UInt32.toNat_add c.val 32
    omega
  · exact .inr ⟨h, congrArg Char.toNat (dif_neg h)⟩

/-- A small letter moves down by 32, and any other character stays. -/
lemma toUpper_cases (c : Char) :
    (97 ≤ c.toNat ∧ c.toNat ≤ 122) ∧ c.toUpper.toNat + 32 = c.toNat ∨
      ¬(97 ≤ c.toNat ∧ c.toNat ≤ 122) ∧ c.toUpper.toNat = c.toNat := by
  by_cases h : 97 ≤ c.toNat ∧ c.toNat ≤ 122
  · -- the difference of the two cases is added as what it is modulo `2 ^ 32`
    have hbounds : 'a'.val ≤ c.val ∧ c.val ≤ 'z'.val := h
    have hupper : c.toUpper.val = c.val + ('A'.val - 'a'.val) := by
      delta Char.toUpper
      rw [dif_pos hbounds]
    have hnat : c.toUpper.toNat = (c.toNat + ('A'.val - 'a'.val).toNat) % 2 ^ 32 :=
      (congrArg UInt32.toNat hupper).trans (UInt32.toNat_add _ _)
    have hwrap : ('A'.val - 'a'.val).toNat + 32 = 2 ^ 32 := by decide
    omega
  · exact .inr ⟨h, congrArg Char.toNat (dif_neg h)⟩

lemma toLower_eq_self (h : c.isUpper = false) : c.toLower = c := by
  have hlower := toLower_cases c
  rw [isUpper_eq_false_iff] at h
  rw [← Char.toNat_inj]
  omega

lemma toUpper_eq_self (h : c.isLower = false) : c.toUpper = c := by
  have hupper := toUpper_cases c
  rw [isLower_eq_false_iff] at h
  rw [← Char.toNat_inj]
  omega

lemma toLower_toLower (c : Char) : c.toLower.toLower = c.toLower := by
  have hlower := toLower_cases c
  have hagain := toLower_cases c.toLower
  rw [← Char.toNat_inj]
  omega

lemma toLower_toUpper (c : Char) : c.toUpper.toLower = c.toLower := by
  have hlower := toLower_cases c
  have hupper := toUpper_cases c
  have hback := toLower_cases c.toUpper
  rw [← Char.toNat_inj]
  omega

lemma toUpper_toLower (c : Char) : c.toLower.toUpper = c.toUpper := by
  have hlower := toLower_cases c
  have hupper := toUpper_cases c
  have hback := toUpper_cases c.toLower
  rw [← Char.toNat_inj]
  omega

lemma isUpper_toLower (c : Char) : c.toLower.isUpper = false := by
  have hlower := toLower_cases c
  rw [isUpper_eq_false_iff]
  omega

lemma isLower_toUpper (c : Char) : c.toUpper.isLower = false := by
  have hupper := toUpper_cases c
  rw [isLower_eq_false_iff]
  omega

lemma isAlphanum_toLower (c : Char) : c.toLower.isAlphanum = c.isAlphanum := by
  have hlower := toLower_cases c
  rw [Bool.eq_iff_iff, isAlphanum_iff, isAlphanum_iff]
  omega

lemma isAlphanum_toUpper (c : Char) : c.toUpper.isAlphanum = c.isAlphanum := by
  have hupper := toUpper_cases c
  rw [Bool.eq_iff_iff, isAlphanum_iff, isAlphanum_iff]
  omega

end ApiOperations.Text
