import Mathlib.Data.List.Basic
import ApiOperations.Json.Reader
import ApiOperations.Json.Writer

/-!
Integers as JSON numerals. An integer is written as its decimal digits, with a sign if it is negative.
Reading these characters back gives the numeral of the integer, and the numeral has the integer for
its value if that fits 64 bits.
-/

namespace ApiOperations.Json

/-- The numeral of an integer. -/
def Numeral.ofInt (n : Int) : Numeral :=
  ⟨decide (n < 0), Nat.toDigits 10 n.natAbs, none, none⟩

/-! ### Values of numerals -/

lemma le_ofDigitChars (acc : Nat) (cs : List Char) : acc ≤ Nat.ofDigitChars 10 cs acc := by
  rw [Nat.ofDigitChars_eq_ofDigitChars_zero]
  have hpow : 0 < 10 ^ cs.length := Nat.pow_pos (by decide)
  exact Nat.le_trans (Nat.le_mul_of_pos_left acc hpow) (Nat.le_add_right _ _)

/-- All digits are gathered if their number fits, since no prefix spells a greater one. -/
lemma gatherWhole_eq {acc : Nat} {cs : List Char} (h : Nat.ofDigitChars 10 cs acc < Nat.pow 2 64) :
    gatherWhole acc cs = (⟨Nat.ofDigitChars 10 cs acc, 0⟩, true) := by
  induction cs generalizing acc with
  | nil => rfl
  | cons c cs ih =>
    rw [Nat.ofDigitChars_cons] at h ⊢
    have hnext : 10 * acc + digitValue c < Nat.pow 2 64 := Nat.lt_of_le_of_lt (le_ofDigitChars _ cs) h
    rw [gatherWhole, if_pos hnext]
    exact ih h

lemma number?_ofInt {n : Int} (h : fitsInteger n) : (Numeral.ofInt n).number? = some (.int n) := by
  have hbounds : -(2 : Int) ^ 63 ≤ n ∧ n < 2 ^ 64 := by
    simpa [fitsInteger] using h
  have habs : Nat.ofDigitChars 10 (Nat.toDigits 10 n.natAbs) 0 < Nat.pow 2 64 := by
    rw [Nat.ofDigitChars_ten_toDigits, Nat.pow_eq]
    omega
  have hvalue : (if n < 0 then -(n.natAbs : Int) else n.natAbs) = n := by
    split_ifs <;> omega
  have hzero : (decide (n < 0) && n.natAbs == 0) = false := by
    rw [Bool.and_eq_false_iff, decide_eq_false_iff_not, beq_eq_false_iff_ne]
    omega
  simp only [Numeral.ofInt, Numeral.number?, gatherWhole_eq habs, Nat.ofDigitChars_ten_toDigits,
    decide_eq_true_eq, hvalue, h, hzero]
  rfl

/-! ### Reading numerals -/

/-- The text does not go on with a digit, a point or an exponent. -/
def EndsNumeral (cs : List Char) : Prop :=
  ∀ c ∈ cs.head?, c.isDigit = false ∧ c ≠ '.' ∧ c ≠ 'e' ∧ c ≠ 'E'

lemma readDigits_append {ds rest : List Char} (hne : ds ≠ []) (hds : ∀ d ∈ ds, d.isDigit)
    (hrest : EndsNumeral rest) : readDigits (ds ++ rest) = some (ds, rest) := by
  have hstop : rest.takeWhile Char.isDigit = [] ∧ rest.dropWhile Char.isDigit = rest := by
    cases rest with
    | nil => exact ⟨rfl, rfl⟩
    | cons c cs =>
      have hc : ¬ c.isDigit := by simp [(hrest c rfl).1]
      exact ⟨List.takeWhile_cons_of_neg hc, List.dropWhile_cons_of_neg hc⟩
  rw [readDigits, List.takeWhile_append_of_pos hds, List.dropWhile_append_of_pos hds, hstop.1,
    hstop.2, List.append_nil]
  cases ds with
  | nil => exact absurd rfl hne
  | cons d ds => rfl

/-- Only zero starts with the digit zero. -/
lemma eq_zero_of_toDigits_eq {m : Nat} {cs : List Char} (h : Nat.toDigits 10 m = '0' :: cs) :
    m = 0 := by
  induction m using Nat.strongRecOn generalizing cs with
  | ind m ih =>
    rw [Nat.toDigits_eq_if (by decide)] at h
    split_ifs at h with hm
    · have hdigit : ∀ d < 10, Nat.digitChar d = '0' → d = 0 := by decide
      exact hdigit m hm (List.cons.inj h).1
    · obtain ⟨c, ds, hds⟩ := List.exists_cons_of_ne_nil (Nat.toDigits_ne_nil (n := m / 10) (b := 10))
      rw [hds] at h
      obtain rfl : c = '0' := (List.cons.inj h).1
      have hdiv : m / 10 = 0 := ih (m / 10) (by omega) hds
      omega

lemma readWhole_toDigits (m : Nat) {rest : List Char} (hrest : EndsNumeral rest) :
    readWhole (Nat.toDigits 10 m ++ rest) = some (Nat.toDigits 10 m, rest) := by
  have hdigits : readDigits (Nat.toDigits 10 m ++ rest) = some (Nat.toDigits 10 m, rest) :=
    readDigits_append Nat.toDigits_ne_nil
      (fun _ hd => Nat.isDigit_of_mem_toDigits (by decide) (by decide) hd) hrest
  obtain ⟨c, cs, hcs⟩ := List.exists_cons_of_ne_nil (Nat.toDigits_ne_nil (n := m) (b := 10))
  by_cases hc : c = '0'
  · subst hc
    obtain rfl := eq_zero_of_toDigits_eq hcs
    obtain rfl : cs = [] := (List.cons.inj hcs).2.symm
    cases rest with
    | nil => rfl
    | cons d rest =>
      have hd : d.isDigit = false := (hrest d rfl).1
      simp [hcs, readWhole, hd]
  · rw [hcs, List.cons_append] at hdigits ⊢
    rw [readWhole, hdigits]
    intro cs' h
    exact hc (List.cons.inj h).1

/-- **Integers are read as they are written**, the sign being read before the digits. -/
lemma readNumeral_toDigits (negative : Bool) (m : Nat) {rest : List Char} (hrest : EndsNumeral rest) :
    readNumeral negative (Nat.toDigits 10 m ++ rest) =
      some (⟨negative, Nat.toDigits 10 m, none, none⟩, rest) := by
  have hfraction : readFraction rest = some (none, rest) := by
    cases rest with
    | nil => rfl
    | cons c cs =>
      rw [readFraction]
      intro cs' h
      exact (hrest c rfl).2.1 (List.cons.inj h).1
  have hexponent : readExponent rest = some (none, rest) := by
    cases rest with
    | nil => rfl
    | cons c cs =>
      obtain ⟨-, -, he, hE⟩ := hrest c rfl
      exact if_neg (not_or.mpr ⟨he, hE⟩)
  rw [readNumeral, readWhole_toDigits m hrest]
  simp only [Option.bind_eq_bind, Option.bind_some, hfraction, hexponent]
  rfl

end ApiOperations.Json
