import Mathlib.Data.List.Basic
import ApiOperations.Proofs.List
import ApiOperations.Text.Quoted

/-!
Quoted texts, read from the left. A character in quotes is itself, or a backslash with a letter, or a
backslash with its code point in braces, and it can be told at once which of them. So a quoted text
shows where it ends, whatever stands behind it, and what it was made from.
-/

namespace ApiOperations.Text

/-! ### Code points -/

lemma digitChar_inj : ∀ m < 16, ∀ n < 16, m.digitChar = n.digitChar → m = n := by
  decide

lemma hexDigits_eq (n : Nat) :
    hexDigits n = if n < 16 then [n.digitChar] else hexDigits (n / 16) ++ [(n % 16).digitChar] :=
  Nat.toDigits_eq_if (by decide)

lemma hexDigits_injective {m n : Nat} (h : hexDigits m = hexDigits n) : m = n := by
  induction m using Nat.strongRecOn generalizing n with
  | ind m ih =>
    have hne : ∀ k, hexDigits k ≠ [] := fun _ => Nat.toDigits_ne_nil
    rw [hexDigits_eq m, hexDigits_eq n] at h
    split at h <;> rename_i hm <;> split at h <;> rename_i hn
    · exact digitChar_inj m hm n hn (List.singleton_inj.mp h)
    · exact absurd (List.append_eq_singleton_iff.mp h.symm) (by simp [hne])
    · exact absurd (List.append_eq_singleton_iff.mp h) (by simp [hne])
    · -- the last digits agree, and so do the numbers in front of them
      obtain ⟨hfront, hlast⟩ := List.append_singleton_inj.mp h
      have hdiv : m / 16 = n / 16 := ih (m / 16) (by omega) hfront
      have hmod : m % 16 = n % 16 := digitChar_inj _ (by omega) _ (by omega) hlast
      omega

lemma ne_brace_of_mem_hexDigits {n : Nat} {c : Char} (h : c ∈ hexDigits n) : c ≠ '}' := by
  induction n using Nat.strongRecOn with
  | ind n ih =>
    have hdigit : ∀ m < 16, m.digitChar ≠ '}' := by decide
    rw [hexDigits_eq] at h
    split at h
    · rename_i hn
      exact List.mem_singleton.mp h ▸ hdigit n hn
    · rcases List.mem_append.mp h with h | h
      · exact ih (n / 16) (by omega) h
      · exact List.mem_singleton.mp h ▸ hdigit (n % 16) (by omega)

/-! ### Characters -/

/-- The letters that stand for characters behind a backslash. -/
def escapes : List (Char × Char) :=
  [('0', '\x00'), ('t', '\t'), ('n', '\n'), ('r', '\r'), ('"', '"'), ('\\', '\\')]

/-- The ways in which a character is written in quotes. -/
inductive Stands (c : Char) : List Char → Prop
  | plain : c ≠ '"' → c ≠ '\\' → Stands c [c]
  | escape {e : Char} : (e, c) ∈ escapes → Stands c ['\\', e]
  | code : Stands c ('\\' :: 'u' :: '{' :: (hexDigits c.toNat ++ ['}']))

lemma stands_quotedChar (c : Char) : Stands c (quotedChar c) := by
  unfold quotedChar
  split
  case h_7 hquote hbackslash =>
    split
    · exact .plain hquote hbackslash
    · exact .code
  all_goals exact .escape (by decide)

variable {c d : Char} {w w' rest rest' : List Char}

lemma Stands.exists_eq (h : Stands c w) : ∃ a v, w = a :: v ∧ a ≠ '"' := by
  cases h with
  | plain hquote _ => exact ⟨_, _, rfl, hquote⟩
  | escape _ => exact ⟨_, _, rfl, by decide⟩
  | code => exact ⟨_, _, rfl, by decide⟩

/-- A character in quotes can be told from what stands behind it. -/
lemma Stands.append_inj (hc : Stands c w) (hd : Stands d w') (h : w ++ rest = w' ++ rest') :
    c = d ∧ rest = rest' := by
  have hletter : ∀ e ∈ escapes, e.1 ≠ 'u' := by decide
  have hsame : ∀ e ∈ escapes, ∀ f ∈ escapes, e.1 = f.1 → e.2 = f.2 := by decide
  cases hc with
  | plain _ hc =>
    cases hd with
    | plain => simpa using h
    | escape => exact absurd (List.cons.inj h).1 hc
    | code => exact absurd (List.cons.inj h).1 hc
  | escape he =>
    cases hd with
    | plain _ hd => exact absurd (List.cons.inj h).1.symm hd
    | escape hf =>
      simp only [List.cons_append, List.nil_append, List.cons.injEq, true_and] at h
      exact ⟨hsame _ he _ hf h.1, h.2⟩
    | code =>
      simp only [List.cons_append, List.cons.injEq, true_and] at h
      exact absurd h.1 (hletter _ he)
  | code =>
    cases hd with
    | plain _ hd => exact absurd (List.cons.inj h).1.symm hd
    | escape hf =>
      simp only [List.cons_append, List.cons.injEq, true_and] at h
      exact absurd h.1.symm (hletter _ hf)
    | code =>
      simp only [List.cons_append, List.append_assoc, List.nil_append, List.cons.injEq,
        true_and] at h
      have hdigits : ∀ n, ∀ a ∈ hexDigits n, (a != '}') = true := fun n a ha =>
        bne_iff_ne.mpr (ne_brace_of_mem_hexDigits ha)
      obtain ⟨hcode, hrest⟩ := List.append_inj_of_head (p := (· != '}')) (hdigits _) (hdigits _)
        (by simp) (by simp) h
      exact ⟨Char.toNat_inj.mp (hexDigits_injective hcode), (List.cons.inj hrest).2⟩

/-! ### Texts -/

/-- A quoted text shows where it ends and what it was made from. -/
lemma quoted_append_inj {cs ds : List Char} (h : quoted cs ++ rest = quoted ds ++ rest') :
    cs = ds ∧ rest = rest' := by
  simp only [quoted, List.cons_append, List.append_assoc, List.nil_append, List.cons.injEq,
    true_and] at h
  induction cs generalizing ds with
  | nil =>
    cases ds with
    | nil => exact ⟨rfl, (List.cons.inj h).2⟩
    | cons d ds =>
      obtain ⟨a, v, ha, hquote⟩ := (stands_quotedChar d).exists_eq
      rw [List.flatMap_cons, ha] at h
      exact absurd (List.cons.inj h).1.symm hquote
  | cons c cs ih =>
    cases ds with
    | nil =>
      obtain ⟨a, v, ha, hquote⟩ := (stands_quotedChar c).exists_eq
      rw [List.flatMap_cons, ha] at h
      exact absurd (List.cons.inj h).1 hquote
    | cons d ds =>
      rw [List.flatMap_cons, List.flatMap_cons, List.append_assoc, List.append_assoc] at h
      obtain ⟨rfl, htail⟩ := (stands_quotedChar c).append_inj (stands_quotedChar d) h
      obtain ⟨rfl, hrest⟩ := ih htail
      exact ⟨rfl, hrest⟩

end ApiOperations.Text
