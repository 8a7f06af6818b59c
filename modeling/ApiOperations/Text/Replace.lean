/-!
Replacing every occurrence of a two-character pattern, read from the left without overlap.
-/

namespace ApiOperations.Text

/-- Every `a` followed by `b` becomes `r`. -/
def replacePair (a b r : Char) : List Char → List Char
  | [] => []
  | [c] => [c]
  | c :: d :: cs =>
    if c = a ∧ d = b then r :: replacePair a b r cs else c :: replacePair a b r (d :: cs)

@[simp] theorem replacePair_nil (a b r : Char) : replacePair a b r [] = [] := by
  simp [replacePair]

@[simp] theorem replacePair_pair (a b r : Char) (cs : List Char) :
    replacePair a b r (a :: b :: cs) = r :: replacePair a b r cs := by
  simp [replacePair]

theorem replacePair_cons_of_ne {a c : Char} (b r : Char) (h : c ≠ a) (cs : List Char) :
    replacePair a b r (c :: cs) = c :: replacePair a b r cs := by
  cases cs <;> simp [replacePair, h]

theorem replacePair_cons_of_head?_ne {a b : Char} (r : Char) {cs : List Char}
    (h : cs.head? ≠ some b) : replacePair a b r (a :: cs) = a :: replacePair a b r cs := by
  cases cs with
  | nil => simp [replacePair]
  | cons d ds =>
    have hd : d ≠ b := fun hd => h (congrArg some hd)
    simp [replacePair, hd]

end ApiOperations.Text
