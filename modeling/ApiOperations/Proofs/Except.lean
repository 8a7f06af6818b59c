import ApiOperations.Proofs.List

/-!
Computations that may fail. A step that follows another succeeds exactly when both do, and the
failure of both is that of the first one that fails. Two computations agree if they fail together and
have related results otherwise; one is below another if it fails or both have the same result. Both
relations are kept by whatever follows.
-/

namespace Except

variable {ε α β γ δ : Type}

lemma bind_eq_ok_iff {x : Except ε α} {f : α → Except ε β} {b : β} :
    x >>= f = .ok b ↔ ∃ a, x = .ok a ∧ f a = .ok b := by
  cases x <;> simp [bind, Except.bind]

lemma map_eq_ok_iff {x : Except ε α} {f : α → β} {b : β} :
    x.map f = .ok b ↔ ∃ a, x = .ok a ∧ f a = b := by
  cases x <;> simp [Except.map]

lemma bind_eq_error_iff {x : Except ε α} {f : α → Except ε β} {e : ε} :
    x >>= f = .error e ↔ x = .error e ∨ ∃ a, x = .ok a ∧ f a = .error e := by
  cases x <;> simp [bind, Except.bind]

lemma map_eq_error_iff {x : Except ε α} {f : α → β} {e : ε} : x.map f = .error e ↔ x = .error e := by
  cases x <;> simp [Except.map]

@[simp] lemma toOption_eq_some_iff {x : Except ε α} {a : α} :
    x.toOption = some a ↔ x = .ok a := by
  cases x <;> simp [Except.toOption]

/-! ### Failures -/

/-- What a computation fails with. -/
def failure? : Except ε α → Option ε
  | ok _ => none
  | error e => some e

@[simp] lemma failure?_ok (a : α) : (ok a : Except ε α).failure? = none := rfl
@[simp] lemma failure?_error (e : ε) : (error e : Except ε α).failure? = some e := rfl

lemma eq_error_iff {x : Except ε α} {e : ε} : x = .error e ↔ x.failure? = some e := by
  cases x <;> simp

lemma exists_eq_ok_iff {x : Except ε α} : (∃ a, x = .ok a) ↔ x.failure? = none := by
  cases x <;> simp

lemma failure?_bind (x : Except ε α) (f : α → Except ε β) :
    (x >>= f).failure? = x.failure?.or (x.toOption.bind fun a => (f a).failure?) := by
  cases x <;> rfl

lemma failure?_map (x : Except ε α) (f : α → β) : (x.map f).failure? = x.failure? := by
  cases x <;> rfl

/-! ### Agreement -/

/-- Both computations succeed, with results in the relation, or both fail. -/
inductive Agree (R : α → β → Prop) : Except ε α → Except ε β → Prop
  | ok {a : α} {b : β} : R a b → Agree R (.ok a) (.ok b)
  | error (e e' : ε) : Agree R (.error e) (.error e')

namespace Agree

variable {R : α → β → Prop} {S : γ → δ → Prop} {x : Except ε α} {y : Except ε β}

lemma refl (x : Except ε α) : Agree Eq x x := by
  cases x with
  | ok a => exact .ok rfl
  | error e => exact .error e e

lemma of_ok (hxy : ∀ a, x = .ok a → ∃ b, y = .ok b ∧ R a b)
    (hyx : ∀ b, y = .ok b → ∃ a, x = .ok a) : Agree R x y := by
  cases x with
  | ok a =>
    obtain ⟨b, rfl, hab⟩ := hxy a rfl
    exact .ok hab
  | error e =>
    cases y with
    | ok b =>
      obtain ⟨a, ⟨⟩⟩ := hyx b rfl
    | error e' => exact .error e e'

lemma ok_or_error (h : Agree R x y) :
    (∃ a b, x = .ok a ∧ y = .ok b ∧ R a b) ∨ ∃ e e', x = .error e ∧ y = .error e' := by
  cases h with
  | ok hab => exact .inl ⟨_, _, rfl, rfl, hab⟩
  | error e e' => exact .inr ⟨e, e', rfl, rfl⟩

lemma bind {f : α → Except ε γ} {g : β → Except ε δ} (h : Agree R x y)
    (hfg : ∀ a b, R a b → Agree S (f a) (g b)) : Agree S (x >>= f) (y >>= g) := by
  cases h with
  | ok hab => exact hfg _ _ hab
  | error e e' => exact .error e e'

lemma map {f : α → γ} {g : β → δ} (h : Agree R x y) (hfg : ∀ a b, R a b → S (f a) (g b)) :
    Agree S (x.map f) (y.map g) := by
  cases h with
  | ok hab => exact .ok (hfg _ _ hab)
  | error e e' => exact .error e e'

end Agree

/-! ### Congruences -/

/-- The result of the first computation, if it has one, is that of the second. -/
def Below (x y : Except ε α) : Prop :=
  ∀ a, x = .ok a → y = .ok a

/-- A relation that computations have to themselves, and that is kept when the same steps follow, or
steps in this relation. -/
structure Congruence (rel : (α : Type) → Except ε α → Except ε α → Prop) : Prop where
  refl : ∀ {α : Type} (x : Except ε α), rel α x x
  bind : ∀ {α β : Type} {x y : Except ε α} {f g : α → Except ε β},
    rel α x y → (∀ a, rel β (f a) (g a)) → rel β (x >>= f) (y >>= g)

lemma congruence_eq : Congruence fun α => Eq (α := Except ε α) where
  refl _ := rfl
  bind h hfg := by rw [h, funext hfg]

lemma congruence_agree : Congruence fun α => Agree (ε := ε) (Eq (α := α)) where
  refl := .refl
  bind h hfg := h.bind fun a _ hab => hab ▸ hfg a

lemma congruence_below : Congruence fun α => Below (ε := ε) (α := α) where
  refl _ _ h := h
  bind h hfg := by
    intro b hb
    obtain ⟨a, ha, hb⟩ := bind_eq_ok_iff.mp hb
    exact bind_eq_ok_iff.mpr ⟨a, h a ha, hfg a b hb⟩

namespace Congruence

variable {rel : (α : Type) → Except ε α → Except ε α → Prop} (hrel : Congruence rel)
include hrel

lemma map {x y : Except ε α} (h : rel α x y) (f : α → β) : rel β (x.map f) (y.map f) := by
  have hbind : ∀ z : Except ε α, z.map f = z >>= fun a => .ok (f a) := fun z => by cases z <;> rfl
  rw [hbind, hbind]
  exact hrel.bind h fun a => hrel.refl _

lemma mapM {f g : α → Except ε β} (h : ∀ a, rel β (f a) (g a)) (xs : List α) :
    rel (List β) (xs.mapM f) (xs.mapM g) := by
  induction xs with
  | nil => exact hrel.refl _
  | cons x xs ih =>
    rw [List.mapM_cons, List.mapM_cons]
    exact hrel.bind (h x) fun y => hrel.bind ih fun ys => hrel.refl _

end Congruence

/-! ### Runs over lists -/

/-- A run over a list gives what each member gives, side by side. -/
lemma mapM_eq_ok_iff {f : α → Except ε β} {xs : List α} {ys : List β} :
    xs.mapM f = .ok ys ↔ List.Forall₂ (fun x y => f x = .ok y) xs ys := by
  induction xs generalizing ys with
  | nil =>
    rw [List.forall₂_nil_left_iff]
    exact ⟨fun h => (Except.ok.inj h).symm, fun h => h ▸ rfl⟩
  | cons x xs ih =>
    rw [List.mapM_cons, List.forall₂_cons_left_iff, bind_eq_ok_iff]
    constructor
    · rintro ⟨y, hy, h⟩
      obtain ⟨zs, hzs, ⟨⟩⟩ := bind_eq_ok_iff.mp h
      exact ⟨y, zs, hy, ih.mp hzs, rfl⟩
    · rintro ⟨y, zs, hy, hzs, rfl⟩
      exact ⟨y, hy, bind_eq_ok_iff.mpr ⟨zs, ih.mpr hzs, rfl⟩⟩

/-- What a run over a list gives comes from its members. -/
lemma mem_of_mapM_eq_ok {f : α → Except ε β} {xs : List α} {ys : List β}
    (h : xs.mapM f = .ok ys) {y : β} (hy : y ∈ ys) : ∃ x ∈ xs, f x = .ok y := by
  obtain ⟨i, hi⟩ := List.mem_iff_getElem?.mp hy
  obtain ⟨x, hx, hxy⟩ := (mapM_eq_ok_iff.mp h).flip.exists_getElem? hi
  exact ⟨x, List.mem_of_getElem? hx, hxy⟩

/-- A run over a list fails as one of its members does. -/
lemma exists_mem_of_mapM_eq_error {f : α → Except ε β} {xs : List α} {e : ε}
    (h : xs.mapM f = .error e) : ∃ x ∈ xs, f x = .error e := by
  induction xs with
  | nil => cases h
  | cons x xs ih =>
    rw [List.mapM_cons, bind_eq_error_iff] at h
    rcases h with h | ⟨y, -, h⟩
    · exact ⟨x, List.mem_cons_self, h⟩
    · rcases bind_eq_error_iff.mp h with h | ⟨ys, -, ⟨⟩⟩
      obtain ⟨z, hz, hze⟩ := ih h
      exact ⟨z, List.mem_cons_of_mem x hz, hze⟩

end Except
