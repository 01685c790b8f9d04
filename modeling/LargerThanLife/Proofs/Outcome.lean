/-! Outcomes of computations that can fail. A result of one after another comes from a result of the
first. Two outcomes side by side match when both are faults or both are results, and the two faults or
results are in a given relation. Two computations match when they match step by step, so two ways to
do the same thing can be compared without looking into either as a whole. -/

namespace LargerThanLife

variable {ε φ α β γ δ : Type}

@[simp] theorem bind_eq_ok_iff {x : Except ε α} {f : α → Except ε β} {b : β} :
    x >>= f = .ok b ↔ ∃ a, x = .ok a ∧ f a = .ok b := by
  cases x with
  | error e =>
    constructor
    · intro h
      cases h
    · rintro ⟨_, h, -⟩
      cases h
  | ok a =>
    constructor
    · exact fun h => ⟨a, rfl, h⟩
    · rintro ⟨_, h, result⟩
      cases h
      exact result

@[simp] theorem map_eq_ok_iff {x : Except ε α} {f : α → β} {b : β} :
    f <$> x = .ok b ↔ ∃ a, x = .ok a ∧ f a = b := by
  cases x with
  | error e => simp [Functor.map, Except.map]
  | ok a => simp [Functor.map, Except.map]

@[simp] theorem map_eq_error_iff {x : Except ε α} {f : α → β} {e : ε} :
    f <$> x = .error e ↔ x = .error e := by
  cases x with
  | error e => simp [Functor.map, Except.map]
  | ok a => simp [Functor.map, Except.map]

theorem exists_error_iff {x : Except ε α} : (∃ e, x = .error e) ↔ ∀ a, x ≠ .ok a := by
  cases x with
  | error e => simp
  | ok a => simp

@[simp] theorem ok_bind (a : α) (f : α → Except ε β) : Except.ok a >>= f = f a := rfl

@[simp] theorem error_bind (e : ε) (f : α → Except ε β) : Except.error e >>= f = .error e := rfl

@[simp] theorem pure_eq_ok_iff {a b : α} : (pure a : Except ε α) = .ok b ↔ a = b :=
  ⟨Except.ok.inj, congrArg Except.ok⟩

@[simp] theorem throw_eq_error (e : ε) : (throw e : Except ε α) = .error e := rfl

@[simp] theorem toOption_eq_some_iff {x : Except ε α} {a : α} : x.toOption = some a ↔ x = .ok a := by
  cases x with
  | error e => simp [Except.toOption]
  | ok b => simp [Except.toOption]

/-- The two outcomes are both faults or both results, and `faults` or `results` holds of them. -/
inductive Matches (faults : ε → φ → Prop) (results : α → β → Prop) :
    Except ε α → Except φ β → Prop
  | error {e : ε} {f : φ} : faults e f → Matches faults results (.error e) (.error f)
  | ok {a : α} {b : β} : results a b → Matches faults results (.ok a) (.ok b)

namespace Matches

variable {faults : ε → φ → Prop} {results : α → β → Prop} {later : γ → δ → Prop}
  {x : Except ε α} {y : Except φ β}

theorem refl (x : Except ε α) : Matches Eq Eq x x := by
  cases x with
  | error e => exact .error rfl
  | ok a => exact .ok rfl

theorem bind {f : α → Except ε γ} {g : β → Except φ δ} (first : Matches faults results x y)
    (next : ∀ a b, results a b → Matches faults later (f a) (g b)) :
    Matches faults later (x >>= f) (y >>= g) := by
  cases first with
  | error h => exact .error h
  | ok h => exact next _ _ h

theorem map {f : α → γ} {g : β → δ} (first : Matches faults results x y)
    (next : ∀ a b, results a b → later (f a) (g b)) :
    Matches faults later (f <$> x) (g <$> y) := by
  cases first with
  | error h => exact .error h
  | ok h => exact .ok (next _ _ h)

theorem ite {p : Prop} [Decidable p] {x' : Except ε α} {y' : Except φ β}
    (holds : p → Matches faults results x y) (fails : ¬p → Matches faults results x' y') :
    Matches faults results (if p then x else x') (if p then y else y') := by
  split
  · next h => exact holds h
  · next h => exact fails h

theorem eq {x y : Except ε α} (same : Matches Eq Eq x y) : x = y := by
  cases same with
  | error h => rw [h]
  | ok h => rw [h]

theorem ok_iff {x : Except ε α} {y : Except φ α} (same : Matches faults Eq x y) (a : α) :
    x = .ok a ↔ y = .ok a := by
  cases same with
  | error h => simp
  | ok h => rw [h]; simp

theorem exists_error (matched : Matches faults results x y) {e : ε} (h : x = .error e) :
    ∃ f, y = .error f ∧ faults e f := by
  rw [h] at matched
  cases matched with
  | error related => exact ⟨_, rfl, related⟩

end Matches

end LargerThanLife
