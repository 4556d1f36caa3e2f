namespace Playground

variable {ε ε' α β : Type}

/-- Two runs with the same failure or with related results. -/
inductive SameEnd (R : α → β → Prop) : Except ε α → Except ε β → Prop
  | ok {a : α} {b : β} (hab : R a b) : SameEnd R (.ok a) (.ok b)
  | error (e : ε) : SameEnd R (.error e) (.error e)

namespace SameEnd

variable {γ δ : Type} {R : α → β → Prop} {S : γ → δ → Prop}

theorem refl {R : α → α → Prop} (hR : ∀ a, R a a) (x : Except ε α) : SameEnd R x x := by
  cases x with
  | error e => exact .error e
  | ok a => exact .ok (hR a)

theorem map {x : Except ε α} {y : Except ε β} {f : α → γ} {g : β → δ} (h : SameEnd R x y)
    (hfg : ∀ a b, R a b → S (f a) (g b)) : SameEnd S (x.map f) (y.map g) := by
  cases h with
  | ok hab => exact .ok (hfg _ _ hab)
  | error e => exact .error e

theorem mapError {x : Except ε α} {y : Except ε β} (h : SameEnd R x y) (f : ε → ε') :
    SameEnd R (x.mapError f) (y.mapError f) := by
  cases h with
  | ok hab => exact .ok hab
  | error e => exact .error (f e)

theorem exists_ok_iff {x : Except ε α} {y : Except ε β} (h : SameEnd R x y) :
    (∃ a, x = .ok a) ↔ ∃ b, y = .ok b := by
  cases h <;> simp

theorem of_ok {x : Except ε α} {y : Except ε β} (h : SameEnd R x y) {a : α} {b : β}
    (hx : x = .ok a) (hy : y = .ok b) : R a b := by
  subst hx hy
  cases h with
  | ok hab => exact hab

theorem error_iff {x : Except ε α} {y : Except ε β} (h : SameEnd R x y) (e : ε) :
    x = .error e ↔ y = .error e := by
  cases h <;> simp

end SameEnd

/-- What comes to its end has come through its first part. -/
theorem bind_eq_ok {x : Except ε α} {f : α → Except ε β} {b : β} (h : (x >>= f) = .ok b) :
    ∃ a, x = .ok a ∧ f a = .ok b := by
  cases x with
  | error e => cases h
  | ok a => exact ⟨a, rfl, h⟩

theorem map_eq_ok {x : Except ε α} {f : α → β} {b : β} (h : x.map f = .ok b) :
    ∃ a, x = .ok a ∧ b = f a := by
  cases x with
  | error e => cases h
  | ok a =>
    cases h
    exact ⟨a, rfl, rfl⟩

theorem map_eq_error {x : Except ε α} {f : α → β} {e : ε} (h : x.map f = .error e) :
    x = .error e := by
  cases x with
  | error e' =>
    cases h
    rfl
  | ok a => cases h

theorem mapError_eq_ok_iff {x : Except ε α} {f : ε → ε'} {a : α} :
    x.mapError f = .ok a ↔ x = .ok a := by
  cases x with
  | error e => exact ⟨nofun, nofun⟩
  | ok a' => exact ⟨fun h => congrArg _ (Except.ok.inj h), fun h => congrArg _ (Except.ok.inj h)⟩

theorem mapError_eq_ok {x : Except ε α} {f : ε → ε'} {a : α} (h : x.mapError f = .ok a) :
    x = .ok a :=
  mapError_eq_ok_iff.1 h

theorem mapError_eq_error_iff {x : Except ε α} {f : ε → ε'} (hf : ∀ e e', f e = f e' → e = e')
    {e : ε} : x.mapError f = .error (f e) ↔ x = .error e := by
  cases x with
  | error e' =>
    exact ⟨fun h => congrArg _ (hf e' e (Except.error.inj h)),
      fun h => congrArg _ (congrArg f (Except.error.inj h))⟩
  | ok a => exact ⟨nofun, nofun⟩

theorem exists_of_toOption_map {x : Except ε α} {f : α → β} {b : β}
    (h : x.toOption.map f = some b) : ∃ a, x = .ok a ∧ f a = b := by
  cases x with
  | error e => cases h
  | ok a => exact ⟨a, rfl, Option.some.inj h⟩

end Playground
