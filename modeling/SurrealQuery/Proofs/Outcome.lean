import SurrealQuery.Error

/-!
# Outcomes

Compiling gives a result or an error. `Agree` compares two outcomes: both fail with one error, or
both succeed with related results. `failure?` is the error alone.
-/

namespace SurrealQuery

variable {α β γ δ : Type}

/-- Two outcomes with the same error, or with results that are related. -/
inductive Agree (R : α → β → Prop) : Except CompileError α → Except CompileError β → Prop
  | ok {a : α} {b : β} (related : R a b) : Agree R (.ok a) (.ok b)
  | error (e : CompileError) : Agree R (.error e) (.error e)

namespace Agree

theorem pure {R : α → β → Prop} {a : α} {b : β} (related : R a b) :
    Agree R (Pure.pure a) (Pure.pure b) :=
  .ok related

theorem bind {R : α → β → Prop} {S : γ → δ → Prop} {x : Except CompileError α}
    {y : Except CompileError β} {f : α → Except CompileError γ} {g : β → Except CompileError δ}
    (h : Agree R x y) (step : ∀ a b, R a b → Agree S (f a) (g b)) :
    Agree S (x >>= f) (y >>= g) := by
  cases h with
  | error e => exact .error e
  | ok related => exact step _ _ related

/-- Both sides run the same computation first. -/
theorem bind_same {S : γ → δ → Prop} (x : Except CompileError α)
    {f : α → Except CompileError γ} {g : α → Except CompileError δ}
    (step : ∀ a, x = .ok a → Agree S (f a) (g a)) : Agree S (x >>= f) (x >>= g) := by
  cases x with
  | error e => exact .error e
  | ok a => exact step a rfl

theorem mono {R S : α → β → Prop} {x : Except CompileError α} {y : Except CompileError β}
    (h : Agree R x y) (weaken : ∀ a b, R a b → S a b) : Agree S x y := by
  cases h with
  | error e => exact .error e
  | ok related => exact .ok (weaken _ _ related)

theorem symm {R : α → β → Prop} {x : Except CompileError α} {y : Except CompileError β}
    (h : Agree R x y) : Agree (fun b a => R a b) y x := by
  cases h with
  | error e => exact .error e
  | ok related => exact .ok related

/-- Where one side has a result, the other side has one that is related to it. -/
theorem exists_ok {R : α → β → Prop} {x : Except CompileError α} {y : Except CompileError β}
    (h : Agree R x y) {a : α} (hok : x = .ok a) : ∃ b, y = .ok b ∧ R a b := by
  cases h with
  | error e => cases hok
  | ok related =>
    cases hok
    exact ⟨_, rfl, related⟩

/-- Agreement with the image of every result is an equation. -/
theorem eq_map {f : α → β} {x : Except CompileError α} {y : Except CompileError β}
    (h : Agree (fun a b => b = f a) x y) : y = x.map f := by
  cases h with
  | error e => rfl
  | ok related => rw [related]; rfl

/-- Outcomes with the same image agree in what the image shows. -/
theorem of_map_eq {f : α → γ} {g : β → γ} {x : Except CompileError α} {y : Except CompileError β}
    (h : x.map f = y.map g) : Agree (fun a b => f a = g b) x y := by
  cases x with
  | error e =>
    cases y with
    | error e' => cases h; exact .error e
    | ok b => cases h
  | ok a =>
    cases y with
    | error e => cases h
    | ok b => exact .ok (Except.ok.inj h)

end Agree

/-- Two steps succeed if the first does, and the second with its result. -/
theorem bind_eq_ok {x : Except CompileError α} {f : α → Except CompileError β} {b : β} :
    x >>= f = .ok b ↔ ∃ a, x = .ok a ∧ f a = .ok b := by
  cases x with
  | error e => exact ⟨nofun, fun ⟨_, h, _⟩ => nomatch h⟩
  | ok a => exact ⟨fun h => ⟨a, rfl, h⟩, fun ⟨_, h, hb⟩ => Except.ok.inj h ▸ hb⟩

/-- The error of an outcome. -/
def failure? : Except CompileError α → Option CompileError
  | .error e => some e
  | .ok _ => none

@[simp] theorem failure?_error (e : CompileError) :
    failure? (.error e : Except CompileError α) = some e := rfl

@[simp] theorem failure?_ok (a : α) : failure? (.ok a : Except CompileError α) = none := rfl

@[simp] theorem failure?_pure (a : α) : failure? (pure a : Except CompileError α) = none := rfl

theorem failure?_eq_some {x : Except CompileError α} {e : CompileError} :
    failure? x = some e ↔ x = .error e := by
  cases x with
  | error e' => simp
  | ok a => simp

theorem failure?_eq_none {x : Except CompileError α} : failure? x = none ↔ ∃ a, x = .ok a := by
  cases x with
  | error e => simp
  | ok a => simp

/-- The first of two steps that fails gives the error. -/
theorem failure?_bind {x : Except CompileError α} {f : α → Except CompileError β}
    {later : Option CompileError} (step : ∀ a, x = .ok a → failure? (f a) = later) :
    failure? (x >>= f) = (failure? x).or later := by
  cases x with
  | error e => rfl
  | ok a => exact step a rfl

/-- Outcomes with the same error, or with any results. -/
theorem Agree.of_failure? {x : Except CompileError α} {y : Except CompileError β}
    (h : failure? x = failure? y) : Agree (fun _ _ => True) x y := by
  have hforget : x.map (fun _ => ()) = y.map (fun _ => ()) := by
    cases x <;> cases y <;> simp_all [Except.map]
  exact (Agree.of_map_eq hforget).mono fun _ _ _ => trivial

end SurrealQuery
