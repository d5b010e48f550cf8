import ClusterCost.Halt

/-!
# Outcomes of composed steps

A step that follows another one runs only where the first succeeds; otherwise the first error is the outcome. Two runs
are `Alike` if they fail with the same error, or succeed with related values; composed steps keep that.
-/
namespace ClusterCost

variable {ε α β : Type} {step : Except ε α} {next : α → Except ε β}

/-- Two steps succeed exactly if the first one does and the second one does on its value. -/
theorem bind_eq_ok {value : β} : (step >>= next) = .ok value ↔ ∃ a, step = .ok a ∧ next a = .ok value := by
  cases step <;> simp [bind, Except.bind]

/-- Two steps fail with the error of the first one, or with that of the second one if the first one succeeds. -/
theorem bind_eq_error {error : ε} :
    (step >>= next) = .error error ↔ step = .error error ∨ ∃ a, step = .ok a ∧ next a = .error error := by
  cases step <;> simp [bind, Except.bind]

theorem map_eq_ok {f : α → β} {value : β} : step.map f = .ok value ↔ ∃ a, step = .ok a ∧ f a = value := by
  cases step <;> simp [Except.map]

theorem map_eq_error {f : α → β} {error : ε} : step.map f = .error error ↔ step = .error error := by
  cases step <;> simp [Except.map]

theorem mapError_eq_ok {ε' : Type} {f : ε → ε'} {a : α} : step.mapError f = .ok a ↔ step = .ok a := by
  cases step with
  | ok value =>
    change Except.ok value = Except.ok a ↔ _
    simp
  | error e =>
    change Except.error (f e) = Except.ok a ↔ _
    simp

theorem mapError_eq_error {ε' : Type} {f : ε → ε'} {error : ε'} :
    step.mapError f = .error error ↔ ∃ e, step = .error e ∧ f e = error := by
  cases step with
  | ok value =>
    change Except.ok value = Except.error error ↔ _
    simp
  | error e =>
    change Except.error (f e) = Except.error error ↔ _
    simp

/-- Where all errors become one, that one is the outcome exactly if there is no success. -/
theorem mapError_const_eq_error {ε' : Type} {e error : ε'} :
    (step.mapError fun _ => e) = .error error ↔ error = e ∧ ∀ a, ¬step = .ok a := by
  cases step with
  | ok value =>
    change Except.ok value = Except.error error ↔ _
    simp
  | error _ =>
    change Except.error e = Except.error error ↔ _
    simp [eq_comm]

theorem mapError_bind {ε' : Type} {f : ε → ε'} :
    (step >>= next).mapError f = step.mapError f >>= fun a => (next a).mapError f := by
  cases step with
  | ok a => rfl
  | error e => rfl

@[simp] theorem Halt.map_eq_aborted {ε' : Type} {f : ε → ε'} {halt : Halt ε} : halt.map f = .aborted ↔ halt = .aborted := by
  cases halt <;> simp [Halt.map]

/-- Two outcomes that agree on success: the same error, or two values that are related. -/
inductive Alike (related : α → β → Prop) : Except ε α → Except ε β → Prop where
  | error (e : ε) : Alike related (.error e) (.error e)
  | ok {a : α} {b : β} (values : related a b) : Alike related (.ok a) (.ok b)

/-- If two first steps are alike, and the second ones are on all related values, then so is one after the other. -/
theorem Alike.bind {γ δ : Type} {related : α → β → Prop} {related' : γ → δ → Prop} {first : Except ε α}
    {first' : Except ε β} {next : α → Except ε γ} {next' : β → Except ε δ} (firsts : Alike related first first')
    (nexts : ∀ a b, related a b → Alike related' (next a) (next' b)) :
    Alike related' (first >>= next) (first' >>= next') := by
  cases firsts with
  | error e => exact .error e
  | ok values => exact nexts _ _ values

end ClusterCost
