import TypedRows.Step

namespace TypedRows

-- What a step built from smaller ones does from a given state.

section

variable {α γ : Type}

theorem bind_ok {first : Except Error α} {next : α → Except Error γ} {b : γ} :
    (first >>= next) = .ok b ↔ ∃ a, first = .ok a ∧ next a = .ok b := by
  cases first with
  | error cause => exact ⟨fun absurd => (by cases absurd),fun ⟨_,absurd,_⟩ => (by cases absurd)⟩
  | ok a => exact ⟨fun same => ⟨a,rfl,same⟩,fun ⟨_,found,same⟩ => (by cases found; exact same)⟩

theorem return_ok {outcome : Except Error α} {f : α → γ} {b : γ} :
    (do return f (← outcome)) = Except.ok (ε := Error) b ↔ ∃ a, outcome = .ok a ∧ f a = b := by
  rw [bind_ok]
  exact ⟨fun ⟨a,found,same⟩ => ⟨a,found,(by cases same; rfl)⟩,
    fun ⟨a,found,same⟩ => ⟨a,found,(by rw [← same]; rfl)⟩⟩

end

namespace Step

variable {σ α γ : Type}

@[simp] theorem runFrom_pure (a : α) (s : σ) : (pure a : Step σ α).runFrom s = (.ok a,s) := rfl

@[simp] theorem runFrom_throw (e : Error) (s : σ) :
    (throw e : Step σ α).runFrom s = (.error e,s) := rfl

@[simp] theorem runFrom_get (s : σ) : (get : Step σ σ).runFrom s = (.ok s,s) := rfl

@[simp] theorem runFrom_modify (change : σ → σ) (s : σ) :
    (modify change : Step σ Unit).runFrom s = (.ok (),change s) := rfl

@[simp] theorem runFrom_set (s' s : σ) : (set s' : Step σ PUnit).runFrom s = (.ok (),s') := rfl

@[simp] theorem runFrom_ofExcept (outcome : Except Error α) (s : σ) :
    (ofExcept outcome).runFrom s = (outcome,s) := rfl

@[simp] theorem runFrom_bind (first : Step σ α) (next : α → Step σ γ) (s : σ) :
    (first >>= next).runFrom s =
      match first.runFrom s with
      | (.ok a,s) => (next a).runFrom s
      | (.error e,s) => (.error e,s) := by
  show ((first.run >>= ExceptT.bindCont next : StateM σ (Except Error γ))) s = _
  change ExceptT.bindCont next (first.run s).1 (first.run s).2 = _
  unfold runFrom
  rcases first.run s with ⟨a | e,s'⟩ <;> rfl

@[simp] theorem runFrom_map (f : α → γ) (step : Step σ α) (s : σ) :
    (f <$> step).runFrom s = (((step.runFrom s).1).map f,(step.runFrom s).2) := by
  change (step >>= fun a => pure (f a)).runFrom s = _
  rw [runFrom_bind]
  rcases step.runFrom s with ⟨e | a,s'⟩ <;> rfl

@[simp] theorem runFrom_tryCatch (step : Step σ α) (handler : Error → Step σ α) (s : σ) :
    (tryCatch step handler : Step σ α).runFrom s =
      match step.runFrom s with
      | (.ok a,s) => (.ok a,s)
      | (.error e,s) => (handler e).runFrom s := by
  change ExceptT.tryCatch step handler s = _
  simp only [ExceptT.tryCatch,runFrom,ExceptT.run,ExceptT.mk,bind,StateT.bind]
  rcases step s with ⟨e | a,s'⟩ <;> rfl

theorem runFrom_bind_ok {first : Step σ α} {next : α → Step σ γ} {s s' : σ} {a : α}
    (ran : first.runFrom s = (.ok a,s')) : (first >>= next).runFrom s = (next a).runFrom s' := by
  rw [runFrom_bind,ran]

theorem runFrom_bind_error {first : Step σ α} {next : α → Step σ γ} {s s' : σ} {e : Error}
    (ran : first.runFrom s = (.error e,s')) : (first >>= next).runFrom s = (.error e,s') := by
  rw [runFrom_bind,ran]

end Step

namespace Action

variable {σ α γ : Type}

theorem ext {first second : Action σ α} (same : ∀ s, first.runFrom s = second.runFrom s) :
    first = second := funext same

@[simp] theorem runFrom_pure (a : α) (s : σ) : (pure a : Action σ α).runFrom s = (.ok a,s) := rfl

@[simp] theorem runFrom_bind (first : Action σ α) (next : α → Action σ γ) (s : σ) :
    (first >>= next).runFrom s =
      match first.runFrom s with
      | (.ok a,s) => (next a).runFrom s
      | (.error e,s) => (.error e,s) := by
  change ExceptT.bindCont next (first.run s).1 (first.run s).2 = _
  unfold runFrom
  rcases first.run s with ⟨a | e,s'⟩ <;> rfl

@[simp] theorem runFrom_action (step : Step σ α) (s : σ) :
    step.action.runFrom s =
      match step.runFrom s with
      | (.ok a,s) => (.ok a,s)
      | (.error e,s) => (.error (.failed e),s) := rfl

end Action

end TypedRows
