import TypedRows.Error

namespace TypedRows

-- A step gives an answer or fails, and leaves a new state behind in both cases.
abbrev Step (σ α : Type) := ExceptT Error (StateM σ) α

-- Work that a caller hands over can also break off without an error of its own.
inductive Halt where
  | failed (e : Error)
  | panicked

abbrev Action (σ α : Type) := ExceptT Halt (StateM σ) α

namespace Step

variable {σ τ α : Type}

def runFrom (step : Step σ α) (s : σ) : Except Error α × σ := step.run s

def ofExcept (outcome : Except Error α) : Step σ α := fun s => (outcome,s)

def action (step : Step σ α) : Action σ α := fun s =>
  match step.runFrom s with
  | (.ok a,s) => (.ok a,s)
  | (.error e,s) => (.error (.failed e),s)

def on (part : σ → τ) (put : τ → σ → σ) (step : Step τ α) : Step σ α := fun s =>
  let (outcome,t) := step.runFrom (part s)
  (outcome,put t s)

end Step

def Action.runFrom {σ α : Type} (action : Action σ α) (s : σ) : Except Halt α × σ := action.run s

end TypedRows
