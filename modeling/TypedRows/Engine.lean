import TypedRows.Rows
import TypedRows.Step

namespace TypedRows

-- What runs statements. Queries and records know nothing else about a database.
structure Engine (σ : Type) where
  execute : String → List Value → Step σ Nat
  select : String → List Value → Step σ ResultSet
  lastInsertRowid : StateM σ Int64

def Engine.scalar {σ : Type} (engine : Engine σ) (text : String) (args : List Value) :
    Step σ Value := do
  return (← engine.select text args).scalar

def Engine.on {σ τ : Type} (part : σ → τ) (put : τ → σ → σ) (engine : Engine τ) : Engine σ where
  execute text args := (engine.execute text args).on part put
  select text args := (engine.select text args).on part put
  lastInsertRowid := fun s =>
    let (id,t) := engine.lastInsertRowid.run (part s)
    (id,put t s)

end TypedRows
