import TypedRows.Engine

namespace TypedRows

-- An engine that gives the same reply to everything and remembers what it was asked.
inductive Call where
  | execute (text : String) (args : List Value)
  | select (text : String) (args : List Value)
  | lastInsertRowid

structure Reply where
  affected : Nat
  results : ResultSet
  rowid : Int64
  failure : Option String

def Reply.toStatement {α : Type} (r : Reply) (call : Call) (answer : α) : Step (List Call) α := do
  modify (· ++ [call])
  match r.failure with
  | some detail => throw (.execution detail)
  | none => return answer

def Engine.scripted (r : Reply) : Engine (List Call) where
  execute text args := r.toStatement (.execute text args) r.affected
  select text args := r.toStatement (.select text args) r.results
  lastInsertRowid := do
    modify (· ++ [.lastInsertRowid])
    return r.rowid

end TypedRows
