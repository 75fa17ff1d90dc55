import TypedRows.Database.Handle
import TypedRows.Query.Cursor

namespace TypedRows

structure PreparedQuery (ρ : Type) where
  decode : Row → Except Error ρ
  prepared : Sql.Prepared
  args : List Stored
  eager : Bool

def streamOf (scan : Sql.Scan) : Stream :=
  { names := scan.names
    rows := scan.rows.map fun row => .ok (row.map fun d => d.stored.value)
    failure := scan.failure.map .engine }

variable {ρ : Type}

def Query.prepare (q : Query ρ) : Step Database (PreparedQuery ρ) := do
  let statement ← Step.ofExcept q.statement
  let prepared ← Database.step (Database.prepare statement.text)
  return { decode := q.entity.decode, prepared, args := statement.args.map Value.stored
           eager := q.eager }

def PreparedQuery.iterate (p : PreparedQuery ρ) : Step Database (Cursor ρ) := do
  let scan ← Database.step (Database.run p.prepared (p.args.map .ofStored))
  Step.ofExcept ((streamOf scan).cursor p.decode p.eager)

end TypedRows
