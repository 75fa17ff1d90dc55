import TypedRows.Engine
import TypedRows.Query.Text

namespace TypedRows.Query

-- A query is compiled first; nothing reaches the engine when that fails.

variable {σ ρ : Type}

def count (engine : Engine σ) (q : Query ρ) : Step σ Int64 := do
  let statement ← Step.ofExcept (q.render "count(*)")
  match ← engine.scalar statement.text statement.args with
  | .null => return 0
  | v =>
      match v.asInt with
      | some n => return n
      | none => throw (.conversion (.countResult v))

def countWhere (engine : Engine σ) (predicate : Expr) (q : Query ρ) : Step σ Int64 := do
  (← Step.ofExcept (q.filter predicate)).count engine

def toList (engine : Engine σ) (q : Query ρ) : Step σ (List ρ) := do
  let statement ← Step.ofExcept q.statement
  let rs ← engine.select statement.text statement.args
  Step.ofExcept (q.entity.decodeAll rs.rows)

def single (q : Query ρ) : Query ρ :=
  q.take (match q.limit with
    | some n => if n < 1 then n else 1
    | none => 1)

def firstOrDefault (engine : Engine σ) (q : Query ρ) : Step σ (Option ρ) := do
  return (← q.single.toList engine).head?

def first (engine : Engine σ) (q : Query ρ) : Step σ ρ := do
  match ← q.firstOrDefault engine with
  | some record => return record
  | none => throw (.notFound (.row q.table))

-- The position takes the place of any paging that the query had before.
def elementAt (engine : Engine σ) (index : UInt64) (q : Query ρ) : Step σ ρ :=
  ((q.skip index).take 1).first engine

-- The condition of a delete: never the whole table, never a page of it.
def deletion (extra : Option Expr) (q : Query ρ) : Except Error Expr := do
  if q.isPaged then throw (.unsupported (.pagedDelete q.table))
  let narrow ← match extra with
    | some predicate => q.filter predicate
    | none => .ok q
  match narrow.predicate with
  | some predicate => return predicate
  | none => throw (.unsupported (.deleteWithoutPredicate q.table))

def delete (engine : Engine σ) (extra : Option Expr) (q : Query ρ) : Step σ Nat := do
  let predicate ← Step.ofExcept (q.deletion extra)
  let condition ← Step.ofExcept (q.entity.mapping.condition predicate)
  engine.execute ("delete from " ++ quotedName q.table ++ " where " ++ condition.text) condition.args

end TypedRows.Query
