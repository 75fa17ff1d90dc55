import TypedRows.Entity
import TypedRows.Expr.Compile

namespace TypedRows

-- Queries over the records of one entity. Each call gives a new query and leaves the
-- old one as it was.

structure SortKey where
  column : String
  ascending : Bool
deriving DecidableEq

structure Query (ρ : Type) where
  entity : Entity ρ
  predicate : Option Expr
  orderings : List SortKey
  limit : Option UInt64
  offset : Option UInt64
  eager : Bool

namespace Query

variable {ρ : Type}

def all (e : Entity ρ) : Query ρ :=
  { entity := e, predicate := none, orderings := [], limit := none, offset := none, eager := false }

def table (q : Query ρ) : String := q.entity.table

def isPaged (q : Query ρ) : Bool := q.limit.isSome || q.offset.isSome

def narrowed (predicate : Expr) (q : Query ρ) : Query ρ :=
  match q.predicate with
  | some existing => {q with predicate := some (.binary .and existing predicate)}
  | none => {q with predicate := some predicate}

-- A condition is tested before paging, so it cannot be added after it.
def filter (predicate : Expr) (q : Query ρ) : Except Error (Query ρ) :=
  if q.isPaged then .error (.unsupported (.filterAfterPaging q.table))
  else .ok (q.narrowed predicate)

def skip (n : UInt64) (q : Query ρ) : Query ρ := {q with offset := some n}

def take (n : UInt64) (q : Query ρ) : Query ρ := {q with limit := some n}

def sorted (key : Expr) (ascending : Bool) (q : Query ρ) : Except Error (Query ρ) := do
  let column ← q.entity.mapping.orderingColumn key
  return {q with orderings := q.orderings ++ [⟨column,ascending⟩]}

def orderBy (key : Expr) (q : Query ρ) : Except Error (Query ρ) := q.sorted key true

def orderByDescending (key : Expr) (q : Query ρ) : Except Error (Query ρ) := q.sorted key false

def thenBy (key : Expr) (q : Query ρ) : Except Error (Query ρ) := q.sorted key true

def thenByDescending (key : Expr) (q : Query ρ) : Except Error (Query ρ) := q.sorted key false

def readEagerly (q : Query ρ) : Query ρ := {q with eager := true}

def deferred (q : Query ρ) : Query ρ := {q with eager := false}

def join {ρ' : Type} (q : Query ρ) (other : Query ρ') : Except Error (Query ρ) :=
  .error (.unsupported (.join q.table other.table))

end Query

end TypedRows
