import TypedRows.Sql.Datum

namespace TypedRows.Sql

-- Expressions of the statement language, as they are written.

inductive TermOp where
  | or | and
  | eq | ne
  | lt | le | gt | ge
  | bitAnd | bitOr
  | add | subtract
  | concat
deriving DecidableEq

namespace TermOp

def isComparison : TermOp → Bool
  | .eq => true
  | .ne => true
  | .lt => true
  | .le => true
  | .gt => true
  | .ge => true
  | _ => false

end TermOp

-- A name in double quotes that no column has stands for its own text. Membership in an
-- empty list is a truth value as soon as it is read.
inductive Term where
  | literal (d : Datum)
  | truth (b : Bool)
  | parameter (index : Nat)
  | column (quoted : Bool) (name : String)
  | not (t : Term)
  | negate (t : Term)
  | plain (t : Term)
  | binary (op : TermOp) (left right : Term)
  | is (negated : Bool) (left right : Term)
  | among (item : Term) (choices : List Term)
  | amongRows (item : Term) (table : String)
  | call (name : String) (args : List Term)
  | countRows (name : String)
  | row (items : List Term)

namespace Term

def isRow : Term → Bool
  | .row _ => true
  | _ => false

def width : Term → Nat
  | .row items => items.length
  | _ => 1

def isFalse : Term → Bool
  | .truth b => !b
  | .literal (.integer n) => n == 0
  | _ => false

def isConstant : Term → Bool
  | .literal _ => true
  | .truth _ => true
  | .parameter _ => true
  | _ => false

end Term

structure SelectItem where
  term : Term
  source : String

structure OrderItem where
  term : Term
  descending : Bool

structure Selection where
  items : List SelectItem
  table : Option String
  condition : Option Term
  order : List OrderItem
  limit : Option Term
  offset : Option Term

structure ColumnDefinition where
  name : String
  type : String
  primaryKey : Bool
  autoIncrement : Bool
  notNull : Bool

inductive Command where
  | empty
  | begin
  | commit
  | rollback
  | savepoint (name : String)
  | release (name : String)
  | rollbackTo (name : String)
  | createTable (written : String) (name : String) (columns : List ColumnDefinition)
  | select (s : Selection)
  | insert (table : String) (columns : List String) (rows : List (List Term))
  | insertDefaults (table : String)
  | update (table : String) (assignments : List (String × Term)) (condition : Option Term)
  | delete (table : String) (condition : Option Term)

end TypedRows.Sql
