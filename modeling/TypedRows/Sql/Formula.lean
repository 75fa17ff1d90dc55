import TypedRows.Sql.Function
import TypedRows.Sql.Table

namespace TypedRows.Sql

-- Expressions whose names have been looked up: columns by position, functions as such,
-- parameters as the values that are bound to them.

structure Field where
  column : Option Nat
  affinity : Affinity
deriving DecidableEq

def Field.rowId : Field := ⟨none,.integer⟩

-- `fixed` is a column that is known to equal a value. `amongRows` looks for its operands
-- in the rows of a table, whose columns come with their types.
inductive Formula where
  | literal (d : Datum)
  | argument (d : Datum)
  | truth (b : Bool)
  | field (f : Field)
  | fixed (f : Field) (value : Formula)
  | not (x : Formula)
  | negate (x : Formula)
  | plain (x : Formula)
  | binary (op : TermOp) (left right : Formula)
  | is (negated : Bool) (left right : Formula)
  | among (item : Formula) (choices : List Formula)
  | amongRows (items : List Formula) (affinities : List Affinity) (rows : List (List Datum))
  | apply (f : Function) (args : List Formula)
  | row (items : List Formula)

structure Scope where
  contents : Contents
  table : Option Table
  arguments : List Datum

def Scope.fixed (arguments : List Datum) : Scope := ⟨[],none,arguments⟩

inductive Reference where
  | field (f : Field)
  | text (s : String)
  | unknown

def Table.field (t : Table) (i : Nat) : Field :=
  if t.rowKey = some i then .rowId
  else ⟨some i,((t.columns[i]?).map TableColumn.affinity).getD .blob⟩

-- Columns come first, then the names of the row id.
def reference (table : Option Table) (quoted : Bool) (name : String) : Reference :=
  match table.bind fun t => (t.position? name).map t.field with
  | some f => .field f
  | none =>
      if table.any (·.isRowIdName name) then .field .rowId
      else if quoted then .text name
      else .unknown

def functionNamed (name : String) : Option (Function × List Nat) :=
  (functions.find? fun f => f.1 = lowerWord name).map Prod.snd

mutual

-- A term that is not well formed has no meaning of its own and counts as null.
def Term.formula (s : Scope) : Term → Formula
  | .literal d => .literal d
  | .truth b => .truth b
  | .parameter i => .argument ((s.arguments[i]?).getD .null)
  | .column quoted name =>
      match reference s.table quoted name with
      | .field f => .field f
      | .text text => .literal (.text (bytesOf text))
      | .unknown => .literal .null
  | .not t => .not (t.formula s)
  | .negate t => .negate (t.formula s)
  | .plain t => .plain (t.formula s)
  | .binary op left right => .binary op (left.formula s) (right.formula s)
  | .is negated left right => .is negated (left.formula s) (right.formula s)
  | .among item choices => .among (item.formula s) (Term.formulas s choices)
  | .amongRows item name =>
      let items := match item.formula s with
        | .row items => items
        | x => [x]
      match findTable name s.contents with
      | some t => .amongRows items (t.columns.map TableColumn.affinity) (t.rows.map TableRow.values)
      | none => .literal .null
  | .call name args =>
      match functionNamed name with
      | some (f,_) => .apply f (Term.formulas s args)
      | none => .literal .null
  | .countRows _ => .literal .null
  | .row items => .row (Term.formulas s items)

def Term.formulas (s : Scope) : List Term → List Formula
  | [] => []
  | t :: rest => t.formula s :: Term.formulas s rest

end

namespace Formula

def affinity : Formula → Option Affinity
  | .field f => some f.affinity
  | .fixed f _ => some f.affinity
  | _ => none

mutual

def readsRow : Formula → Bool
  | .field _ => true
  | .fixed _ value => value.readsRow
  | .not x => x.readsRow
  | .negate x => x.readsRow
  | .plain x => x.readsRow
  | .binary _ left right => left.readsRow || right.readsRow
  | .is _ left right => left.readsRow || right.readsRow
  | .among item choices => item.readsRow || anyReadsRow choices
  | .amongRows items _ _ => anyReadsRow items
  | .apply _ args => anyReadsRow args
  | .row items => anyReadsRow items
  | _ => false

def anyReadsRow : List Formula → Bool
  | [] => false
  | x :: rest => x.readsRow || anyReadsRow rest

end

mutual

def readsOnly (known : Field → Bool) : Formula → Bool
  | .field f => known f
  | .fixed f value => known f && value.readsOnly known
  | .not x => x.readsOnly known
  | .negate x => x.readsOnly known
  | .plain x => x.readsOnly known
  | .binary _ left right => left.readsOnly known && right.readsOnly known
  | .is _ left right => left.readsOnly known && right.readsOnly known
  | .among item choices => item.readsOnly known && allReadOnly known choices
  | .amongRows items _ _ => allReadOnly known items
  | .apply _ args => allReadOnly known args
  | .row items => allReadOnly known items
  | _ => true

def allReadOnly (known : Field → Bool) : List Formula → Bool
  | [] => true
  | x :: rest => x.readsOnly known && allReadOnly known rest

end

def conjuncts : Formula → List Formula
  | .binary .and left right => left.conjuncts ++ right.conjuncts
  | x => [x]

def disjuncts : Formula → List Formula
  | .binary .or left right => left.disjuncts ++ right.disjuncts
  | x => [x]

def isTrue : Formula → Bool
  | .truth b => b
  | .literal (.integer n) => n != 0
  | _ => false

def isFalse : Formula → Bool
  | .truth b => !b
  | .literal (.integer n) => n == 0
  | _ => false

-- Parts that are true or false at sight drop out of a test before it is made.
def simplified : Formula → Formula
  | .not x => .not x.simplified
  | .binary .and left right =>
      if left.simplified.isTrue || right.simplified.isFalse then right.simplified
      else if right.simplified.isTrue || left.simplified.isFalse then left.simplified
      else .binary .and left.simplified right.simplified
  | .binary .or left right =>
      if left.simplified.isTrue || right.simplified.isFalse then left.simplified
      else if right.simplified.isTrue || left.simplified.isFalse then right.simplified
      else .binary .or left.simplified right.simplified
  | x => x

end Formula

end TypedRows.Sql
