import TypedRows.Sql.Compare
import TypedRows.Sql.Reader

namespace TypedRows.Sql

-- Tables with their rows in the order of their row ids.

structure TableColumn where
  name : String
  affinity : Affinity
  notNull : Bool
  unique : Bool

structure TableRow where
  id : Int64
  values : List Datum

-- The column at `rowKey` is another name of the row id. `highest` is the largest id that
-- was ever in use; tables that count never use an id again.
structure Table where
  name : String
  columns : List TableColumn
  rowKey : Option Nat
  counts : Bool
  highest : Int64
  rows : List TableRow

abbrev Contents := List Table

def greatestColumnCount : Nat := 2000

def sameName (a b : String) : Bool := lowerWord a == lowerWord b

def findTable (name : String) (contents : Contents) : Option Table :=
  contents.find? fun table => sameName table.name name

def replaceTable (table : Table) : Contents → Contents
  | [] => []
  | other :: rest =>
      if sameName other.name table.name then table :: rest else other :: replaceTable table rest

namespace Table

def position? (t : Table) (name : String) : Option Nat :=
  t.columns.findIdx? fun column => sameName column.name name

def columnName (t : Table) (i : Nat) : String := ((t.columns[i]?).map TableColumn.name).getD ""

-- The row id has names of its own where no column has them.

def rowIdNames : List String := ["rowid","oid","_rowid_"]

def isRowIdName (t : Table) (name : String) : Bool :=
  match t.position? name with
  | some i => t.rowKey = some i
  | none => rowIdNames.contains (lowerWord name)

def hasName (t : Table) (name : String) : Bool :=
  (t.position? name).isSome || t.isRowIdName name

def rowIdName (t : Table) : String := (t.rowKey.map t.columnName).getD "rowid"

def middleId (t : Table) : Int64 :=
  let ids := (List.range (t.rows.length + 1)).map fun i => Int64.ofNat ((1 <<< 61) + i)
  ((ids.find? fun id => !t.rows.any (·.id == id))).getD 1

-- Larger than every id in use; the first is one. Once there is no larger one, a table that
-- counts is full, and others look for a gap.
def freshId (t : Table) : Except EngineError Int64 :=
  let last := (t.rows.getLast?).map TableRow.id
  if t.counts then
    let highest := max t.highest (last.getD 0)
    if highest = Int64.maxValue then .error .full else .ok (highest + 1)
  else
    match last with
    | none => .ok 1
    | some id => .ok (if id = Int64.maxValue then t.middleId else id + 1)

def placed (row : TableRow) : List TableRow → List TableRow
  | [] => [row]
  | other :: rest => if row.id < other.id then row :: other :: rest else other :: placed row rest

def idFrom (key : Datum) : Except EngineError Int64 :=
  match Affinity.store .integer key with
  | .integer n => .ok n
  | _ => .error .typeMismatch

def convertFrom (id : Int64) (rowKey : Option Nat) : Nat → List TableColumn → List Datum → List Datum
  | i, column :: columns, v :: values =>
      (if rowKey = some i then .integer id else column.affinity.store v) ::
        convertFrom id rowKey (i + 1) columns values
  | _, _, _ => []

def convert (t : Table) (id : Int64) (values : List Datum) : List Datum :=
  convertFrom id t.rowKey 0 t.columns values

def nullViolation (t : Table) (row : TableRow) : Option TableColumn :=
  ((t.columns.zip row.values).find? fun (column,v) => column.notNull && v == .null).map Prod.fst

def clashes (rows : List TableRow) (i : Nat) (v : Datum) : Bool :=
  v != .null && rows.any fun other => order ((other.values[i]?).getD .null) v == .eq

def uniqueViolation (t : Table) (row : TableRow) : Option String :=
  if t.rows.any fun other => other.id == row.id then some t.rowIdName
  else
    (((t.columns.zip row.values).zipIdx.find? fun ((column,v),i) =>
      column.unique && clashes t.rows i v)).map fun ((column,_),_) => column.name

def put (t : Table) (row : TableRow) : Except EngineError Table :=
  match t.nullViolation row with
  | some column => .error (.notNull t.name column.name)
  | none =>
      match t.uniqueViolation row with
      | some column => .error (.unique t.name column)
      | none => .ok {t with
          rows := placed row t.rows
          highest := if t.counts && t.highest < row.id then row.id else t.highest }

def insert (t : Table) (key : Datum) (values : List Datum) : Except EngineError (Table × Int64) := do
  let id ← if key = .null then t.freshId else idFrom key
  let t ← t.put ⟨id,t.convert id values⟩
  return (t,id)

def remove (t : Table) (id : Int64) : Table :=
  {t with rows := t.rows.filter fun row => row.id != id}

def change (t : Table) (id : Int64) (key : Datum) (values : List Datum) :
    Except EngineError Table := do
  let id' ← idFrom key
  (t.remove id).put ⟨id',t.convert id' values⟩

end Table

end TypedRows.Sql
