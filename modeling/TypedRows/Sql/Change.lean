import TypedRows.Sql.Select

namespace TypedRows.Sql

-- Statements that change tables. One that fails has changed nothing.

structure Changed where
  contents : Contents
  affected : Option Nat

-- The id of the last row inserted is kept apart: rows before the one that fails count.
structure Attempt where
  lastId : Option Int64
  outcome : Except EngineError Changed

def given (names : List String) (values : List Datum) (isMeant : String → Bool) : List Datum :=
  ((names.zip values).filter fun entry => isMeant entry.1).map Prod.snd

def valuesFor (t : Table) (names : List String) (values : List Datum) : List Datum :=
  t.columns.map fun column => ((given names values (sameName column.name)).head?).getD .null

def keyGiven (t : Table) (names : List String) (values : List Datum) : Option Datum :=
  (given names values t.isRowIdName).getLast?

def insertRow (scope : Scope) (names : List String) (t : Table) (row : List Term) :
    Except EngineError (Table × Int64) := do
  let values ← Formula.evalAll emptyRow (Term.formulas scope row)
  if names.isEmpty then t.insert (((t.rowKey.bind fun k => values[k]?)).getD .null) values
  else t.insert ((keyGiven t names values).getD .null) (valuesFor t names values)

def insertRows (scope : Scope) (names : List String) :
    Table → Option Int64 → List (List Term) → Option Int64 × Except EngineError Table
  | t, last, [] => (last,.ok t)
  | t, last, row :: rest =>
      match insertRow scope names t row with
      | .error e => (last,.error e)
      | .ok (t,id) => insertRows scope names t (some id) rest

def insertInto (contents : Contents) (t : Table) (arguments : List Datum) (names : List String)
    (rows : List (List Term)) : Attempt :=
  let (lastId,outcome) := insertRows ⟨contents,none,arguments⟩ names t none rows
  { lastId, outcome := outcome.map fun t => ⟨replaceTable t contents,some rows.length⟩ }

-- Whether a failing insertion takes back its own rows only: it has several, and a constraint
-- that it may break.
def isGuarded (t : Table) (names : List String) (rows : List (List Term)) : Bool :=
  let givesId := if names.isEmpty then t.rowKey.isSome else names.any t.isRowIdName
  2 ≤ rows.length &&
    (t.columns.any (fun column => column.notNull || column.unique) || givesId)

def insertDefaultsInto (contents : Contents) (t : Table) : Attempt :=
  match t.insert .null (t.columns.map fun _ => .null) with
  | .ok (t,id) => ⟨some id,.ok ⟨replaceTable t contents,some 1⟩⟩
  | .error e => ⟨none,.error e⟩

def rowsToChange (scope : Scope) (t : Table) (condition : Option Term) (deleting : Bool) :
    Except EngineError (List TableRow) :=
  let parts := conditionParts scope condition
  let request : Request :=
    { table := t, clauses := withDerived (parts.flatMap clausesOf), order := [], limit := none
      width := 0, covering := isCovering t parts, deleting }
  match request.visit request.plan with
  | ⟨_,some e⟩ => .error e
  | ⟨rows,none⟩ => .ok rows

def assigned (t : Table) (names : List String) (values old : List Datum) : List Datum :=
  (t.columns.zip old).map fun (column,d) =>
    ((given names values (sameName column.name)).getLast?).getD d

def changeRows (names : List String) (values : List Formula) :
    Table → List TableRow → Except EngineError Table
  | t, [] => .ok t
  | t, row :: rest => do
      let new ← Formula.evalAll row values
      let key := (keyGiven t names new).getD (.integer row.id)
      let t ← t.change row.id key (assigned t names new row.values)
      changeRows names values t rest

def updateIn (contents : Contents) (t : Table) (arguments : List Datum)
    (assignments : List (String × Term)) (condition : Option Term) :
    Except EngineError Changed := do
  let scope : Scope := ⟨contents,some t,arguments⟩
  let rows ← rowsToChange scope t condition false
  let values := Term.formulas scope (assignments.map Prod.snd)
  let t ← changeRows (assignments.map Prod.fst) values t rows
  return ⟨replaceTable t contents,some rows.length⟩

def deleteFrom (contents : Contents) (t : Table) (arguments : List Datum)
    (condition : Option Term) : Except EngineError Changed := do
  let rows ← rowsToChange ⟨contents,some t,arguments⟩ t condition true
  return ⟨replaceTable (rows.foldl (fun t row => t.remove row.id) t) contents,some rows.length⟩

-- An integer key is the row id itself, and every other key is unique.
def tableOf (name : String) (columns : List ColumnDefinition) : Table :=
  let isRowKey (c : ColumnDefinition) := c.primaryKey && c.type == "integer"
  { name
    columns := columns.map fun c =>
      { name := c.name, affinity := .ofType c.type, notNull := c.notNull && !isRowKey c
        unique := c.primaryKey && !isRowKey c }
    rowKey := columns.findIdx? isRowKey
    counts := columns.any ColumnDefinition.autoIncrement
    highest := 0
    rows := [] }

def columnFault (table : String) (seen : List String) (keyed : Bool) :
    List ColumnDefinition → Option EngineError
  | [] => none
  | c :: rest =>
      if greatestColumnCount ≤ seen.length then some (.tooManyColumns table)
      else if seen.any (sameName c.name) then some (.duplicateColumn c.name)
      else if c.primaryKey && keyed then some (.severalKeys table)
      else if c.autoIncrement && c.type != "integer" then some .autoIncrementType
      else columnFault table (c.name :: seen) (keyed || c.primaryKey) rest

def reservedStart : List Char := "sqlite_".toList

def creationFault (contents : Contents) (written name : String) (columns : List ColumnDefinition) :
    Option EngineError :=
  if reservedStart.isPrefixOf (lowerWord name).toList then some (.reservedName name)
  else if (findTable name contents).isSome then some (.tableExists written)
  else columnFault name [] false columns

end TypedRows.Sql
