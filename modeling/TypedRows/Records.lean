import TypedRows.Query.Run

namespace TypedRows.Entity

-- Work on single records by their primary key.

variable {σ ρ : Type}

def keyColumn (e : Entity ρ) (action : KeyAction) : Except Error Column :=
  match e.mapping.primaryKey? with
  | some column => .ok column
  | none => .error (.unsupported (.noPrimaryKey action e.table))

def keyTest (column : Column) (key : Value) : Expr :=
  .binary .eq (.field column.property) (.value key)

def find (engine : Engine σ) (e : Entity ρ) (key : Value) : Step σ (Option ρ) := do
  let column ← Step.ofExcept (e.keyColumn .find)
  let q ← Step.ofExcept ((Query.all e).filter (keyTest column key))
  q.firstOrDefault engine

def get (engine : Engine σ) (e : Entity ρ) (key : Value) : Step σ ρ := do
  match ← e.find engine key with
  | some record => return record
  | none => throw (.notFound (.key e.table key))

def written (e : Entity ρ) (values : List Value) : List (Column × Value) :=
  e.mapping.insertColumns.map fun entry => (entry.2,values.getD entry.1 .null)

def insertText (table : String) (names : List String) : String :=
  if names.isEmpty then "insert into " ++ quotedName table ++ " default values"
  else "insert into " ++ quotedName table ++ " (" ++ ", ".intercalate (names.map quotedName) ++
    ") values (" ++ ", ".intercalate (names.map fun _ => "?") ++ ")"

def insert (engine : Engine σ) (e : Entity ρ) (record : ρ) : Step σ Int64 := do
  let values ← Step.ofExcept (e.values record)
  let entries := e.written values
  let text := insertText e.table (entries.map fun entry => entry.1.name)
  let _ ← engine.execute text (entries.map Prod.snd)
  (engine.lastInsertRowid : StateM σ Int64)

-- The value of the last key column.
def keyValue (entries : List (Column × Value)) : Value :=
  ((entries.filter fun entry => entry.1.primaryKey).getLast?.map Prod.snd).getD .null

def update (engine : Engine σ) (e : Entity ρ) (record : ρ) : Step σ Nat := do
  let column ← Step.ofExcept (e.keyColumn .update)
  let values ← Step.ofExcept (e.values record)
  let entries := e.mapping.columns.zip values
  let plain := entries.filter fun entry => !entry.1.primaryKey
  if plain.isEmpty then return 0
  let assignments := plain.map fun entry => quotedName entry.1.name ++ " = ?"
  engine.execute
    ("update " ++ quotedName e.table ++ " set " ++ ", ".intercalate assignments ++ " where " ++
      quotedName column.name ++ " = ?")
    (plain.map Prod.snd ++ [keyValue entries])

def deleteRecord (engine : Engine σ) (e : Entity ρ) (record : ρ) : Step σ Nat := do
  let column ← Step.ofExcept (e.keyColumn .delete)
  let values ← Step.ofExcept (e.values record)
  let entries := e.mapping.columns.zip values
  let key := ((entries.find? fun entry => entry.1.primaryKey).map Prod.snd).getD .null
  (Query.all e).delete engine (some (keyTest column key))

def deleteAll (engine : Engine σ) (e : Entity ρ) : Step σ Nat :=
  engine.execute ("delete from " ++ quotedName e.table) []

end TypedRows.Entity
