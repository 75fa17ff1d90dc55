import TypedRows.Mapping
import TypedRows.Rows

namespace TypedRows

-- A record type that lives in one table. `encode` gives one value for each column, in
-- the order of the columns.
structure Entity (ρ : Type) where
  mapping : Mapping
  decode : Row → Except Error ρ
  encode : ρ → List Value

def Column.read (column : Column) (row : Row) : Except Error Value := do
  (← row.require column.name).coerce column.type

def readColumns (row : Row) : List Column → Except Error (List Value)
  | [] => .ok []
  | column :: rest => do
      let v ← column.read row
      return v :: (← readColumns row rest)

def Mapping.valuesEntity (m : Mapping) : Entity (List Value) where
  mapping := m
  decode row := readColumns row m.columns
  encode values := values

namespace Entity

def table {ρ : Type} (e : Entity ρ) : String := e.mapping.table

def values {ρ : Type} (e : Entity ρ) (record : ρ) : Except Error (List Value) :=
  let vs := e.encode record
  if vs.length = e.mapping.columns.length then .ok vs
  else .error (.conversion (.recordLength e.table e.mapping.columns.length vs.length))

def decodeAll {ρ : Type} (e : Entity ρ) : List Row → Except Error (List ρ)
  | [] => .ok []
  | row :: rest => do
      let record ← e.decode row
      return record :: (← e.decodeAll rest)

end Entity

end TypedRows
