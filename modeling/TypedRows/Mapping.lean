import TypedRows.Value.Basic

namespace TypedRows

-- How the fields of a record lie in the columns of one table.

structure Column where
  property : String
  name : String
  type : ValueType
  nullable : Bool
  primaryKey : Bool
  autoIncrement : Bool
deriving DecidableEq

structure Mapping where
  table : String
  columns : List Column
deriving DecidableEq

namespace Column

def new (property : String) (type : ValueType) : Column :=
  { property, name := property, type, nullable := true, primaryKey := false,
    autoIncrement := false }

def named (name : String) (c : Column) : Column := {c with name}

def notNull (c : Column) : Column := {c with nullable := false}

def key (c : Column) : Column := {c with primaryKey := true, nullable := false}

def counted (c : Column) : Column := {c with autoIncrement := true}

-- The database chooses these values itself.
def isGenerated (c : Column) : Bool := c.primaryKey && c.autoIncrement

end Column

def doubledQuotes : List Char → List Char
  | [] => []
  | c :: rest => if c = '"' then '"' :: '"' :: doubledQuotes rest else c :: doubledQuotes rest

def quotedName (name : String) : String :=
  String.ofList ('"' :: doubledQuotes name.toList ++ ['"'])

namespace Mapping

-- The first column wins where a property or a name occurs twice.
def byProperty? (m : Mapping) (property : String) : Option Column :=
  m.columns.find? fun c => c.property = property

def byName? (m : Mapping) (name : String) : Option Column :=
  m.columns.find? fun c => c.name = name

def primaryKey? (m : Mapping) : Option Column := m.columns.find? Column.primaryKey

def insertColumns (m : Mapping) : List (Nat × Column) :=
  (m.columns.zipIdx.map fun entry => (entry.2,entry.1)).filter fun entry =>
    !entry.2.isGenerated

def selectList (m : Mapping) : String :=
  ", ".intercalate (m.columns.map fun c => quotedName c.name)

end Mapping

def ValueType.columnType : ValueType → String
  | .integer => "integer"
  | .real => "real"
  | .text => "text"
  | .bool => "integer"
  | .timestamp => "text"
  | .blob => "blob"

def Column.definition (c : Column) : String :=
  quotedName c.name ++ " " ++ c.type.columnType ++
    (if c.primaryKey then (if c.autoIncrement then " primary key autoincrement" else " primary key")
      else "") ++
    (if c.nullable then "" else " not null")

def Mapping.creation (m : Mapping) : String :=
  "create table " ++ quotedName m.table ++ " (" ++
    ", ".intercalate (m.columns.map Column.definition) ++ ")"

end TypedRows
