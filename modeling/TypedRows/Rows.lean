import TypedRows.Error

namespace TypedRows

-- Rows of an answer, read by column name or by position.

structure Row where
  names : List String
  values : List Value

def lastIndexOf (name : String) : List String → Option Nat
  | [] => none
  | other :: rest =>
      match lastIndexOf name rest with
      | some i => some (i + 1)
      | none => if other = name then some 0 else none

namespace Row

def index? (row : Row) (name : String) : Option Nat := lastIndexOf name row.names

def at? (row : Row) (i : Nat) : Option Value := row.values[i]?

def get? (row : Row) (name : String) : Option Value := (row.index? name).bind row.at?

def require (row : Row) (name : String) : Except Error Value :=
  match row.get? name with
  | some v => .ok v
  | none => .error (.conversion (.missingColumn name))

end Row

-- `names` is unset until the first answer names its columns.
structure ResultSet where
  names : Option (List String)
  rows : List Row
  affected : Nat

namespace ResultSet

def empty : ResultSet := { names := none, rows := [], affected := 0 }

def setNames (names : List String) (rs : ResultSet) : ResultSet := {rs with names := some names}

def add (values : List Value) (rs : ResultSet) : ResultSet :=
  match rs.names with
  | none => rs
  | some names => {rs with rows := rs.rows ++ [⟨names,values⟩], affected := rs.affected + 1}

def size (rs : ResultSet) : Nat := rs.rows.length

def isEmpty (rs : ResultSet) : Bool := rs.rows.isEmpty

def scalar (rs : ResultSet) : Value := ((rs.rows.head?.bind fun row => row.at? 0)).getD .null

end ResultSet

end TypedRows
