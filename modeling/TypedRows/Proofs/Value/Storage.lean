import Mathlib.Data.List.Forall2
import TypedRows.Database.Handle
import TypedRows.Entity
import TypedRows.Proofs.Query.Rows
import TypedRows.Proofs.Steps
import TypedRows.Proofs.Timestamp.Rereading

namespace TypedRows

-- Records come back from a database as they were bound to a statement, as long as the columns
-- have names of their own and leap seconds end a minute.

-- The values that a column of each type is for. NaN is not one of them: a database keeps null
-- in its place.
inductive ValueType.Holds : ValueType → Value → Prop where
  | null (type : ValueType) : Holds type .null
  | int (n : Int64) : Holds .integer (.int n)
  | float {x : Double} : x.isNaN = false → Holds .real (.float x)
  | text (s : String) : Holds .text (.text s)
  | bool (b : Bool) : Holds .bool (.bool b)
  | timestamp (t : Timestamp) : Holds .timestamp (.timestamp t)
  | blob (bytes : ByteArray) : Holds .blob (.blob bytes)

namespace Value

variable {v : Value} {type : ValueType}

def carried : Value → Value
  | .timestamp t => .timestamp t.carried
  | v => v

theorem carried_eq_iff : v.carried = v ↔
    ∀ t, v = .timestamp t → 1000000000 ≤ t.nanosecond → t.second = 59 := by
  cases v with
  | timestamp t => simp [carried,Timestamp.carried_eq_iff]
  | _ => simp [carried]

end Value

end TypedRows
