import TypedRows.Json.Basic
import TypedRows.Timestamp.Basic

namespace TypedRows

inductive Value where
  | int (n : Int64)
  | float (x : Double)
  | text (s : String)
  | bool (b : Bool)
  | timestamp (t : Timestamp)
  | null
  | json (j : Json)
  | blob (bytes : ByteArray)

inductive ValueType where
  | integer
  | real
  | text
  | bool
  | timestamp
  | blob
deriving DecidableEq

namespace Value

def isNull : Value → Bool
  | .null => true
  | _ => false

def ofBool (b : Bool) : Int64 := if b then 1 else 0

def asInt : Value → Option Int64
  | .int n => some n
  | .bool b => some (ofBool b)
  | _ => none

def asText : Value → Option String
  | .text s => some s
  | _ => none

def asBool : Value → Option Bool
  | .bool b => some b
  | .int n => if n = 1 then some true else if n = 0 then some false else none
  | _ => none

def asFloat : Value → Option Double
  | .float x => some x
  | .int n => some (Double.ofInt n.toInt)
  | _ => none

def asBlob : Value → Option ByteArray
  | .blob bytes => some bytes
  | _ => none

end Value

end TypedRows
