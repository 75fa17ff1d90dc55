import TypedRows.Value.Basic
import TypedRows.Json.Text
import TypedRows.Timestamp.Text

namespace TypedRows

inductive Stored where
  | null
  | integer (n : Int64)
  | real (x : Double)
  | text (s : String)
  | blob (bytes : ByteArray)

def Value.stored : Value → Stored
  | .int n => .integer n
  | .float x => .real x
  | .text s => .text s
  | .bool b => .integer (Value.ofBool b)
  | .timestamp t => .text (t.text ' ')
  | .null => .null
  | .json j => .text j.text
  | .blob bytes => .blob bytes

def Stored.value : Stored → Value
  | .null => .null
  | .integer n => .int n
  | .real x => .float x
  | .text s => .text s
  | .blob bytes => .blob bytes

end TypedRows
