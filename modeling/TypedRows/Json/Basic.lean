import TypedRows.Fields
import TypedRows.Number.Double

namespace TypedRows

-- Documents. A number is a whole number between the least 64-bit integer and the
-- greatest unsigned one, or a finite double.
inductive JsonNumber where
  | integer (n : Int)
  | double (x : Double)

inductive Json where
  | null
  | bool (b : Bool)
  | number (n : JsonNumber)
  | string (s : String)
  | array (items : List Json)
  | object (fields : List (String × Json))

end TypedRows
