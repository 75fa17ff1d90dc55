import TypedRows.Value.Basic
import TypedRows.Json.Text
import TypedRows.Number.Reading
import TypedRows.Timestamp.Text

namespace TypedRows

-- Conversion of a value to a type. `none` says that the value has no form in the
-- type; null has one in every type.

def plainDouble : DoubleStyle := ⟨.up,none,false,false,"NaN","inf"⟩

def readInt64 (cs : List Char) : Option Int64 :=
  match Text.readSigned (Text.trim cs) with
  | some n =>
      if Int64.minValue.toInt ≤ n ∧ n ≤ Int64.maxValue.toInt then some (Int64.ofInt n) else none
  | none => none

def readBool (cs : List Char) : Option Bool :=
  let word := (Text.trim cs).map Text.lowerAscii
  if word = "true".toList then some true
  else if word = "false".toList then some false
  else none

namespace Value

def asTimestamp : Value → Option Timestamp
  | .timestamp t => some t
  | .text s => readTimestamp s.toList
  | _ => none

def toInteger : Value → Option Value
  | .int n => some (.int n)
  | .bool b => some (.int (ofBool b))
  | .float x => some (.int x.toInt64)
  | .text s => (readInt64 s.toList).map .int
  | _ => none

def toReal : Value → Option Value
  | .text s => (readDouble (Text.trim s.toList)).map .float
  | .bool b => some (.float (if b then Double.one else Double.zero false))
  | v => v.asFloat.map .float

def toBool : Value → Option Value
  | .bool b => some (.bool b)
  | .int n => some (.bool (n != 0))
  | .float x => some (.bool !x.isZero)
  | .text s => (readBool s.toList).map .bool
  | _ => none

def toText : Value → Option Value
  | .text s => some (.text s)
  | .int n => some (.text (String.ofList (Text.signed n.toInt)))
  | .float x => some (.text (plainDouble.text x))
  | .bool b => some (.text (if b then "true" else "false"))
  | .timestamp t => some (.text (t.text ' '))
  | .json j => some (.text j.text)
  | _ => none

def toBlob : Value → Option Value
  | .blob bytes => some (.blob bytes)
  | .text s => some (.blob s.toUTF8)
  | _ => none

def convert (v : Value) (target : ValueType) : Option Value :=
  if v.isNull then some .null
  else match target with
    | .integer => v.toInteger
    | .real => v.toReal
    | .text => v.toText
    | .bool => v.toBool
    | .timestamp => v.asTimestamp.map .timestamp
    | .blob => v.toBlob

end Value

end TypedRows
