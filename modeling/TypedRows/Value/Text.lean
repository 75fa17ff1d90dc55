import TypedRows.Value.Basic
import TypedRows.Json.Text
import TypedRows.Timestamp.Text

namespace TypedRows

-- The form of values in diagnostics: the variant and its content.

def shownDouble : DoubleStyle := ⟨.up,some (-4,15),true,false,"NaN","inf"⟩

def shownBool (b : Bool) : String := if b then "true" else "false"

def shownInt (n : Int) : String := String.ofList (Text.signed n)

def shownNat (n : Nat) : String := String.ofList (Text.numeral n)

def shownList (items : List String) : String := "[" ++ ", ".intercalate items ++ "]"

def Value.shown : Value → String
  | .int n => "Int(" ++ shownInt n.toInt ++ ")"
  | .float x => "Float(" ++ shownDouble.text x ++ ")"
  | .text s => "Text(" ++ Text.quoted s ++ ")"
  | .bool b => "Bool(" ++ shownBool b ++ ")"
  | .timestamp t => "Timestamp(" ++ t.text 'T' ++ ")"
  | .null => "Null"
  | .json j => "Json(" ++ j.shown ++ ")"
  | .blob bytes =>
      "Blob(" ++ shownList (bytes.data.toList.map fun byte => shownNat byte.toNat) ++ ")"

def ValueType.shown : ValueType → String
  | .integer => "Integer"
  | .real => "Real"
  | .text => "Text"
  | .bool => "Bool"
  | .timestamp => "Timestamp"
  | .blob => "Blob"

def ValueType.all : List ValueType := [.integer,.real,.text,.bool,.timestamp,.blob]

def ValueType.named? (name : String) : Option ValueType :=
  ValueType.all.find? fun type => type.shown = name

end TypedRows
