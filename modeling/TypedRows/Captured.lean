import TypedRows.Value.Text

namespace TypedRows

-- Values taken from outside a query: single values, lists, and objects read by field.
inductive Captured where
  | scalar (v : Value)
  | list (items : List Captured)
  | object (fields : List (String × Captured))

namespace Captured

def field? (name : String) : Captured → Option Captured
  | .object fields => Fields.get? name fields
  | _ => none

def asScalar : Captured → Option Value
  | .scalar v => some v
  | _ => none

def isNull : Captured → Bool
  | .scalar v => v.isNull
  | _ => false

def isList : Captured → Bool
  | .list _ => true
  | _ => false

def ofNumber : JsonNumber → Value
  | .integer n =>
      if Int64.minValue.toInt ≤ n ∧ n ≤ Int64.maxValue.toInt then .int (Int64.ofInt n)
      else .float (Double.ofInt n)
  | .double x => .float x

mutual

def ofJson : Json → Captured
  | .null => .scalar .null
  | .bool b => .scalar (.bool b)
  | .number n => .scalar (ofNumber n)
  | .string s => .scalar (.text s)
  | .array items => .list (ofItems items)
  | .object fields => .object (ofFields fields)

def ofItems : List Json → List Captured
  | [] => []
  | item :: rest => ofJson item :: ofItems rest

def ofFields : List (String × Json) → List (String × Captured)
  | [] => []
  | (name,value) :: rest => (name,ofJson value) :: ofFields rest

end

mutual

def shown : Captured → String
  | .scalar v => "Scalar(" ++ v.shown ++ ")"
  | .list items => "List(" ++ shownList (itemsShown items) ++ ")"
  | .object fields => "Object(\x7b" ++ ", ".intercalate (fieldsShown fields) ++ "\x7d)"

def itemsShown : List Captured → List String
  | [] => []
  | item :: rest => item.shown :: itemsShown rest

def fieldsShown : List (String × Captured) → List String
  | [] => []
  | (name,value) :: rest => (Text.quoted name ++ ": " ++ value.shown) :: fieldsShown rest

end

end Captured

inductive SourceKey where
  | text (s : String)
  | integer (n : Int)
  | bool (b : Bool)
  | compound

inductive Source where
  | unit
  | bool (b : Bool)
  | integer (n : Int)
  | double (x : Double)
  | text (s : String)
  | document (j : Json)
  | sequence (items : List Source)
  | entries (fields : List (SourceKey × Source))

inductive CaptureError where
  | numberOutOfRange
  | keyNotText

def CaptureError.message : CaptureError → String
  | .numberOutOfRange => "number out of range"
  | .keyNotText => "key must be a string"

def SourceKey.name : SourceKey → Except CaptureError String
  | .text s => .ok s
  | .integer n => .ok (shownInt n)
  | .bool b => .ok (shownBool b)
  | .compound => .error .keyNotText

namespace Source

mutual

-- NaN and the infinities have no form in a document and become null.
def json : Source → Except CaptureError Json
  | .unit => .ok .null
  | .bool b => .ok (.bool b)
  | .integer n =>
      if Int64.minValue.toInt ≤ n ∧ n < UInt64.size then .ok (.number (.integer n))
      else .error .numberOutOfRange
  | .double x =>
      match x.view with
      | .finite .. => .ok (.number (.double x))
      | _ => .ok .null
  | .text s => .ok (.string s)
  | .document j => .ok j
  | .sequence items => (jsonItems items).map .array
  | .entries fields => (jsonFields fields).map fun entries => .object (Fields.ofList entries)

def jsonItems : List Source → Except CaptureError (List Json)
  | [] => .ok []
  | item :: rest => do return (← json item) :: (← jsonItems rest)

def jsonFields : List (SourceKey × Source) → Except CaptureError (List (String × Json))
  | [] => .ok []
  | (key,value) :: rest => do
      let name ← key.name
      return (name,← json value) :: (← jsonFields rest)

end

end Source

end TypedRows
