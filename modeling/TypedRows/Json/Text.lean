import TypedRows.Json.Basic
import TypedRows.Number.Shortest
import TypedRows.Text.Quoted

namespace TypedRows

-- The compact form of a document, and its form in diagnostics.

-- Doubles in documents keep a point or an exponent, so that they read back as doubles.
def documentDouble : DoubleStyle := ⟨.even,some (-5,15),true,true,"null","null"⟩

def JsonNumber.text : JsonNumber → String
  | .integer n => String.ofList (Text.signed n)
  | .double x => documentDouble.text x

def escapedChar (c : Char) : List Char :=
  if c = '"' then ['\\','"']
  else if c = '\\' then ['\\','\\']
  else if c = '\n' then ['\\','n']
  else if c = '\r' then ['\\','r']
  else if c = '\t' then ['\\','t']
  else if c.toNat = 8 then ['\\','b']
  else if c.toNat = 12 then ['\\','f']
  else if c.toNat < 32 then
    ['\\','u','0','0'] ++
      (if c.toNat < 16 then '0' :: Text.hexadecimal c.toNat else Text.hexadecimal c.toNat)
  else [c]

def escapedText (s : String) : String :=
  "\"" ++ String.ofList (s.toList.flatMap escapedChar) ++ "\""

mutual

def Json.text : Json → String
  | .null => "null"
  | .bool b => if b then "true" else "false"
  | .number n => n.text
  | .string s => escapedText s
  | .array items => "[" ++ ",".intercalate (Json.itemTexts items) ++ "]"
  | .object fields => "\x7b" ++ ",".intercalate (Json.fieldTexts fields) ++ "\x7d"

def Json.itemTexts : List Json → List String
  | [] => []
  | item :: rest => item.text :: Json.itemTexts rest

def Json.fieldTexts : List (String × Json) → List String
  | [] => []
  | (name,value) :: rest => (escapedText name ++ ":" ++ value.text) :: Json.fieldTexts rest

end

mutual

def Json.shown : Json → String
  | .null => "Null"
  | .bool b => "Bool(" ++ (if b then "true" else "false") ++ ")"
  | .number n => "Number(" ++ n.text ++ ")"
  | .string s => "String(" ++ Text.quoted s ++ ")"
  | .array items => "Array [" ++ ", ".intercalate (Json.itemsShown items) ++ "]"
  | .object fields => "Object \x7b" ++ ", ".intercalate (Json.fieldsShown fields) ++ "\x7d"

def Json.itemsShown : List Json → List String
  | [] => []
  | item :: rest => item.shown :: Json.itemsShown rest

def Json.fieldsShown : List (String × Json) → List String
  | [] => []
  | (name,value) :: rest =>
      (Text.quoted name ++ ": " ++ value.shown) :: Json.fieldsShown rest

end

end TypedRows
