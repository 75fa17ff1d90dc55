import TypedRows.Json.Number

namespace TypedRows

-- Reading a document from its text.

def skipSpaces (cs : List Char) : List Char :=
  cs.dropWhile fun c => c == ' ' || c == '\n' || c == '\t' || c == '\r'

def hexDigit (c : Char) : Option Nat :=
  if '0' ≤ c ∧ c ≤ '9' then some (c.toNat - '0'.toNat)
  else if 'a' ≤ c ∧ c ≤ 'f' then some (c.toNat - 'a'.toNat + 10)
  else if 'A' ≤ c ∧ c ≤ 'F' then some (c.toNat - 'A'.toNat + 10)
  else none

def hexUnit : List Char → Option (Nat × List Char)
  | a :: b :: c :: d :: rest => do
      let unit := (← hexDigit a) * 4096 + (← hexDigit b) * 256 + (← hexDigit c) * 16 + (← hexDigit d)
      return (unit,rest)
  | _ => none

-- Units outside the basic plane come in pairs; a unit of a pair does not stand alone.
def unicodeEscape (cs : List Char) : Option (Char × List Char) := do
  let (high,rest) ← hexUnit cs
  if 0xd800 ≤ high ∧ high < 0xdc00 then
    match rest with
    | '\\' :: 'u' :: rest => do
        let (low,rest) ← hexUnit rest
        if 0xdc00 ≤ low ∧ low < 0xe000 then
          return (Char.ofNat (0x10000 + (high - 0xd800) * 1024 + (low - 0xdc00)),rest)
        else none
    | _ => none
  else if 0xdc00 ≤ high ∧ high < 0xe000 then none
  else return (Char.ofNat high,rest)

def escapeChar : List Char → Option (Char × List Char)
  | '"' :: rest => some ('"',rest)
  | '\\' :: rest => some ('\\',rest)
  | '/' :: rest => some ('/',rest)
  | 'b' :: rest => some ('\x08',rest)
  | 'f' :: rest => some ('\x0c',rest)
  | 'n' :: rest => some ('\n',rest)
  | 'r' :: rest => some ('\r',rest)
  | 't' :: rest => some ('\t',rest)
  | 'u' :: rest => unicodeEscape rest
  | _ => none

def readQuoted : Nat → List Char → Option (List Char × List Char)
  | 0, _ => none
  | _ + 1, [] => none
  | fuel + 1, c :: rest =>
      if c = '"' then some ([],rest)
      else if c = '\\' then do
        let (escaped,rest) ← escapeChar rest
        let (text,rest) ← readQuoted fuel rest
        return (escaped :: text,rest)
      else if c.toNat < 32 then none
      else do
        let (text,rest) ← readQuoted fuel rest
        return (c :: text,rest)

mutual

def readValue : Nat → List Char → Option (Json × List Char)
  | 0, _ => none
  | fuel + 1, cs =>
      match skipSpaces cs with
      | 'n' :: 'u' :: 'l' :: 'l' :: rest => some (.null,rest)
      | 't' :: 'r' :: 'u' :: 'e' :: rest => some (.bool true,rest)
      | 'f' :: 'a' :: 'l' :: 's' :: 'e' :: rest => some (.bool false,rest)
      | '"' :: rest => do
          let (text,rest) ← readQuoted (rest.length + 1) rest
          return (.string (String.ofList text),rest)
      | '[' :: rest =>
          match skipSpaces rest with
          | ']' :: rest => some (.array [],rest)
          | rest => do
              let (items,rest) ← readItems fuel rest
              return (.array items,rest)
      | '\x7b' :: rest =>
          match skipSpaces rest with
          | '\x7d' :: rest => some (.object [],rest)
          | rest => do
              let (fields,rest) ← readFields fuel rest
              return (.object (Fields.ofList fields),rest)
      | cs => do
          let (text,rest) ← splitNumber cs
          return (.number (← text.number),rest)

def readItems : Nat → List Char → Option (List Json × List Char)
  | 0, _ => none
  | fuel + 1, cs => do
      let (item,rest) ← readValue fuel cs
      match skipSpaces rest with
      | ',' :: rest => do
          let (items,rest) ← readItems fuel rest
          return (item :: items,rest)
      | ']' :: rest => return ([item],rest)
      | _ => none

def readFields : Nat → List Char → Option (List (String × Json) × List Char)
  | 0, _ => none
  | fuel + 1, cs =>
      match skipSpaces cs with
      | '"' :: rest => do
          let (name,rest) ← readQuoted (rest.length + 1) rest
          match skipSpaces rest with
          | ':' :: rest => do
              let (value,rest) ← readValue fuel rest
              let field := (String.ofList name,value)
              match skipSpaces rest with
              | ',' :: rest => do
                  let (fields,rest) ← readFields fuel rest
                  return (field :: fields,rest)
              | '\x7d' :: rest => return ([field],rest)
              | _ => none
          | _ => none
      | _ => none

end

def Json.read (s : String) : Option Json := do
  let cs := s.toList
  let (value,rest) ← readValue (2 * cs.length + 2) cs
  if skipSpaces rest = [] then some value else none

end TypedRows
