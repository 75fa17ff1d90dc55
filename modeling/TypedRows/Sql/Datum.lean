import TypedRows.Value.Stored

namespace TypedRows.Sql

-- A value while a statement works on it. Text is bytes: they come from characters, from
-- blobs and from parts of both, so they need not form characters.
inductive Datum where
  | null
  | integer (n : Int64)
  | real (x : Double)
  | text (bytes : List UInt8)
  | blob (bytes : List UInt8)
deriving DecidableEq

def bytesOf (s : String) : List UInt8 := s.toUTF8.data.toList

def asciiBytes (cs : List Char) : List UInt8 := cs.map fun c => c.toNat.toUInt8

def textOfBytes (bytes : List UInt8) : String :=
  (String.fromUTF8? ⟨bytes.toArray⟩).getD
    (String.ofList (bytes.map fun byte =>
      if byte < 0x80 then Char.ofNat byte.toNat else Char.ofNat 0xfffd))

def Datum.ofReal (x : Double) : Datum := if x.isNaN then .null else .real x

def Datum.ofStored : Stored → Datum
  | .null => .null
  | .integer n => .integer n
  | .real x => .ofReal x
  | .text s => .text (bytesOf s)
  | .blob bytes => .blob bytes.data.toList

def Datum.stored : Datum → Stored
  | .null => .null
  | .integer n => .integer n
  | .real x => .real x
  | .text bytes => .text (textOfBytes bytes)
  | .blob bytes => .blob ⟨bytes.toArray⟩

end TypedRows.Sql
