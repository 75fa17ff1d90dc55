import TypedRows.Error
import TypedRows.Sql.Token
import TypedRows.Sql.Term

namespace TypedRows.Sql

-- Reading tokens one by one. Keywords are matched without regard to case.

abbrev Reader (α : Type) := StateT (List Token) (Except EngineError) α

def lowerWord (s : String) : String := String.ofList (s.toList.map Text.lowerAscii)

def Mark.text : Mark → String
  | .word s => s
  | .name s => "\"" ++ s ++ "\""
  | .string s => "'" ++ s ++ "'"
  | .integer n => shownNat n
  | .real digits _ => shownNat digits
  | .parameter _ => "?"
  | .symbol s => s
  | .illegal s => s

def Mark.error : Mark → EngineError
  | .illegal s => .unrecognizedToken s
  | mark => .syntaxError mark.text

def reservedWords : List String :=
  ["add","all","alter","and","as","autoincrement","between","case","check","collate",
    "commit","constraint","create","default","deferrable","delete","distinct","drop","else",
    "escape","except","exists","foreign","from","group","having","in","index","insert",
    "intersect","into","is","isnull","join","limit","not","nothing","notnull","null","on",
    "or","order","primary","references","returning","select","set","table","then","to",
    "transaction","union","unique","update","using","values","when","where"]

def isReserved (s : String) : Bool := reservedWords.contains (lowerWord s)

namespace Reader

def peek : Reader (Option Mark) := do return (← get).head?.map Token.mark

def advance : Reader Unit := modify fun tokens => tokens.drop 1

def fail {α : Type} : Reader α := do
  match ← peek with
  | some mark => throw mark.error
  | none => throw .incompleteInput

def accept (test : Mark → Bool) : Reader Bool := do
  match ← peek with
  | some mark =>
      if test mark then
        advance
        return true
      else return false
  | none => return false

def isSymbol (s : String) (mark : Mark) : Bool := mark = .symbol s

def isKeyword (s : String) : Mark → Bool
  | .word w => lowerWord w = s
  | _ => false

def symbol? (s : String) : Reader Bool := accept (isSymbol s)

def keyword? (s : String) : Reader Bool := accept (isKeyword s)

def symbol (s : String) : Reader Unit := do
  if !(← symbol? s) then fail

def keyword (s : String) : Reader Unit := do
  if !(← keyword? s) then fail

def name : Reader String := do
  match ← peek with
  | some (.word s) =>
      if isReserved s then fail
      else
        advance
        return s
  | some (.name s) =>
      advance
      return s
  | some (.string s) =>
      advance
      return s
  | _ => fail

-- One or more of `item`, with commas between them. The fuel bounds their number.
def commaList {α : Type} (item : Reader α) : Nat → Reader (List α)
  | 0 => fail
  | fuel + 1 => do
      let first ← item
      if ← symbol? "," then return first :: (← commaList item fuel)
      else return [first]

def size : Reader Nat := do return (← get).length

end Reader

end TypedRows.Sql
