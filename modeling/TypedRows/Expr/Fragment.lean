import TypedRows.Error
import TypedRows.Text.Lowercase

namespace TypedRows

-- A piece of a statement, with the captured value it stands for where there is one.
structure Fragment where
  text : String
  value : Option Captured

namespace Fragment

def plain (text : String) : Fragment := ⟨text,none⟩

def isNullPlaceholder (f : Fragment) : Bool :=
  f.text == "?" && (f.value.map Captured.isNull).getD true

def isList (f : Fragment) : Bool := (f.value.map Captured.isList).getD false

end Fragment

-- A value stands in a statement as `?`, a list as `(?,?,…)`.
def placeholders (count : Nat) : String :=
  "(" ++ ",".intercalate (List.replicate count "?") ++ ")"

def isPlaceholderTail : List Char → Bool
  | ['?',')'] => true
  | '?' :: ',' :: rest => isPlaceholderTail rest
  | _ => false

def isPlaceholderForm : List Char → Bool
  | ['?'] => true
  | ['(',')'] => true
  | '(' :: rest => isPlaceholderTail rest
  | _ => false

structure Operand where
  fragment : Fragment
  args : List Value

namespace Operand

def text (o : Operand) : String := o.fragment.text

-- The length in characters that a test at the start or the end of a text compares:
-- counted for a bound text, computed by the database for an operand that binds nothing.
def lengthText (o : Operand) (collation : Collation) : Except Error String :=
  match o.fragment.value with
  | some (.scalar (.text s)) => .ok (shownNat s.length)
  | none =>
      if o.text.toList.contains '?' then .error (.compile (.textRequired collation))
      else .ok ("length(" ++ o.text ++ ")")
  | _ => .error (.compile (.textRequired collation))

end Operand

-- The text of a call is literal text and operands; the arguments follow the operands.
inductive Piece where
  | text (s : String)
  | operand (o : Operand)

def Piece.string : Piece → String
  | .text s => s
  | .operand o => o.text

def Piece.args : Piece → List Value
  | .text _ => []
  | .operand o => o.args

def Piece.joined (pieces : List Piece) : String := String.join (pieces.map Piece.string)

def Piece.allArgs (pieces : List Piece) : List Value := pieces.flatMap Piece.args

def separated : List Operand → List Piece
  | [] => []
  | [o] => [.operand o]
  | o :: rest => .operand o :: .text "," :: separated rest

def membership (item collection : Operand) : List Piece :=
  [.text "(",.operand item,.text " in ",.operand collection,.text ")"]

def likeTest (subject pattern : Operand) : List Piece :=
  [.text "(",.operand subject,.text " like ",.operand pattern,.text ")"]

def startTest (collation : Collation) (subject start : Operand) : Except Error (List Piece) :=
  if collation.ignoresCase then
    .ok [.text "(",.operand subject,.text " like (",.operand start,.text " || '%'))"]
  else do
    let length ← start.lengthText collation
    .ok [.text "(substr(",.operand subject,.text (", 1, " ++ length ++ ") = "),
      .operand start,.text ")"]

def endTest (collation : Collation) (subject ending : Operand) : Except Error (List Piece) :=
  if collation.ignoresCase then
    .ok [.text "(",.operand subject,.text " like ('%' || ",.operand ending,.text "))"]
  else do
    let length ← ending.lengthText collation
    .ok [.text "(substr(",.operand subject,
      .text (", -" ++ length ++ ", " ++ length ++ ") = "),.operand ending,.text ")"]

def Method.pieces (method : Method) (receiver : Option Operand) (args : List Operand) :
    Except Error (List Piece) :=
  match method, receiver, args with
  | .like, none, [subject,pattern] => .ok (likeTest subject pattern)
  | .like, some subject, [pattern] => .ok (likeTest subject pattern)
  | .contains, none, [collection,item] => .ok (membership item collection)
  | .contains, some whole, [part] =>
      if whole.fragment.isList then .ok (membership part whole)
      else .ok [.text "(instr(",.operand whole,.text ", ",.operand part,.text ") > 0)"]
  | .startsWith collation, some subject, [start] => startTest collation subject start
  | .endsWith collation, some subject, [ending] => endTest collation subject ending
  | .equals, some left, [right] =>
      .ok [.text "(",.operand left,.text " = (",.operand right,.text "))"]
  | .toLower, some subject, [] => .ok [.text "(lower(",.operand subject,.text "))"]
  | .toUpper, some subject, [] => .ok [.text "(upper(",.operand subject,.text "))"]
  | .replace, some subject, [old,new] =>
      .ok [.text "(replace(",.operand subject,.text ", ",.operand old,.text ", ",
        .operand new,.text "))"]
  | .other name, receiver, args =>
      .ok (.text (Text.lowercase name ++ "(") :: separated (receiver.toList ++ args) ++ [.text ")"])
  | method, _, _ => .error (.compile (.arity method))

def nullComparison (op : Operator) (other : Fragment) : Except Error String :=
  match op with
  | .eq => .ok ("(" ++ other.text ++ " is ?)")
  | .ne => .ok ("(" ++ other.text ++ " is not ?)")
  | _ => .error (.compile (.nullComparison op))

-- A side that is null turns equality into a test for null.
def Operator.join (op : Operator) (left right : Fragment) : Except Error String :=
  if left.isNullPlaceholder then nullComparison op right
  else if right.isNullPlaceholder then nullComparison op left
  else match op.sql with
    | some sql => .ok ("(" ++ left.text ++ " " ++ sql ++ " " ++ right.text ++ ")")
    | none => .error (.compile (.unsupportedOperator op))

end TypedRows
