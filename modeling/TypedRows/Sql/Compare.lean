import TypedRows.Sql.Numeric

namespace TypedRows.Sql

-- The type that a column prefers, and the comparison of values under it.

inductive Affinity where
  | integer | real | numeric | text | blob
deriving DecidableEq

namespace Affinity

def ofType : String → Affinity
  | "integer" => .integer
  | "real" => .real
  | "text" => .text
  | "blob" => .blob
  | "" => .blob
  | _ => .numeric

def isNumeric : Affinity → Bool
  | .integer => true
  | .real => true
  | .numeric => true
  | _ => false

end Affinity

def wholeNumber (x : Double) : Datum :=
  match x.view with
  | .finite negative m e =>
      let n := Double.truncated negative m e
      if x.orderInt n = some .eq ∧ Int64.minValue.toInt < n ∧ n < Int64.maxValue.toInt then
        .integer (Int64.ofInt n)
      else .real x
  | _ => .real x

def numericText (bytes : List UInt8) : Option Number :=
  let l := leading bytes
  if l.whole then some l.number else none

def Affinity.store (a : Affinity) (d : Datum) : Datum :=
  match a, d with
  | .text, .integer n => .text (integerBytes n)
  | .text, .real x => .text (realBytes x)
  | .blob, d => d
  | .text, d => d
  | a, d =>
      let kept := match d with
        | .real x => wholeNumber x
        | .text bytes =>
            match numericText bytes with
            | some (.integer n) => .integer n
            | some (.real x) => wholeNumber x
            | none => .text bytes
        | d => d
      match a, kept with
      | .real, .integer n => .real (Double.ofInt n.toInt)
      | _, kept => kept

-- The affinity under which two operands are compared. `none` is an operand that is no column.
def comparisonAffinity : Option Affinity → Option Affinity → Affinity
  | some a, some b => if a.isNumeric || b.isNumeric then .numeric else .blob
  | some a, none => a
  | none, some b => b
  | none, none => .blob

def numericOperand : Datum → Datum
  | .text bytes =>
      match numericText bytes with
      | some (.integer n) => .integer n
      | some (.real x) => .real x
      | none => .text bytes
  | d => d

def textOperand : Datum → Datum
  | .integer n => .text (integerBytes n)
  | .real x => .text (realBytes x)
  | d => d

def isText : Datum → Bool
  | .text _ => true
  | _ => false

def operands (a : Affinity) (d e : Datum) : Datum × Datum :=
  if a.isNumeric then (numericOperand d,numericOperand e)
  else if a = .text ∧ (isText d || isText e) then (textOperand d,textOperand e)
  else (d,e)

def orderReals (x y : Double) : Ordering := (x.order y).getD .eq

-- Null, then numbers, then text by its bytes, then blobs.
def order : Datum → Datum → Ordering
  | .null, .null => .eq
  | .null, _ => .lt
  | _, .null => .gt
  | .integer n, .integer m => compare n.toInt m.toInt
  | .integer n, .real x => ((x.orderInt n.toInt).map Ordering.swap).getD .eq
  | .real x, .integer n => (x.orderInt n.toInt).getD .eq
  | .real x, .real y => orderReals x y
  | .integer _, _ => .lt
  | .real _, _ => .lt
  | .text _, .integer _ => .gt
  | .text _, .real _ => .gt
  | .text s, .text t => compare s t
  | .text _, .blob _ => .lt
  | .blob b, .blob c => compare b c
  | .blob _, _ => .gt

def compareUnder (a : Affinity) (d e : Datum) : Option Ordering :=
  let (d,e) := operands a d e
  match d, e with
  | .null, _ => none
  | _, .null => none
  | d, e => some (order d e)

end TypedRows.Sql
