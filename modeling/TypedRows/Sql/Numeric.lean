import TypedRows.Number.Significant
import TypedRows.Sql.Datum

namespace TypedRows.Sql

-- Values as numbers, truth values and text.

inductive Number where
  | integer (n : Int64)
  | real (x : Double)

-- The number at the start of a text. `whole` says that nothing but white space is left.
structure Leading where
  negative : Bool
  digits : List Nat
  decimals : List Nat
  exponent : Int
  pointed : Bool
  scaled : Bool
  whole : Bool

def isTextSpace (byte : UInt8) : Bool := byte == 0x20 || (9 ≤ byte && byte ≤ 13)

def isDigitByte (byte : UInt8) : Bool := 0x30 ≤ byte && byte ≤ 0x39

def digitsOf (bytes : List UInt8) : List Nat :=
  (bytes.takeWhile isDigitByte).map fun byte => byte.toNat - 0x30

def natOfDigits (digits : List Nat) : Nat := digits.foldl (fun n digit => n * 10 + digit) 0

def isMinus (byte : UInt8) : Bool := byte == 0x2d

def isPlus (byte : UInt8) : Bool := byte == 0x2b

def signAt : List UInt8 → Bool × List UInt8
  | byte :: rest =>
      if isMinus byte then (true,rest)
      else if isPlus byte then (false,rest)
      else (false,byte :: rest)
  | [] => (false,[])

def leadingExponent : List UInt8 → Int × Bool × Bool × List UInt8
  | byte :: rest =>
      if byte == 0x65 || byte == 0x45 then
        let (negative,rest') := signAt rest
        let run := digitsOf rest'
        if run = [] then (0,false,true,rest)
        else
          let n : Int := natOfDigits run
          (if negative then -n else n,true,false,rest'.dropWhile isDigitByte)
      else (0,false,false,byte :: rest)
  | [] => (0,false,false,[])

def leading (bytes : List UInt8) : Leading :=
  let (negative,bytes) := signAt (bytes.dropWhile isTextSpace)
  let digits := digitsOf bytes
  let (decimals,pointed,bytes) := match bytes.dropWhile isDigitByte with
    | [] => ([],false,[])
    | byte :: rest =>
        if byte == 0x2e then (digitsOf rest,true,rest.dropWhile isDigitByte)
        else ([],false,byte :: rest)
  let (exponent,scaled,broken,bytes) := leadingExponent bytes
  { negative, digits, decimals, exponent, pointed, scaled
    whole := !(digits ++ decimals).isEmpty && !broken && bytes.all isTextSpace }

namespace Leading

def isEmpty (l : Leading) : Bool := (l.digits ++ l.decimals).isEmpty

def real (l : Leading) : Double :=
  if l.isEmpty then Double.zero false
  else Double.ofDigits l.negative (l.digits ++ l.decimals) (l.exponent - l.decimals.length)

def integer (l : Leading) : Int :=
  let n : Int := natOfDigits l.digits
  if l.negative then -n else n

def number (l : Leading) : Number :=
  if !l.isEmpty && (l.pointed || l.scaled) then .real l.real
  else if Int64.minValue.toInt ≤ l.integer ∧ l.integer ≤ Int64.maxValue.toInt then
    .integer (Int64.ofInt l.integer)
  else .real l.real

end Leading

def integerBytes (n : Int64) : List UInt8 := asciiBytes (Text.signed n.toInt)

def realBytes (x : Double) : List UInt8 := asciiBytes x.significantText

def textOf : Datum → Option (List UInt8)
  | .null => none
  | .integer n => some (integerBytes n)
  | .real x => some (realBytes x)
  | .text bytes => some bytes
  | .blob bytes => some bytes

def numberOf : Datum → Option Number
  | .null => none
  | .integer n => some (.integer n)
  | .real x => some (.real x)
  | .text bytes => some (leading bytes).number
  | .blob bytes => some (leading bytes).number

def Number.double : Number → Double
  | .integer n => Double.ofInt n.toInt
  | .real x => x

def doubleOf : Datum → Option Double
  | .null => none
  | .integer n => some (Double.ofInt n.toInt)
  | .real x => some x
  | .text bytes => some (leading bytes).real
  | .blob bytes => some (leading bytes).real

def wholePart (x : Double) : Int64 :=
  match x.view with
  | .nan => 0
  | .infinite negative => if negative then Int64.minValue else Int64.maxValue
  | .finite negative m e => clampInt64 (Double.truncated negative m e)

def integerOf : Datum → Option Int64
  | .null => none
  | .integer n => some n
  | .real x => some (wholePart x)
  | .text bytes => some (clampInt64 (leading bytes).integer)
  | .blob bytes => some (clampInt64 (leading bytes).integer)

def truthOf (d : Datum) : Option Bool :=
  match d with
  | .integer n => some (n != 0)
  | d => (doubleOf d).map fun x => !x.isZero

def ofTruth : Option Bool → Datum
  | none => .null
  | some b => .integer (if b then 1 else 0)

end TypedRows.Sql
