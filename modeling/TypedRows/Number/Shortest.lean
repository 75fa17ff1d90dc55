import TypedRows.Number.Double
import TypedRows.Text.Numeral

namespace TypedRows

-- The fewest decimal digits that read back as a given double, and their layout.

inductive HalfRule where
  | up
  | even
deriving DecidableEq

structure Decimal where
  digits : Nat
  exponent : Int
deriving DecidableEq

-- The reals that read back as the value, ends included exactly for an even mantissa.
-- All is counted in quarters of the last binary place: `num / den` is one quarter.
structure ReadBack where
  low : Nat
  value : Nat
  high : Nat
  closed : Bool
  num : Nat
  den : Nat

def ReadBack.of (mantissa : Nat) (exponent : Int) : ReadBack :=
  let quarter := Double.ratio 1 (exponent - 2)
  { low := if mantissa = 1 <<< 52 ∧ -1074 < exponent then 4 * mantissa - 1 else 4 * mantissa - 2
    value := 4 * mantissa
    high := 4 * mantissa + 2
    closed := mantissa % 2 == 0
    num := quarter.1
    den := quarter.2 }

def ReadBack.onGrid (half : HalfRule) (r : ReadBack) (exponent : Int) : Option Nat :=
  let quarters := r.num * (if exponent < 0 then Nat.pow 10 (-exponent).toNat else 1)
  let step := r.den * (if exponent < 0 then 1 else Nat.pow 10 exponent.toNat)
  let inside (point : Nat) : Bool :=
    if r.closed then r.low * quarters ≤ point * step && point * step ≤ r.high * quarters
    else r.low * quarters < point * step && point * step < r.high * quarters
  let below := r.value * quarters / step
  match inside below, inside (below + 1) with
  | false, false => none
  | true, false => some below
  | false, true => some (below + 1)
  | true, true =>
      let twice := 2 * r.value * quarters
      let middle := (2 * below + 1) * step
      if twice < middle then some below
      else if middle < twice then some (below + 1)
      else match half with
        | .up => some (below + 1)
        | .even => some (if below % 2 = 0 then below else below + 1)

def ReadBack.coarsest (half : HalfRule) (r : ReadBack) : Nat → Int → Decimal
  | 0, exponent => ⟨r.value * r.num / r.den,exponent⟩
  | fuel + 1, exponent =>
      match r.onGrid half exponent with
      | some point => ⟨point,exponent⟩
      | none => coarsest half r fuel (exponent - 1)

def shortest (half : HalfRule) (mantissa : Nat) (exponent : Int) : Decimal :=
  let magnitude := ((mantissa.log2 : Int) + exponent) * 30103 / 100000
  (ReadBack.of mantissa exponent).coarsest half 700 (magnitude + 2)

-- The decisions that one format of doubles takes. `positional` bounds the exponents
-- of the first digit that are written without an exponent.
structure DoubleStyle where
  half : HalfRule
  positional : Option (Int × Int)
  wholePoint : Bool
  plusExponent : Bool
  nan : String
  infinite : String

def zeros (n : Nat) : List Char := List.replicate n '0'

def positionalText (wholePoint : Bool) (digits : List Char) (exponent : Int) : List Char :=
  let whole := (digits.length : Int) + exponent
  if 0 ≤ exponent then
    digits ++ zeros exponent.toNat ++ (if wholePoint then ['.','0'] else [])
  else if 0 < whole then digits.take whole.toNat ++ '.' :: digits.drop whole.toNat
  else '0' :: '.' :: zeros (-whole).toNat ++ digits

def scientificText (plusExponent : Bool) (digits : List Char) (exponent : Int) : List Char :=
  let first := (digits.length : Int) - 1 + exponent
  let mantissa := match digits with
    | d :: [] => [d]
    | d :: rest => d :: '.' :: rest
    | [] => []
  mantissa ++ ['e'] ++ (if plusExponent && decide (0 ≤ first) then ['+'] else []) ++
    Text.signed first

def DoubleStyle.finiteText (style : DoubleStyle) (mantissa : Nat) (exponent : Int) :
    List Char :=
  if mantissa = 0 then (if style.wholePoint then ['0','.','0'] else ['0'])
  else
    let decimal := shortest style.half mantissa exponent
    let digits := Text.numeral decimal.digits
    let first := (digits.length : Int) - 1 + decimal.exponent
    match style.positional with
    | none => positionalText style.wholePoint digits decimal.exponent
    | some (lowest,highest) =>
        if lowest ≤ first ∧ first ≤ highest then
          positionalText style.wholePoint digits decimal.exponent
        else scientificText style.plusExponent digits decimal.exponent

def DoubleStyle.text (style : DoubleStyle) (x : Double) : String :=
  match x.view with
  | .nan => style.nan
  | .infinite negative => if negative then "-" ++ style.infinite else style.infinite
  | .finite negative mantissa exponent =>
      String.ofList ((if negative then ['-'] else []) ++ style.finiteText mantissa exponent)

end TypedRows
