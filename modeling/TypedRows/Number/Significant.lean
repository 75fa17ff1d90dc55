import TypedRows.Number.DoublePair
import TypedRows.Number.Shortest

namespace TypedRows

-- A double in fifteen significant digits: the form in which databases turn doubles into
-- text. The value is first scaled to a whole number of eighteen or nineteen digits, in pairs
-- of doubles; a half in the last digit goes up.

structure Scaling where
  value : DoublePair
  exponent : Int

def Scaling.stepWhile (test : Double → Bool) (factor : DoublePair) (places : Int) :
    Nat → Scaling → Scaling
  | 0, s => s
  | fuel + 1, s =>
      if test s.value.high then
        stepWhile test factor places fuel ⟨s.value.mul factor,s.exponent + places⟩
      else s

namespace Significant

def topAbove (exponent : Int) : Double := Double.ofDecimal false 9223372036854774784 exponent

def lowered (s : Scaling) : Scaling :=
  let above (bound x : Double) : Bool := bound.less x
  let s := s.stepWhile (above (topAbove 100)) ScaleSteps.down.hundred 100 4
  let s := s.stepWhile (above (topAbove 10)) ScaleSteps.down.ten 10 12
  s.stepWhile (above (topAbove 0)) ScaleSteps.down.one 1 12

def raised (s : Scaling) : Scaling :=
  let below (bound x : Double) : Bool := x.less bound
  let s := s.stepWhile (below (topAbove (-101))) ScaleSteps.up.hundred (-100) 4
  let s := s.stepWhile (below (topAbove (-11))) ScaleSteps.up.ten (-10) 12
  s.stepWhile (below (Double.ofInt 922337203685477478)) ScaleSteps.up.one (-1) 12

def places : Nat := 15

def decimal (x : Double) : Decimal :=
  let start : Scaling := ⟨.ofDouble x,0⟩
  let s := if (topAbove 0).less x then lowered start else raised start
  let whole := s.value.wholePart
  let extra := (Text.numeral whole).length - places
  let digits := (whole + 5 * Nat.pow 10 (extra - 1)) / Nat.pow 10 extra
  if digits = Nat.pow 10 places then ⟨Nat.pow 10 (places - 1),s.exponent + extra + 1⟩
  else ⟨digits,s.exponent + extra⟩

def dropTrailingZeros (digits : List Char) : List Char :=
  (digits.reverse.dropWhile (· = '0')).reverse

def layout (decimal : Decimal) : List Char :=
  let digits := Text.numeral decimal.digits
  let first := (digits.length : Int) - 1 + decimal.exponent
  let kept := dropTrailingZeros digits
  if -4 ≤ first ∧ first < places then
    positionalText true kept (first + 1 - kept.length)
  else
    let tail := if kept.length ≤ 1 then ['0'] else kept.drop 1
    kept.take 1 ++ '.' :: tail ++ (if first < 0 then ['e','-'] else ['e','+']) ++
      Text.padded 2 first.natAbs

end Significant

def Double.significantText (x : Double) : List Char :=
  match x.view with
  | .nan => []
  | .infinite negative => if negative then "-Inf".toList else "Inf".toList
  | .finite negative m _ =>
      if m = 0 then "0.0".toList
      else (if negative then ['-'] else []) ++
        Significant.layout (Significant.decimal (if negative then x.neg else x))

end TypedRows
