import TypedRows.Number.Double
import TypedRows.Text.Blank

namespace TypedRows

-- Reading a double from text: an optional sign, then a word for a special value, or
-- digits with an optional point and an optional exponent. A digit must stand before
-- or after the point. The result is the nearest double.

def readSign : List Char → Bool × List Char
  | '-' :: rest => (true,rest)
  | '+' :: rest => (false,rest)
  | cs => (false,cs)

def readExponent : List Char → Option Int
  | [] => some 0
  | c :: rest =>
      if c = 'e' ∨ c = 'E' then
        let (negative,digits) := readSign rest
        if digits ≠ [] ∧ digits.all Char.isDigit then
          let n : Int := Nat.ofDigitChars 10 digits 0
          some (if negative then -n else n)
        else none
      else none

def readFraction : List Char → List Char × List Char
  | '.' :: rest => rest.span Char.isDigit
  | cs => ([],cs)

def readMagnitude (negative : Bool) (cs : List Char) : Option Double := do
  let (whole,rest) := cs.span Char.isDigit
  let (decimals,rest) := readFraction rest
  let exponent ← readExponent rest
  if whole = [] ∧ decimals = [] then none
  else some (Double.ofDecimal negative (Nat.ofDigitChars 10 (whole ++ decimals) 0)
    (exponent - decimals.length))

def readDouble (cs : List Char) : Option Double :=
  let (negative,rest) := readSign cs
  let word := String.ofList (rest.map Text.lowerAscii)
  if word = "inf" ∨ word = "infinity" then some (Double.infinity negative)
  else if word = "nan" then some Double.nan
  else readMagnitude negative rest

end TypedRows
