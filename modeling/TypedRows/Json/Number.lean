import TypedRows.Json.Basic

namespace TypedRows

-- Reading a number of a document. A numeral with no point and no exponent is a whole
-- number where it fits. All others become doubles in the quick way: as many digits as
-- fit into 64 bits, rounded, then scaled by powers of ten in double arithmetic.

structure NumberText where
  negative : Bool
  whole : List Char
  decimals : Option (List Char)
  exponent : Option Int

def largestWord : Nat := UInt64.size - 1

def significand (value : Nat) : List Char → Nat × Nat × Nat
  | [] => (value,0,0)
  | d :: rest =>
      let next := value * 10 + (d.toNat - '0'.toNat)
      if largestWord < next then (value,0,rest.length + 1)
      else
        let (final,used,left) := significand next rest
        (final,used + 1,left)

def scaleByTen : Nat → Double → Int → Option Double
  | 0, _, _ => none
  | fuel + 1, x, exponent =>
      if exponent.natAbs ≤ 308 then
        let power := Double.ofDecimal false 1 exponent.natAbs
        if 0 ≤ exponent then
          let scaled := x.mul power
          if scaled = Double.infinity false then none else some scaled
        else some (x.div power)
      else if x.isZero then some x
      else if 0 ≤ exponent then none
      else scaleByTen fuel (x.div (Double.ofDecimal false 1 308)) (exponent + 308)

def NumberText.double (t : NumberText) : Option Double := do
  let (first,_,left) := significand 0 t.whole
  let (value,used,_) := significand first (t.decimals.getD [])
  let exponent := (left : Int) - used + t.exponent.getD 0
  let x ← scaleByTen (exponent.natAbs / 308 + 1) (Double.ofInt value) exponent
  return if t.negative then x.neg else x

def NumberText.number (t : NumberText) : Option JsonNumber :=
  let n := Nat.ofDigitChars 10 t.whole 0
  if t.decimals = none ∧ t.exponent = none ∧ n ≤ largestWord then
    if !t.negative then some (.integer n)
    else if 0 < n ∧ n ≤ 1 <<< 63 then some (.integer (-n))
    else some (.double (Double.ofInt n).neg)
  else t.double.map .double

def splitDigits (cs : List Char) : Option (List Char × List Char) :=
  let (digits,rest) := cs.span Char.isDigit
  if digits = [] then none else some (digits,rest)

def splitExponent : List Char → Option (Option Int × List Char)
  | [] => some (none,[])
  | c :: rest =>
      if c = 'e' ∨ c = 'E' then
        let (negative,unsigned) := match rest with
          | '-' :: tail => (true,tail)
          | '+' :: tail => (false,tail)
          | _ => (false,rest)
        (splitDigits unsigned).map fun (digits,rest) =>
          let n : Int := Nat.ofDigitChars 10 digits 0
          (some (if negative then -n else n),rest)
      else some (none,c :: rest)

def splitNumber (cs : List Char) : Option (NumberText × List Char) := do
  let (negative,cs) := match cs with
    | '-' :: rest => (true,rest)
    | _ => (false,cs)
  let (whole,cs) ← splitDigits cs
  if whole.head? = some '0' ∧ 1 < whole.length then none
  else
    let (decimals,cs) ← match cs with
      | '.' :: rest => (splitDigits rest).map fun (digits,rest) => (some digits,rest)
      | _ => some (none,cs)
    let (exponent,cs) ← splitExponent cs
    return (⟨negative,whole,decimals,exponent⟩,cs)

end TypedRows
