namespace TypedRows

-- A double is its 64 bits: a sign, eleven bits of exponent and fifty-two of fraction.
-- All arithmetic below is exact arithmetic on naturals followed by one rounding.
structure Double where
  bits : UInt64
deriving DecidableEq

inductive DoubleView where
  | nan
  | infinite (negative : Bool)
  | finite (negative : Bool) (mantissa : Nat) (exponent : Int)

namespace Double

def negative (x : Double) : Bool := 1 <<< 63 ≤ x.bits.toNat

def exponentField (x : Double) : Nat := (x.bits.toNat >>> 52) % 2048

def fraction (x : Double) : Nat := x.bits.toNat % (1 <<< 52)

def view (x : Double) : DoubleView :=
  if x.exponentField = 2047 then
    if x.fraction = 0 then .infinite x.negative else .nan
  else if x.exponentField = 0 then .finite x.negative x.fraction (-1074)
  else .finite x.negative ((1 <<< 52) + x.fraction) ((x.exponentField : Int) - 1075)

def ofMagnitude (negative : Bool) (magnitude : Nat) : Double :=
  ⟨UInt64.ofNat (if negative then (1 <<< 63) + magnitude else magnitude)⟩

def zero (negative : Bool) : Double := ofMagnitude negative 0

def one : Double := ofMagnitude false (1023 <<< 52)

def infinity (negative : Bool) : Double := ofMagnitude negative (2047 <<< 52)

def nan : Double := ofMagnitude false (4095 <<< 51)

def isNaN (x : Double) : Bool :=
  match x.view with
  | .nan => true
  | _ => false

def isZero (x : Double) : Bool := x.bits.toNat % (1 <<< 63) == 0

def nearest (num den : Nat) : Nat :=
  if 2 * (num % den) < den then num / den
  else if den < 2 * (num % den) then num / den + 1
  else if num / den % 2 = 0 then num / den else num / den + 1

-- The exponent of the last binary place that the double nearest to a quotient keeps.
def lastPlace (num den : Nat) : Int :=
  let guess := (num.log2 : Int) - den.log2
  let reaches :=
    if 0 ≤ guess then den <<< guess.toNat ≤ num else den ≤ num <<< (-guess).toNat
  max (-1074) (if reaches then guess - 52 else guess - 53)

-- The double nearest to a quotient; a half goes to the even fraction.
def ofRatio (negative : Bool) (num den : Nat) : Double :=
  if num = 0 then zero negative
  else
    let place := lastPlace num den
    let kept :=
      if place < 0 then nearest (num <<< (-place).toNat) den
      else nearest num (den <<< place.toNat)
    let magnitude := ((place + 1074).toNat <<< 52) + kept
    if 2047 <<< 52 ≤ magnitude then infinity negative else ofMagnitude negative magnitude

def ofInt (n : Int) : Double := ofRatio (decide (n < 0)) n.natAbs 1

-- The double nearest to a whole number times a power of ten. Beyond the guards the
-- answer is known without the power.
def ofDecimal (negative : Bool) (digits : Nat) (exponent : Int) : Double :=
  if digits = 0 then zero negative
  else
    let top := ((Nat.toDigits 10 digits).length : Int) + exponent
    if 310 < top then infinity negative
    else if top < -330 then zero negative
    else if exponent < 0 then ofRatio negative digits (Nat.pow 10 (-exponent).toNat)
    else ofRatio negative (digits * Nat.pow 10 exponent.toNat) 1

-- A finite value counted in units of the least positive double.
def scaled (negative : Bool) (mantissa : Nat) (exponent : Int) : Int :=
  let units : Int := (mantissa <<< (exponent + 1074).toNat : Nat)
  if negative then -units else units

def ofScaled (units : Int) : Double := ofRatio (decide (units < 0)) units.natAbs (1 <<< 1074)

def add (x y : Double) : Double :=
  match x.view, y.view with
  | .nan, _ => nan
  | _, .nan => nan
  | .infinite a, .infinite b => if a = b then infinity a else nan
  | .infinite a, _ => infinity a
  | _, .infinite b => infinity b
  | .finite a m e, .finite b n f =>
      let sum := scaled a m e + scaled b n f
      if sum = 0 then zero (a && b) else ofScaled sum

def neg (x : Double) : Double :=
  ⟨if x.negative then x.bits - 0x8000000000000000 else x.bits + 0x8000000000000000⟩

def sub (x y : Double) : Double := add x (neg y)

def ratio (mantissa : Nat) (exponent : Int) : Nat × Nat :=
  if 0 ≤ exponent then (mantissa <<< exponent.toNat,1) else (mantissa,1 <<< (-exponent).toNat)

def mul (x y : Double) : Double :=
  match x.view, y.view with
  | .nan, _ => nan
  | _, .nan => nan
  | .infinite a, .infinite b => infinity (a != b)
  | .infinite a, .finite b n _ => if n = 0 then nan else infinity (a != b)
  | .finite a m _, .infinite b => if m = 0 then nan else infinity (a != b)
  | .finite a m e, .finite b n f =>
      ofRatio (a != b) ((ratio m e).1 * (ratio n f).1) ((ratio m e).2 * (ratio n f).2)

def div (x y : Double) : Double :=
  match x.view, y.view with
  | .nan, _ => nan
  | _, .nan => nan
  | .infinite _, .infinite _ => nan
  | .infinite a, .finite b _ _ => infinity (a != b)
  | .finite a _ _, .infinite b => zero (a != b)
  | .finite a m e, .finite b n f =>
      if n = 0 then (if m = 0 then nan else infinity (a != b))
      else ofRatio (a != b) ((ratio m e).1 * (ratio n f).2) ((ratio m e).2 * (ratio n f).1)

def order (x y : Double) : Option Ordering :=
  match x.view, y.view with
  | .nan, _ => none
  | _, .nan => none
  | .infinite a, .infinite b => some (if a = b then .eq else if a then .lt else .gt)
  | .infinite a, _ => some (if a then .lt else .gt)
  | _, .infinite b => some (if b then .gt else .lt)
  | .finite a m e, .finite b n f => some (compare (scaled a m e) (scaled b n f))

def orderInt (x : Double) (n : Int) : Option Ordering :=
  match x.view with
  | .nan => none
  | .infinite a => some (if a then .lt else .gt)
  | .finite a m e => some (compare (scaled a m e) (scaled (decide (n < 0)) n.natAbs 0))

def nearestInt (negative : Bool) (mantissa : Nat) (exponent : Int) : Int :=
  let whole : Int := nearest (ratio mantissa exponent).1 (ratio mantissa exponent).2
  if negative then -whole else whole

def truncated (negative : Bool) (mantissa : Nat) (exponent : Int) : Int :=
  let whole : Int := ((ratio mantissa exponent).1 / (ratio mantissa exponent).2 : Nat)
  if negative then -whole else whole

end Double

def clampInt64 (n : Int) : Int64 :=
  if n < Int64.minValue.toInt then Int64.minValue
  else if Int64.maxValue.toInt < n then Int64.maxValue
  else Int64.ofInt n

-- Out of range, the nearest end of the range is taken, and NaN counts as zero.
def Double.toInt64 (x : Double) : Int64 :=
  match x.view with
  | .nan => 0
  | .infinite negative => if negative then Int64.minValue else Int64.maxValue
  | .finite negative m e => clampInt64 (nearestInt negative m e)

end TypedRows
