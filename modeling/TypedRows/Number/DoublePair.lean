import TypedRows.Number.Double

namespace TypedRows

-- Two doubles whose sum stands for a value, with about twice the precision of one. Every
-- product rounds in a fixed order, so each result has exactly one answer.
structure DoublePair where
  high : Double
  low : Double

def Double.leadingHalf (x : Double) : Double := ⟨x.bits >>> 26 <<< 26⟩

def Double.less (x y : Double) : Bool := x.order y == some .lt

namespace DoublePair

def one : DoublePair := ⟨.one,.zero false⟩

def ofDouble (x : Double) : DoublePair := ⟨x,.zero false⟩

-- A whole number: the nearest double, and what it is off by. Beyond 64 bits nothing is kept.
def ofNat (n : Nat) : DoublePair :=
  let high := Double.ofInt n
  match high.view with
  | .finite negative m e =>
      let whole := Double.truncated negative m e
      ⟨high,if whole < UInt64.size then Double.ofInt (n - whole) else .zero false⟩
  | _ => ofDouble high

def powerOfTen (exponent : Int) : DoublePair :=
  let high := Double.ofDecimal false 1 exponent
  match high.view with
  | .finite _ m e =>
      let power := Nat.pow 10 exponent.natAbs
      let (num,den) := if 0 ≤ exponent then (power,1) else (1,power)
      let (num',den') := Double.ratio m e
      let rest : Int := (num * den' : Nat) - (num' * den : Nat)
      ⟨high,Double.ofRatio (decide (rest < 0)) rest.natAbs (den * den')⟩
  | _ => ofDouble high

def mul (x y : DoublePair) : DoublePair :=
  let xHead := x.high.leadingHalf
  let xTail := x.high.sub xHead
  let yHead := y.high.leadingHalf
  let yTail := y.high.sub yHead
  let head := xHead.mul yHead
  let cross := (xHead.mul yTail).add (xTail.mul yHead)
  let sum := head.add cross
  let error := (((head.sub sum).add cross).add (xTail.mul yTail))
  let error := ((x.high.mul y.low).add (x.low.mul y.high)).add error
  let high := sum.add error
  ⟨high,(sum.sub high).add error⟩

def value (x : DoublePair) : Double := x.high.add x.low

def wholePart (x : DoublePair) : Nat :=
  let part (y : Double) : Int := match y.view with
    | .finite negative m e => Double.truncated negative m e
    | _ => 0
  (part x.high + part x.low).toNat

end DoublePair

structure ScaleSteps where
  hundred : DoublePair
  ten : DoublePair
  one : DoublePair

def ScaleSteps.up : ScaleSteps := ⟨.powerOfTen 100,.powerOfTen 10,.powerOfTen 1⟩

def ScaleSteps.down : ScaleSteps := ⟨.powerOfTen (-100),.powerOfTen (-10),.powerOfTen (-1)⟩

namespace DoublePair

def timesRepeated (x factor : DoublePair) : Nat → DoublePair
  | 0 => x
  | n + 1 => timesRepeated (x.mul factor) factor n

def scaled (x : DoublePair) (steps : ScaleSteps) (places : Nat) : DoublePair :=
  ((x.timesRepeated steps.hundred (places / 100)).timesRepeated steps.ten
    (places % 100 / 10)).timesRepeated steps.one (places % 10)

end DoublePair

def grownSignificand : Nat → Nat → Nat × Nat
  | digits, 0 => (digits,0)
  | digits, places + 1 =>
      if digits < (UInt64.size - 1 - 2047) / 10 then grownSignificand (digits * 10) places
      else (digits,places + 1)

def shrunkSignificand : Nat → Nat → Nat × Nat
  | digits, 0 => (digits,0)
  | digits, places + 1 =>
      if digits % 10 = 0 then shrunkSignificand (digits / 10) places else (digits,places + 1)

-- A significand of at most 64 bits times a power of ten. The last bit may be off; beyond
-- four hundred places the answer is the same as at four hundred.
def Double.nearDecimal (negative : Bool) (digits : Nat) (exponent : Int) : Double :=
  if digits = 0 then Double.zero negative
  else
    let places := min exponent.natAbs 400
    let magnitude :=
      if 0 ≤ exponent then
        let (digits,places) := grownSignificand digits places
        ((DoublePair.ofNat digits).scaled .up places).value
      else
        let (digits,places) := shrunkSignificand digits places
        ((DoublePair.ofNat digits).scaled .down places).value
    let magnitude := if magnitude.isNaN then Double.infinity false else magnitude
    if negative then magnitude.neg else magnitude

def keptDigits (digits : List Nat) : Nat × Nat :=
  digits.foldl (fun (kept,dropped) digit =>
    if kept < (UInt64.size - 1 - 9) / 10 then (kept * 10 + digit,dropped) else (kept,dropped + 1))
    (0,0)

def Double.ofDigits (negative : Bool) (digits : List Nat) (exponent : Int) : Double :=
  let (kept,dropped) := keptDigits digits
  Double.nearDecimal negative kept (exponent + dropped)

end TypedRows
