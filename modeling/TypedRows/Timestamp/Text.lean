import TypedRows.Timestamp.Basic
import TypedRows.Text.Blank
import TypedRows.Text.Numeral

namespace TypedRows

-- The written form of a timestamp: four digits of year, or a sign and at least four
-- beyond 0 to 9999, and the fewest of 0, 3, 6 or 9 decimals that are exact. A leap second is
-- written as the second after the one that it follows.

def yearText (year : Int) : List Char :=
  if 0 ≤ year ∧ year ≤ 9999 then Text.padded 4 year.toNat
  else (if year < 0 then '-' else '+') :: Text.padded 4 year.natAbs

def decimalsText (nanosecond : Nat) : List Char :=
  if nanosecond = 0 then []
  else if nanosecond % 1000000 = 0 then '.' :: Text.padded 3 (nanosecond / 1000000)
  else if nanosecond % 1000 = 0 then '.' :: Text.padded 6 (nanosecond / 1000)
  else '.' :: Text.padded 9 nanosecond

def CalendarFields.chars (separator : Char) (f : CalendarFields) : List Char :=
  yearText f.year ++ '-' :: Text.padded 2 f.month ++ '-' :: Text.padded 2 f.day ++
    separator :: Text.padded 2 f.hour ++ ':' :: Text.padded 2 f.minute ++
    ':' :: Text.padded 2 (f.second + f.nanosecond / 1000000000) ++
    decimalsText (f.nanosecond % 1000000000)

def Timestamp.text (separator : Char) (t : Timestamp) : String :=
  String.ofList (t.toCalendarFields.chars separator)

-- Reading is more liberal than writing: blanks may stand before each number, the
-- blank between date and time may be missing, and short numbers are accepted.

def readField (most : Nat) (cs : List Char) : Option (Nat × List Char) :=
  let rest := Text.trimStart cs
  let digits := (rest.take most).takeWhile Char.isDigit
  if digits = [] then none
  else some (Nat.ofDigitChars 10 digits 0,rest.drop digits.length)

def readYear (cs : List Char) : Option (Int × List Char) :=
  match Text.trimStart cs with
  | '-' :: rest =>
      if rest.head?.any Char.isDigit then
        (readField rest.length rest).map fun (n,rest) => (-(n : Int),rest)
      else none
  | '+' :: rest =>
      if rest.head?.any Char.isDigit then
        (readField rest.length rest).map fun (n,rest) => ((n : Int),rest)
      else none
  | rest => (readField 4 rest).map fun (n,rest) => ((n : Int),rest)

def skipMark (mark : Char) : List Char → Option (List Char)
  | c :: rest => if c = mark then some rest else none
  | [] => none

def readDecimals : List Char → Option Nat
  | [] => some 0
  | '.' :: digits =>
      if digits ≠ [] ∧ digits.all Char.isDigit then
        let kept := digits.take 9
        some (Nat.ofDigitChars 10 kept 0 * Nat.pow 10 (9 - kept.length))
      else none
  | _ => none

def readTimestamp (cs : List Char) : Option Timestamp := do
  let (year,cs) ← readYear cs
  let (month,cs) ← readField 2 (← skipMark '-' cs)
  let (day,cs) ← readField 2 (← skipMark '-' cs)
  let (hour,cs) ← readField 2 cs
  let (minute,cs) ← readField 2 (← skipMark ':' cs)
  let (second,cs) ← readField 2 (← skipMark ':' cs)
  let nanosecond ← readDecimals cs
  CalendarFields.timestamp? ⟨year,month,day,hour,minute,second,nanosecond⟩

end TypedRows
