namespace TypedRows.Text

-- Decimal numerals. Reading takes the ten ASCII digits only; leading zeros are
-- allowed and the length is not limited.
def numeral (n : Nat) : List Char := Nat.toDigits 10 n

def readNumeral (cs : List Char) : Option Nat :=
  if cs ≠ [] ∧ cs.all Char.isDigit then some (Nat.ofDigitChars 10 cs 0) else none

def padded (width n : Nat) : List Char :=
  List.replicate (width - (numeral n).length) '0' ++ numeral n

def signed (n : Int) : List Char :=
  if n < 0 then '-' :: numeral n.natAbs else numeral n.natAbs

def readSigned : List Char → Option Int
  | '-' :: rest => (readNumeral rest).map fun n => -(n : Int)
  | '+' :: rest => (readNumeral rest).map fun n => (n : Int)
  | cs => (readNumeral cs).map fun n => (n : Int)

def readUnsigned : List Char → Option Nat
  | '+' :: rest => readNumeral rest
  | cs => readNumeral cs

theorem isDigit_of_mem_numeral {n : Nat} {c : Char} (member : c ∈ numeral n) : c.isDigit = true :=
  Nat.isDigit_of_mem_toDigits (by decide : 0 < 10) (by decide) member

theorem readNumeral_numeral (n : Nat) : readNumeral (numeral n) = some n := by
  have allDigits : ∀ c ∈ numeral n, c.isDigit = true := fun _ => isDigit_of_mem_numeral
  have nonempty : numeral n ≠ [] := Nat.toDigits_ne_nil
  simpa [readNumeral,nonempty,numeral,Nat.ofDigitChars_toDigits] using allDigits

end TypedRows.Text
