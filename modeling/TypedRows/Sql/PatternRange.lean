import TypedRows.Sql.Characters
import TypedRows.Sql.Numeric

namespace TypedRows.Sql

-- The texts that begin as a pattern does lie between two bounds, whatever the case of
-- their letters.

structure PatternRange where
  low : List UInt8
  high : List UInt8
  complete : Bool

def isWildcard (byte : UInt8) : Bool := byte == 0x25 || byte == 0x5f

def patternStart (pattern : List UInt8) : List UInt8 :=
  ((characters pattern).takeWhile fun c =>
    !(c.any isWildcard) && codeOf c != 0xfffd).flatten

def isNumeral (bytes : List UInt8) : Bool := (leading bytes).whole

-- The next larger text of the same length; `bytes` come last one first.
def successor : List UInt8 → List UInt8
  | [] => []
  | [byte] => [byte + 1]
  | byte :: rest => if byte == 0xbf then 0x80 :: successor rest else (byte + 1) :: rest

def raisedLast (bytes : List UInt8) : List UInt8 :=
  match bytes.reverse with
  | [] => []
  | byte :: rest => ((byte + 1) :: rest).reverse

-- No bound may pass for a number. Nothing but one `%` behind the start makes the range
-- say all that the pattern says.
def patternRange (pattern : List UInt8) : Option PatternRange :=
  let start := patternStart pattern
  if start.isEmpty || isNumeral start || start == [0x2d] || isNumeral (raisedLast start) then none
  else some
    { low := start.map upperByte
      high := (successor (start.map lowerByte).reverse).reverse
      complete := (visibleBytes pattern).drop start.length == [0x25] &&
        start.getLast? != some 0x40 }

end TypedRows.Sql
