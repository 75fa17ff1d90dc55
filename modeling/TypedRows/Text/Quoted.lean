import TypedRows.Text.Unprintable

namespace TypedRows.Text

-- Text inside double quotes, as diagnostics show it. A character that cannot be
-- shown stands as its code point in hexadecimal.
def hexadecimal (n : Nat) : List Char := Nat.toDigits 16 n

def quotedChar (c : Char) : List Char :=
  if c = '"' then ['\\','"']
  else if c = '\\' then ['\\','\\']
  else if c = '\n' then ['\\','n']
  else if c = '\r' then ['\\','r']
  else if c = '\t' then ['\\','t']
  else if c.toNat = 0 then ['\\','0']
  else if isUnprintable c then ['\\','u','\x7b'] ++ hexadecimal c.toNat ++ ['\x7d']
  else [c]

def quoted (s : String) : String :=
  "\"" ++ String.ofList (s.toList.flatMap quotedChar) ++ "\""

end TypedRows.Text
