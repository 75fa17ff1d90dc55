import TypedRows.Sql.Datum

namespace TypedRows.Sql

-- Characters in bytes. A byte from 0xc0 on starts a character and takes the continuation
-- bytes behind it; every other byte is a character of its own.

def isContinuation (byte : UInt8) : Bool := 0x80 ≤ byte && byte < 0xc0

def visibleBytes (bytes : List UInt8) : List UInt8 := bytes.takeWhile (· != 0)

-- `started` holds the bytes of the character that is still open, last one first.
def charactersFrom (started : List UInt8) : List UInt8 → List (List UInt8)
  | [] => if started = [] then [] else [started.reverse]
  | byte :: rest =>
      if isContinuation byte && !started.isEmpty then charactersFrom (byte :: started) rest
      else
        let closed := if started = [] then [] else [started.reverse]
        closed ++
          (if 0xc0 ≤ byte then charactersFrom [byte] rest else [byte] :: charactersFrom [] rest)

def characters (bytes : List UInt8) : List (List UInt8) := charactersFrom [] (visibleBytes bytes)

def leadingBits (byte : UInt8) : Nat :=
  if byte < 0xe0 then byte.toNat - 0xc0
  else if byte < 0xf0 then byte.toNat - 0xe0
  else if byte < 0xf8 then byte.toNat - 0xf0
  else if byte < 0xfc then byte.toNat - 0xf8
  else if byte < 0xfe then byte.toNat - 0xfc
  else 0

-- The code of a character in 32 bits. Codes that no character has count as one and the same.
def codeOf : List UInt8 → Nat
  | [] => 0
  | lead :: rest =>
      if lead < 0xc0 then lead.toNat
      else
        let code := rest.foldl (fun code byte => (code * 64 + byte.toNat % 64) % UInt32.size)
          (leadingBits lead)
        if code < 0x80 ∨ code / 2048 = 0x1b ∨ code / 2 = 0x7fff then 0xfffd else code

def codes (bytes : List UInt8) : List Nat := (characters bytes).map codeOf

def lowerByte (byte : UInt8) : UInt8 := if 0x41 ≤ byte && byte ≤ 0x5a then byte + 32 else byte

def upperByte (byte : UInt8) : UInt8 := if 0x61 ≤ byte && byte ≤ 0x7a then byte - 32 else byte

def lowerCode (code : Nat) : Nat := if 0x41 ≤ code ∧ code ≤ 0x5a then code + 32 else code

end TypedRows.Sql
