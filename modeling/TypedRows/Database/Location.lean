import TypedRows.Error
import TypedRows.Sql.Datum

namespace TypedRows

-- What the name of a database says: a path, or `file:` with a path in which `%` and two
-- hexadecimal digits stand for a byte, and with settings behind a question mark.

abbrev Bytes := List UInt8

def named (s : String) : Bytes := Sql.bytesOf s

inductive Access where
  | readOnly
  | readWrite
  | create
deriving DecidableEq

-- `access` is missing where no bit for it is left; such a database is in memory.
structure Grant where
  access : Option Access
  inMemory : Bool
  shared : Bool

structure Location where
  path : Bytes
  grant : Grant

def pieces (separator : UInt8) : Bytes → List Bytes
  | [] => [[]]
  | byte :: rest =>
      if byte == separator then [] :: pieces separator rest
      else
        match pieces separator rest with
        | [] => [[byte]]
        | piece :: others => (byte :: piece) :: others

def hexDigit? (byte : UInt8) : Option UInt8 :=
  if 0x30 ≤ byte && byte ≤ 0x39 then some (byte - 0x30)
  else if 0x41 ≤ byte && byte ≤ 0x46 then some (byte - 0x37)
  else if 0x61 ≤ byte && byte ≤ 0x66 then some (byte - 0x57)
  else none

def unescaped : Bytes → Bytes
  | 0x25 :: high :: low :: rest =>
      match hexDigit? high, hexDigit? low with
      | some h, some l => if h * 16 + l == 0 then [] else (h * 16 + l) :: unescaped rest
      | _, _ => 0x25 :: unescaped (high :: low :: rest)
  | byte :: rest => byte :: unescaped rest
  | [] => []

namespace Grant

-- The low three bits of the flags choose the access; other combinations are misuse.
def ofFlags (flags : Nat) : Option Grant :=
  let grant (access : Access) : Grant :=
    { access, inMemory := flags.testBit 7, shared := flags.testBit 17 }
  match flags % 8 with
  | 1 => some (grant .readOnly)
  | 2 => some (grant .readWrite)
  | 6 => some (grant .create)
  | _ => none

def isReadOnly (g : Grant) : Bool := g.access == some .readOnly

def rank (g : Grant) : Nat :=
  (match g.access with
    | none => 0
    | some .readOnly => 1
    | some .readWrite => 2
    | some .create => 6) + if g.inMemory then 128 else 0

def withMode (mode : String) (g : Grant) : Except EngineError Grant :=
  let narrowed (access : Access) : Except EngineError Grant :=
    let asked := {g with access := some access, inMemory := false}
    if g.rank < asked.rank then .error (.modeNotAllowed "access" mode) else .ok asked
  match mode with
  | "ro" => narrowed .readOnly
  | "rw" => narrowed .readWrite
  | "rwc" => narrowed .create
  | "memory" => .ok {g with access := none, inMemory := true}
  | _ => .error (.noSuchMode "access" mode)

def withCache (mode : String) (g : Grant) : Except EngineError Grant :=
  match mode with
  | "shared" => .ok {g with shared := true}
  | "private" => .ok {g with shared := false}
  | _ => .error (.noSuchMode "cache" mode)

end Grant

def systems : List String := ["unix","unix-none","unix-dotfile","unix-excl","memdb"]

-- Settings take effect one after the other; the file system is looked for at the end.
def settle : Option String → List (String × String) → Grant → Except EngineError Grant
  | system, [], g =>
      match system with
      | some name => if systems.contains name then .ok g else .error (.noSuchSystem name)
      | none => .ok g
  | system, (name,value) :: rest, g =>
      if name = "vfs" then settle (some value) rest g
      else if name = "mode" then do settle system rest (← g.withMode value)
      else if name = "cache" then do settle system rest (← g.withCache value)
      else settle system rest g

def settingOf (piece : Bytes) : Bytes × Bytes :=
  (unescaped (piece.takeWhile (· != 0x3d)),unescaped ((piece.dropWhile (· != 0x3d)).drop 1))

def settingsOf (query : Bytes) : List (String × String) :=
  (((pieces 0x26 query).map settingOf).filter fun (name,_) => !name.isEmpty).map
    fun (name,value) => (Sql.textOfBytes name,Sql.textOfBytes value)

def withoutAuthority (bytes : Bytes) : Except EngineError Bytes :=
  match bytes with
  | 0x2f :: 0x2f :: rest =>
      let authority := rest.takeWhile (· != 0x2f)
      if authority = [] ∨ authority = named "localhost" then .ok (rest.drop authority.length)
      else .error (.invalidAuthority (Sql.textOfBytes authority))
  | bytes => .ok bytes

namespace Location

def ofUri (bytes : Bytes) (g : Grant) : Except EngineError Location := do
  let bytes := (← withoutAuthority bytes).takeWhile (· != 0x23)
  let path := bytes.takeWhile (· != 0x3f)
  let grant ← settle none (settingsOf ((bytes.dropWhile (· != 0x3f)).drop 1)) g
  return ⟨unescaped path,grant⟩

def ofName (name : String) (flags : Nat) : Except EngineError Location :=
  let bytes := named name
  if bytes.contains 0 then .error (.nulByte (bytes.takeWhile (· != 0)).length)
  else match Grant.ofFlags flags with
    | none => .error .misuse
    | some g =>
        if (named "file:").isPrefixOf bytes then ofUri (bytes.drop 5) g
        else .ok ⟨bytes,{g with shared := false}⟩

def isInMemory (l : Location) : Bool :=
  l.grant.inMemory || l.path = [] || l.path = named ":memory:"

end Location

end TypedRows
