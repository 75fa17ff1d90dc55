import TypedRows.Error

namespace TypedRows

-- Which database to open, and how. `bits` is a signed number, any that the user gives;
-- `explicit` says that the user gave it.
structure Spec where
  path : String
  bits : Int
  explicit : Bool
deriving DecidableEq

namespace Spec

def defaultFlags : Nat := 6

def fullMutex : Nat := 65536

def new (path : String) : Spec := { path, bits := defaultFlags, explicit := false }

def withFlags (path : String) (bits : Int) : Spec := { path, bits, explicit := true }

def forAsync (path : String) : Spec := withFlags path (defaultFlags + fullMutex)

def flags (s : Spec) : Nat := (s.bits % 4294967296).toNat

def key (s : Spec) : String := shownInt s.bits ++ "|" ++ shownBool s.explicit ++ "|" ++ s.path

def shown (s : Spec) : String := shownParts "ConnectionSpec" [("key",Text.quoted s.key)]

end Spec

end TypedRows
