import TypedRows.Database.Location
import TypedRows.Sql.Table

namespace TypedRows

-- Where databases live. A volume holds one database. Files share a volume by their path,
-- databases in memory that are shared do so by their name, and every other database has a
-- volume of its own.

inductive Hold where
  | reading
  | writing
  | committing
deriving DecidableEq

structure Volume where
  contents : Sql.Contents
  holds : List (Nat × Hold)

namespace Volume

def empty : Volume := { contents := [], holds := [] }

def holdsBeside (handle : Nat) (v : Volume) : List Hold :=
  (v.holds.filter fun hold => hold.1 != handle).map Prod.snd

def isWriting (handle : Nat) (v : Volume) : Bool :=
  v.holds.any fun hold => hold.1 == handle && hold.2 != .reading

def mayRead (handle : Nat) (v : Volume) : Bool := !(v.holdsBeside handle).contains .committing

def mayWrite (handle : Nat) (v : Volume) : Bool := (v.holdsBeside handle).all (· == .reading)

def mayCommit (handle : Nat) (v : Volume) : Bool := (v.holdsBeside handle).isEmpty

def freed (handle : Nat) (v : Volume) : Volume :=
  {v with holds := v.holds.filter fun hold => hold.1 != handle}

def held (handle : Nat) (hold : Hold) (v : Volume) : Volume :=
  {v.freed handle with holds := (handle,hold) :: (v.freed handle).holds}

end Volume

structure Disk where
  volumes : List Volume
  files : List (Bytes × Nat)
  names : List (Bytes × Nat)
  handles : Nat

namespace Disk

def empty : Disk := { volumes := [], files := [], names := [], handles := 0 }

def volume (v : Nat) (d : Disk) : Volume := (d.volumes[v]?).getD .empty

def changeVolume (v : Nat) (change : Volume → Volume) (d : Disk) : Disk :=
  {d with volumes := d.volumes.modify v change}

def write (v : Nat) (contents : Sql.Contents) (d : Disk) : Disk :=
  d.changeVolume v fun volume => {volume with contents}

def newVolume (d : Disk) : Nat × Disk :=
  (d.volumes.length,{d with volumes := d.volumes ++ [.empty]})

def isFile (name : Bytes) (d : Disk) : Bool := (d.files.lookup name).isSome

def openFile (name : Bytes) (access : Option Access) (d : Disk) : Option (Nat × Disk) :=
  match d.files.lookup name with
  | some v => some (v,d)
  | none =>
      if access = some .create then
        let (v,d) := d.newVolume
        some (v,{d with files := (name,v) :: d.files})
      else none

def openNamed (name : Bytes) (d : Disk) : Nat × Disk :=
  match d.names.lookup name with
  | some v => (v,d)
  | none =>
      let (v,d) := d.newVolume
      (v,{d with names := (name,v) :: d.names})

def longestName : Nat := 255

-- The parts of a path are followed one by one; nothing lies inside a file, and nothing is
-- known outside the working directory.
def followed (d : Disk) : List Bytes → List Bytes → Option (List Bytes)
  | [], seen => some seen
  | part :: rest, seen =>
      if part = [] ∨ part = [0x2e] then followed d rest seen
      else if part = [0x2e,0x2e] then
        match seen with
        | [] => none
        | _ :: outer => followed d rest outer
      else if longestName < part.length then none
      else
        match seen with
        | [outer] => if d.isFile outer then none else followed d rest (part :: seen)
        | seen => followed d rest (part :: seen)

def fileName? (path : Bytes) (d : Disk) : Option Bytes :=
  if path.head? = some 0x2f then none
  else match d.followed (pieces 0x2f path) [] with
    | some [name] => some name
    | _ => none

def openAt (l : Location) (d : Disk) : Option (Nat × Disk) :=
  if l.isInMemory then
    some (if l.grant.shared && l.path != [] then d.openNamed l.path else d.newVolume)
  else (d.fileName? l.path).bind fun name => d.openFile name l.grant.access

end Disk

end TypedRows
