import TypedRows.Engine
import TypedRows.Text.Numeral

namespace TypedRows

-- One connection as its users see it: how deep it is in transactions, and whether it is
-- still open. All statements go through the handle behind it.

inductive TransactionCommand where
  | begin
  | commit
  | rollback
  | savepoint (name : String)
  | release (name : String)
  | rollbackTo (name : String)

def TransactionCommand.text : TransactionCommand → String
  | .begin => "begin transaction"
  | .commit => "commit"
  | .rollback => "rollback"
  | .savepoint name => "savepoint " ++ name
  | .release name => "release " ++ name
  | .rollbackTo name => "rollback to " ++ name

structure Transactor (β : Type) where
  run : TransactionCommand → ExceptT EngineError (StateM β) Unit

-- `sequence` numbers the savepoints; a connection outside every pool has id 0 and no key.
-- `poisoned` says that work under its lock has broken off. `depth` and `sequence` are 64-bit
-- counters that wrap around, and are these numbers as long as both stay below 2^64.
structure Session where
  id : Nat
  key : String
  closed : Bool
  depth : Nat
  sequence : Nat
  poisoned : Bool

def Session.new (id : Nat) (key : String) : Session :=
  { id, key, closed := false, depth := 0, sequence := 0, poisoned := false }

def Session.standalone : Session := .new 0 ""

namespace Session

def isInTransaction (s : Session) : Bool := 0 < s.depth

def close (s : Session) : Session := {s with closed := true}

-- A closed connection cannot be locked; a poisoned lock is taken as any other.
def lock (s : Session) : Except Error Unit :=
  if s.closed then .error (.closed s.id s.key) else .ok ()

def shown (s : Session) : String :=
  "ConnectionWithLock \x7b pool_id: " ++ shownNat s.id ++ ", spec_key: " ++ Text.quoted s.key ++
    ", closed: " ++ shownBool s.closed ++ ", transaction_depth: " ++ shownNat s.depth ++ ", .. \x7d"

def lockedShown (s : Session) : String := "LockedConnection \x7b owner: " ++ s.shown ++ ", .. \x7d"

def savepointName (sequence depth : Nat) : String :=
  "S" ++ shownNat sequence ++ "D" ++ shownNat depth

-- What stands after the first `D`, once at least two bytes stand before it.
def afterMark : Nat → List Char → Option (List Char)
  | _, [] => none
  | bytes, c :: rest =>
      if c = 'D' then (if bytes < 2 then none else some rest)
      else afterMark (bytes + c.utf8Size) rest

def depthOf (savepoint : String) : Option Nat := do
  let depth ← Text.readUnsigned (← afterMark 0 savepoint.toList)
  if depth < UInt64.size then some depth else none

end Session

structure Locked (β : Type) where
  session : Session
  handle : β

namespace Locked

variable {β : Type}

def setDepth (depth : Nat) (l : Locked β) : Locked β :=
  {l with session := {l.session with depth := depth}}

def unlock {α : Type} (outcome : Except Halt α) (l : Locked β) : Locked β :=
  match outcome with
  | .error .panicked => {l with session := {l.session with poisoned := true}}
  | _ => l

end Locked

namespace Transactor

variable {β α : Type}

def send (t : Transactor β) (command : TransactionCommand) : StateM (Locked β) (Except EngineError Unit) :=
  fun l =>
    let (outcome,handle) := (t.run command).run l.handle
    (outcome,{l with handle := handle})

def sendOrFail (t : Transactor β) (command : TransactionCommand) : Step (Locked β) Unit := do
  match ← (t.send command : StateM (Locked β) _) with
  | .ok () => return ()
  | .error e => throw (.engine e)

def rollback (t : Transactor β) : Step (Locked β) Unit := do
  let depth := (← get).session.depth
  modify (Locked.setDepth 0)
  if 0 < depth then t.sendOrFail .rollback

def commit (t : Transactor β) : Step (Locked β) Unit := do
  let depth := (← get).session.depth
  modify (Locked.setDepth 0)
  if depth ≠ 0 then t.sendOrFail .commit

-- After a failed start the depth is taken back, or everything is rolled back where the
-- state of the transaction is not known. The first error is the one that counts.
def startOrAbandon (t : Transactor β) (command : TransactionCommand) : Step (Locked β) Unit := do
  match ← (t.send command : StateM (Locked β) _) with
  | .ok () => return ()
  | .error e =>
      if e.requiresRollback then
        try t.rollback catch _ => pure ()
      else modify fun l => l.setDepth (l.session.depth - 1)
      throw (.engine e)

def begin (t : Transactor β) : Step (Locked β) Unit := do
  if (← get).session.depth ≠ 0 then throw (.transaction .nested)
  modify (Locked.setDepth 1)
  t.startOrAbandon .begin

def save (t : Transactor β) : Step (Locked β) String := do
  let session := (← get).session
  modify fun l => {l with session :=
    {session with depth := session.depth + 1, sequence := session.sequence + 1}}
  let name := Session.savepointName session.sequence session.depth
  t.startOrAbandon (.savepoint name)
  return name

def savepointCommand (t : Transactor β) (name : String) (command : TransactionCommand) :
    Step (Locked β) Unit := do
  match Session.depthOf name with
  | none => throw (.transaction (.invalidSavepoint name))
  | some depth =>
      if (← get).session.depth ≤ depth then throw (.transaction (.invalidSavepoint name))
      modify (Locked.setDepth depth)
      t.sendOrFail command

def release (t : Transactor β) (name : String) : Step (Locked β) Unit :=
  t.savepointCommand name (.release name)

def rollbackTo (t : Transactor β) (name : String) : Step (Locked β) Unit :=
  t.savepointCommand name (.rollbackTo name)

def bracketed (t : Transactor β) (action : Action (Locked β) α) : Action (Locked β) α := do
  let name ← t.save.action
  let value ← action
  (t.release name).action
  return value

-- Any error rolls back the whole transaction, not only the savepoint. An action that
-- breaks off leaves everything as it is.
def runInTransaction (t : Transactor β) (action : Action (Locked β) α) : Action (Locked β) α :=
  fun l =>
    match (t.bracketed action).runFrom l with
    | (.ok value,l) => (.ok value,l)
    | (.error (.failed e),l) => (.error (.failed e),(t.rollback.runFrom l).2)
    | (.error .panicked,l) => (.error .panicked,l)

end Transactor

def Engine.locked {β : Type} (engine : Engine β) : Engine (Locked β) :=
  engine.on Locked.handle fun handle l => {l with handle := handle}

def Transactor.on {β γ : Type} (part : β → γ) (put : γ → β → β) (t : Transactor γ) :
    Transactor β where
  run command := fun handle =>
    let (outcome,whole) := (t.run command).run (part handle)
    (outcome,put whole handle)

end TypedRows
