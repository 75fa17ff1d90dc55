import TypedRows.Pool.Pools
import TypedRows.Records

namespace TypedRows

-- A database by way of a pool: each call takes a connection, works under its lock and
-- gives it back, whatever the work comes to.
structure Client where
  pool : Nat
  spec : Spec

-- When a token fires; from then on it counts as fired. It is looked at before anything
-- is done, and right before and right after the lock is taken.
inductive Cancellation where
  | atStart
  | beforeLock
  | underLock
  | never
deriving DecidableEq

def Cancellation.firedAtStart (t : Cancellation) : Bool := t = .atStart

def Cancellation.firedBeforeLock (t : Cancellation) : Bool := t = .atStart || t = .beforeLock

def Cancellation.firedUnderLock (t : Cancellation) : Bool := t != .never

def ensureNotFired {σ : Type} (fired : Bool) : Action σ Unit :=
  if fired then throw (.failed .cancelled) else pure ()

namespace Client

variable {δ η α ρ : Type}

def work (token : Cancellation) (c : Nat) (action : Action (Locked (δ × η)) α) :
    Action (Pools δ η) α := do
  ensureNotFired token.firedBeforeLock
  Pools.locked c do
    ensureNotFired token.firedUnderLock
    action

def settled : Except Halt α → Except Error α
  | .ok a => .ok a
  | .error (.failed e) => .error e
  | .error .panicked => .error .panicked

def runCancellable (opener : Opener δ η) (client : Client) (token : Cancellation)
    (action : Action (Locked (δ × η)) α) : Step (Pools δ η) α := fun ps =>
  if token.firedAtStart then (.error .cancelled,ps)
  else match (Pools.checkout opener client.pool client.spec).runFrom ps with
    | (.error e,ps) => (.error e,ps)
    | (.ok c,ps) =>
        let (outcome,ps) := (work token c action).runFrom ps
        (settled outcome,(ps.checkin client.pool c).2)

def run (opener : Opener δ η) (client : Client) (action : Action (Locked (δ × η)) α) :
    Step (Pools δ η) α :=
  client.runCancellable opener .never action

def runInTransaction (opener : Opener δ η) (transactor : Transactor (δ × η)) (client : Client)
    (action : Action (Locked (δ × η)) α) : Step (Pools δ η) α :=
  client.run opener (transactor.runInTransaction action)

def runStep (opener : Opener δ η) (client : Client) (step : Step (Locked (δ × η)) α) :
    Step (Pools δ η) α :=
  client.run opener step.action

def insertEach (engine : Engine (Locked (δ × η))) (e : Entity ρ) :
    List ρ → Step (Locked (δ × η)) Unit
  | [] => pure ()
  | record :: rest => do
      let _ ← e.insert engine record
      insertEach engine e rest

def insertAll (opener : Opener δ η) (transactor : Transactor (δ × η)) (engine : Engine (δ × η))
    (client : Client) (e : Entity ρ) (records : List ρ) : Step (Pools δ η) Nat :=
  client.runInTransaction opener transactor do
    (insertEach engine.locked e records).action
    return records.length

def countWhere (opener : Opener δ η) (engine : Engine (δ × η)) (client : Client)
    (predicate : Expr) (q : Query ρ) : Step (Pools δ η) Int64 := do
  let q ← Step.ofExcept (q.filter predicate)
  client.runStep opener (q.count engine.locked)

def queryShown (client : Client) (q : Query ρ) : String :=
  shownParts "AsyncTableQuery" [("spec",client.spec.shown),("query",q.shown)]

end Client

end TypedRows
