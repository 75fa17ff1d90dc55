import TypedRows.Pool.Entry
import TypedRows.Session

namespace TypedRows

-- All pools of a process, with the entries and connections that they have made. Pools,
-- entries and connections are known by their position; none is ever removed, so that
-- those who still hold one can go on using it. `shared` is what all handles have in common.

structure PoolOptions where
  idleExpiration : Nat
  busyTimeout : Option Nat
deriving DecidableEq

-- Two hours.
def PoolOptions.default : PoolOptions := { idleExpiration := 7200000, busyTimeout := none }

-- `lastId` grows without end; it is the 64-bit counter of a pool until 2^64 connections are opened.
structure Pool where
  options : PoolOptions
  entries : List (String × Nat)
  lastId : Nat

structure Connection (η : Type) where
  session : Session
  handle : η

structure Pools (δ η : Type) where
  shared : δ
  clock : Nat
  connections : List (Connection η)
  entries : List Entry
  pools : List Pool
  current : Nat

-- Opens a handle on what a spec names. How long a handle waits for a lock is only accepted or
-- refused here: nothing else of it can be seen, since no handle ever waits.
structure Opener (δ η : Type) where
  openAt : Spec → δ → Except EngineError (η × δ)
  setBusyTimeout : Nat → η → Except EngineError Unit := fun _ _ => .ok ()

def Opener.limitWait {δ η : Type} (opener : Opener δ η) (timeout : Option Nat) (handle : η) :
    Except EngineError Unit :=
  match timeout with
  | none => .ok ()
  | some time => opener.setBusyTimeout time handle

inductive CheckinOutcome where
  | returned
  | closedOrphan
deriving DecidableEq

inductive ReclaimScope where
  | all
  | spec (s : Spec)

namespace Pool

def new (options : PoolOptions) : Pool := { options, entries := [], lastId := 0 }

def entryOf? (key : String) (p : Pool) : Option Nat := p.entries.lookup key

def inScope (scope : ReclaimScope) (entry : String × Nat) : Bool :=
  match scope with
  | .all => true
  | .spec s => entry.1 == s.key

end Pool

namespace Pools

variable {δ η α : Type}

def start (shared : δ) : Pools δ η :=
  { shared, clock := 0, connections := [], entries := [], pools := [Pool.new .default]
    current := 0 }

def pool (p : Nat) (ps : Pools δ η) : Pool := (ps.pools[p]?).getD (Pool.new .default)

def setPool (p : Nat) (pool : Pool) (ps : Pools δ η) : Pools δ η :=
  {ps with pools := ps.pools.set p pool}

def setEntry (e : Nat) (entry : Entry) (ps : Pools δ η) : Pools δ η :=
  {ps with entries := ps.entries.set e entry}

def addPool (options : PoolOptions) (ps : Pools δ η) : Nat × Pools δ η :=
  (ps.pools.length,{ps with pools := ps.pools ++ [Pool.new options]})

def resetCurrent (ps : Pools δ η) : Pools δ η :=
  let (p,ps) := ps.addPool .default
  {ps with current := p}

def addEntry (spec : Spec) (ps : Pools δ η) : Nat × Pools δ η :=
  (ps.entries.length,{ps with entries := ps.entries ++ [Entry.new spec]})

def entryFor (p : Nat) (spec : Spec) (ps : Pools δ η) : Nat × Pools δ η :=
  let pool := ps.pool p
  match pool.entryOf? spec.key with
  | some e => (e,ps)
  | none =>
      let (e,ps) := ps.addEntry spec
      (e,ps.setPool p {pool with entries := pool.entries ++ [(spec.key,e)]})

def entryOf? (p : Nat) (spec : Spec) (ps : Pools δ η) : Option Nat := (ps.pool p).entryOf? spec.key

def takeIdle (e : Nat) : Step (Pools δ η) (Option Nat) := fun ps =>
  match ps.entries[e]? with
  | none => (.ok none,ps)
  | some entry =>
      match entry.takeIdle ps.clock with
      | .ok (found,entry) => (.ok found,ps.setEntry e entry)
      | .error cause => (.error cause,ps)

def finished (e id : Nat) : Step (Pools δ η) Bool := fun ps =>
  match ps.entries[e]? with
  | none => (.ok false,ps)
  | some entry =>
      match entry.finished id with
      | .ok (found,entry) => (.ok found,ps.setEntry e entry)
      | .error cause => (.error cause,ps)

-- A new connection, tracked as in use. One that refuses the timeout of the pool is dropped again.
def openNew (opener : Opener δ η) (p : Nat) (spec : Spec) (e : Nat) : Step (Pools δ η) Nat :=
  fun ps =>
    match opener.openAt spec ps.shared with
    | .error cause => (.error (.connection spec.path cause),ps)
    | .ok (handle,shared) =>
        let pool := ps.pool p
        match opener.limitWait pool.options.busyTimeout handle with
        | .error cause => (.error (.engine cause),{ps with shared})
        | .ok () =>
            let id := pool.lastId + 1
            let c := ps.connections.length
            let slot := Slot.new id c ps.clock pool.options.idleExpiration
            let connection : Connection η := ⟨Session.new id spec.key,handle⟩
            let ps := {ps with shared, connections := ps.connections ++ [connection]}
            let ps := ps.setPool p {pool with lastId := id}
            (.ok c,match ps.entries[e]? with
              | some entry => ps.setEntry e (entry.push slot)
              | none => ps)

def checkout (opener : Opener δ η) (p : Nat) (spec : Spec) : Step (Pools δ η) Nat := do
  let (e,ps) := (← get).entryFor p spec
  set ps
  match ← takeIdle e with
  | some c => return c
  | none => openNew opener p spec e

def session? (c : Nat) (ps : Pools δ η) : Option Session :=
  (ps.connections[c]?).map Connection.session

def changeConnection (c : Nat) (change : Connection η → Connection η) (ps : Pools δ η) :
    Pools δ η :=
  {ps with connections := ps.connections.modify c change}

def close (c : Nat) (ps : Pools δ η) : Pools δ η :=
  ps.changeConnection c fun connection => {connection with session := connection.session.close}

def giveBack (p : Nat) (session : Session) (ps : Pools δ η) : Bool × Pools δ η :=
  match (ps.pool p).entryOf? session.key with
  | none => (false,ps)
  | some e =>
      match (finished e session.id).runFrom ps with
      | (.ok found,ps) => (found,ps)
      | (.error _,ps) => (false,ps)

-- A connection that the pool does not track any more is closed instead.
def checkin (p c : Nat) (ps : Pools δ η) : CheckinOutcome × Pools δ η :=
  match ps.session? c with
  | none => (.closedOrphan,ps)
  | some session =>
      let (found,ps) := ps.giveBack p session
      if found then (.returned,ps) else (.closedOrphan,ps.close c)

def sweep (limit : Option Nat) : List Nat → Pools δ η → Nat × Pools δ η
  | [], ps => (0,ps)
  | e :: rest, ps =>
      match ps.entries[e]? with
      | none => sweep limit rest ps
      | some entry =>
          let (swept,entry) := entry.drain limit
          let ps := swept.foldl (fun ps slot => ps.close slot.connection) (ps.setEntry e entry)
          let (count,ps) := sweep limit rest ps
          (swept.length + count,ps)

-- The entries in scope are forgotten; connections still in use are closed when they come back.
def reclaimIdle (p : Nat) (scope : ReclaimScope) (ps : Pools δ η) : Nat × Pools δ η :=
  let pool := ps.pool p
  let removed := pool.entries.filter (Pool.inScope scope)
  let kept := pool.entries.filter fun entry => !Pool.inScope scope entry
  (ps.setPool p {pool with entries := kept}).sweep none (removed.map Prod.snd)

def reclaimExpired (p : Nat) (ps : Pools δ η) : Nat × Pools δ η :=
  ps.sweep (some ps.clock) ((ps.pool p).entries.map Prod.snd)

def locked (c : Nat) (action : Action (Locked (δ × η)) α) : Action (Pools δ η) α := fun ps =>
  match ps.connections[c]? with
  | none => (.error (.failed (.closed 0 "")),ps)
  | some connection =>
      match connection.session.lock with
      | .error cause => (.error (.failed cause),ps)
      | .ok () =>
          let (outcome,l) := action.runFrom ⟨connection.session,(ps.shared,connection.handle)⟩
          let l := l.unlock outcome
          (outcome,{ps with
            shared := l.handle.1
            connections := ps.connections.set c ⟨l.session,l.handle.2⟩ })

end Pools

end TypedRows
