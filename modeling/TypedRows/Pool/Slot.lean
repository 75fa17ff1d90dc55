import TypedRows.Error

namespace TypedRows

-- The place of one connection in a pool. Times are in milliseconds.
structure Slot where
  id : Nat
  connection : Nat
  state : SlotState
  expiresAt : Nat
  idleFor : Nat

namespace Slot

def new (id connection now idleFor : Nat) : Slot :=
  { id, connection, state := .inUse, expiresAt := now + idleFor, idleFor }

def isIdle (s : Slot) : Bool := s.state = .idle

def setIdle (s : Slot) : Except Error Slot :=
  if s.state = .closed then .error (.invariant s.id s.state .idle)
  else .ok {s with state := .idle}

def setInUse (now : Nat) (s : Slot) : Except Error Slot :=
  if s.state ≠ .idle then .error (.invariant s.id s.state .inUse)
  else .ok {s with state := .inUse, expiresAt := now + s.idleFor}

def close (s : Slot) : Slot := {s with state := .closed}

def isSwept (limit : Option Nat) (s : Slot) : Bool :=
  s.isIdle && limit.all fun t => s.expiresAt ≤ t

end Slot

end TypedRows
