import TypedRows.Pool.Slot
import TypedRows.Pool.Spec

namespace TypedRows

-- All connections of one spec in one pool, in the order in which they were opened.
structure Entry where
  spec : Spec
  slots : List Slot

namespace Entry

def new (spec : Spec) : Entry := { spec, slots := [] }

def size (e : Entry) : Nat := e.slots.length

def isEmpty (e : Entry) : Bool := e.slots.isEmpty

def idleCount (e : Entry) : Nat := (e.slots.filter Slot.isIdle).length

def push (slot : Slot) (e : Entry) : Entry := {e with slots := e.slots ++ [slot]}

def changeFirst (test : Slot → Bool) (change : Slot → Except Error Slot) :
    List Slot → Except Error (Option Nat × List Slot)
  | [] => .ok (none,[])
  | slot :: rest =>
      if test slot then do
        let changed ← change slot
        return (some slot.connection,changed :: rest)
      else do
        let (found,rest) ← changeFirst test change rest
        return (found,slot :: rest)

def takeIdle (now : Nat) (e : Entry) : Except Error (Option Nat × Entry) := do
  let (found,slots) ← changeFirst Slot.isIdle (Slot.setInUse now) e.slots
  return (found,{e with slots := slots})

def finished (id : Nat) (e : Entry) : Except Error (Bool × Entry) := do
  let (found,slots) ← changeFirst (fun slot => slot.id = id) Slot.setIdle e.slots
  return (found.isSome,{e with slots := slots})

def drain (limit : Option Nat) (e : Entry) : List Slot × Entry :=
  (e.slots.filter (Slot.isSwept limit),
    {e with slots := e.slots.filter fun slot => !slot.isSwept limit})

end Entry

end TypedRows
