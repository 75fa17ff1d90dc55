import TypedRows.Error

namespace TypedRows

-- The transaction of one connection: a stack of levels, each with the state to which a
-- rollback returns. A level without a name was opened by `begin`, all others are
-- savepoints. The innermost level comes first; without a level nothing is open.

structure Level (α : Type) where
  name : Option String
  saved : α

structure Journal (α : Type) where
  current : α
  levels : List (Level α)

-- Names of savepoints match without regard to the case of ASCII letters.
def sameSavepoint (a b : String) : Bool :=
  a.toList.map Text.lowerAscii == b.toList.map Text.lowerAscii

def Level.isNamed {α : Type} (name : String) (level : Level α) : Bool :=
  level.name.any (sameSavepoint name)

namespace Journal

variable {α : Type}

def isOpen (j : Journal α) : Bool := !j.levels.isEmpty

def height (j : Journal α) : Nat := j.levels.length

def begin (j : Journal α) : Except EngineError (Journal α) :=
  if j.isOpen then .error .nestedBegin else .ok {j with levels := [⟨none,j.current⟩]}

def commit (j : Journal α) : Except EngineError (Journal α) :=
  if j.isOpen then .ok {j with levels := []} else .error .nothingToCommit

def rollback (j : Journal α) : Except EngineError (Journal α) :=
  match j.levels.getLast? with
  | some outermost => .ok { current := outermost.saved, levels := [] }
  | none => .error .nothingToRollBack

def savepoint (name : String) (j : Journal α) : Journal α :=
  {j with levels := ⟨some name,j.current⟩ :: j.levels}

def levelsFrom (name : String) : List (Level α) → Option (Level α × List (Level α))
  | [] => none
  | level :: outer => if level.isNamed name then some (level,outer) else levelsFrom name outer

def release (name : String) (j : Journal α) : Except EngineError (Journal α) :=
  match levelsFrom name j.levels with
  | some (_,outer) => .ok {j with levels := outer}
  | none => .error (.noSuchSavepoint name)

-- The work since the level is undone; the level itself stays open.
def rollbackTo (name : String) (j : Journal α) : Except EngineError (Journal α) :=
  match levelsFrom name j.levels with
  | some (level,outer) => .ok { current := level.saved, levels := level :: outer }
  | none => .error (.noSuchSavepoint name)

def restarted (start : α) (j : Journal α) : Journal α :=
  { current := start, levels := j.levels.map fun level => {level with saved := start} }

end Journal

end TypedRows
