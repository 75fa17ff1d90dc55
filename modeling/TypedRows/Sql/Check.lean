import TypedRows.Sql.Formula

namespace TypedRows.Sql

-- Checking an expression before it runs: first its names and functions, then its rows.
-- A function with a fault is noted and the look goes on behind it, so the last such fault
-- is reported; any other part that comes after a fault ends the look.

structure Survey where
  fault : Option EngineError
  ended : Bool

namespace Survey

def clean : Survey := ⟨none,false⟩

def found (fault : EngineError) : Survey := ⟨some fault,true⟩

def enter (s : Survey) : Survey := if s.fault.isSome then {s with ended := true} else s

def note (fault : Option EngineError) (s : Survey) : Survey :=
  match fault with
  | some fault => {s with fault := some fault}
  | none => s

end Survey

def functionFault (name : String) (count : Nat) : Option EngineError :=
  if aggregates.contains (lowerWord name) then some (.misplacedAggregate name)
  else match functionNamed name with
    | none => some (.noSuchFunction name)
    | some (_,counts) => if counts.contains count then none else some (.wrongArguments name)

def countFault (name : String) : EngineError :=
  if aggregates.take 1 |>.contains (lowerWord name) then .misplacedAggregate name
  else if (functionNamed name).isSome then .wrongArguments name
  else .noSuchFunction name

def Term.isLocated : Term → Bool
  | .literal _ => true
  | .parameter _ => true
  | .column .. => true
  | .call .. => true
  | .countRows _ => true
  | .not t => t.isLocated
  | .negate t => t.isLocated
  | .plain t => t.isLocated
  | .binary _ left _ => left.isLocated
  | .is _ left _ => left.isLocated
  | .among item _ => item.isLocated
  | .amongRows item _ => item.isLocated
  | .truth _ => false
  | .row _ => false

def widthFault (left right : Term) : Option EngineError :=
  if left.width = right.width then none else some (.misplacedRow left.isLocated)

mutual

def Term.survey (scope : Scope) (s : Survey) : Term → Survey
  | .literal _ => s.enter
  | .truth _ => s.enter
  | .parameter _ => s.enter
  | .column quoted name =>
      match reference scope.table quoted name with
      | .unknown => .found (.noSuchColumn name)
      | _ => s
  | .not t => if s.enter.ended then s.enter else t.survey scope s
  | .negate t => if s.enter.ended then s.enter else t.survey scope s
  | .plain t => if s.enter.ended then s.enter else t.survey scope s
  | .binary op left right =>
      match if op.isComparison then widthFault left right else none with
      | some fault => .found fault
      | none =>
          if s.enter.ended then s.enter
          else
            let s := left.survey scope s
            if s.ended then s else right.survey scope s
  | .is _ left right =>
      match widthFault left right with
      | some fault => .found fault
      | none =>
          if s.enter.ended then s.enter
          else
            let s := left.survey scope s
            if s.ended then s else right.survey scope s
  | .among item choices =>
      if s.enter.ended then s.enter
      else
        let s := item.survey scope s
        if s.ended then s else Term.surveyAll scope s choices
  | .amongRows item name =>
      if (findTable name scope.contents).isNone then .found (.noSuchTable name)
      else if s.enter.ended then s.enter
      else item.survey scope s
  | .call name args =>
      {Term.surveyAll scope (s.note (functionFault name args.length)) args with ended := false}
  | .countRows name => s.note (some (countFault name))
  | .row items => if s.enter.ended then s.enter else Term.surveyAll scope s items

def Term.surveyAll (scope : Scope) (s : Survey) : List Term → Survey
  | [] => s
  | t :: rest =>
      let s := t.survey scope s
      if s.ended then s else Term.surveyAll scope s rest

end

def Term.checkNames (scope : Scope) (t : Term) : Except EngineError Unit :=
  match (t.survey scope .clean).fault with
  | some fault => .error fault
  | none => .ok ()

mutual

def Term.checkRows (scope : Scope) : Term → Except EngineError Unit
  | .not t => t.checkRows scope
  | .negate t => t.checkRows scope
  | .plain t => t.checkRows scope
  | .binary op left right =>
      match left, right with
      | .row items, .row others =>
          if op.isComparison then do
            Term.checkAllRows scope items
            Term.checkAllRows scope others
          else .error (.misplacedRow false)
      | left, right => do
          left.checkRows scope
          right.checkRows scope
  | .is _ left right =>
      match left, right with
      | .row items, .row others => do
          Term.checkAllRows scope items
          Term.checkAllRows scope others
      | left, right => do
          left.checkRows scope
          right.checkRows scope
  | .among item choices => do
      item.checkRows scope
      Term.checkAllRows scope choices
  | .amongRows item name =>
      let columns := ((findTable name scope.contents).map fun t => t.columns.length).getD 0
      if columns ≠ item.width then .error (.selectedColumns columns item.width)
      else match item with
        | .row items => Term.checkAllRows scope items
        | item => item.checkRows scope
  | .call _ args => Term.checkAllRows scope args
  | .row _ => .error (.misplacedRow false)
  | _ => .ok ()

def Term.checkAllRows (scope : Scope) : List Term → Except EngineError Unit
  | [] => .ok ()
  | t :: rest => do
      t.checkRows scope
      Term.checkAllRows scope rest

end

mutual

def Term.tables : Term → List String
  | .not t => t.tables
  | .negate t => t.tables
  | .plain t => t.tables
  | .binary _ left right => left.tables ++ right.tables
  | .is _ left right => left.tables ++ right.tables
  | .among item choices => item.tables ++ Term.allTables choices
  | .amongRows item name => item.tables ++ [name]
  | .call _ args => Term.allTables args
  | .row items => Term.allTables items
  | _ => []

def Term.allTables : List Term → List String
  | [] => []
  | t :: rest => t.tables ++ Term.allTables rest

end

def checkAllNames (scope : Scope) : List Term → Except EngineError Unit
  | [] => .ok ()
  | t :: rest => do
      t.checkNames scope
      checkAllNames scope rest

end TypedRows.Sql
