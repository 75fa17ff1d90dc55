import TypedRows.Sql.Change
import TypedRows.Sql.Check
import TypedRows.Sql.CommandReader

namespace TypedRows.Sql

-- Statements that have been read and checked against the tables that exist.

structure Prepared where
  command : Command
  parameters : Nat
  names : List String

def tableNamed (contents : Contents) (name : String) : Except EngineError Table :=
  match findTable name contents with
  | some t => .ok t
  | none => .error (.noSuchTable name)

def checkItem (scope : Scope) (t : Term) : Except EngineError Unit :=
  match t with
  | .countRows name => if lowerWord name = "count" then .ok () else t.checkNames scope
  | .call name args =>
      if aggregates.contains (lowerWord name) && args.length ≤ 1 then checkAllNames scope args
      else t.checkNames scope
  | t => t.checkNames scope

def checkItems (scope : Scope) : List SelectItem → Except EngineError Unit
  | [] => .ok ()
  | item :: rest => do
      checkItem scope item.term
      checkItems scope rest

def checkTables (contents : Contents) : List String → Except EngineError Unit
  | [] => .ok ()
  | name :: rest => do
      let _ ← tableNamed contents name
      checkTables contents rest

namespace Selection

def terms (s : Selection) : List Term :=
  s.items.map SelectItem.term ++ s.condition.toList ++ s.order.map OrderItem.term

def tables (s : Selection) : List String :=
  s.table.toList ++ Term.allTables (s.terms ++ s.limit.toList ++ s.offset.toList)

def check (contents : Contents) (s : Selection) : Except EngineError (List String) := do
  let table ← s.table.mapM (tableNamed contents)
  let scope : Scope := ⟨contents,table,[]⟩
  let bounds := s.limit.toList ++ s.offset.toList
  checkTables contents s.tables
  if greatestColumnCount < s.items.length then throw .tooManyItems
  checkAllNames ⟨contents,none,[]⟩ bounds
  checkItems scope s.items
  checkAllNames scope (s.condition.toList ++ s.order.map OrderItem.term)
  if greatestColumnCount < s.order.length then throw .tooManyKeys
  Term.checkAllRows scope (bounds ++ s.condition.toList)
  Term.checkAllRows scope (s.items.map SelectItem.term ++ s.order.map OrderItem.term)
  return s.columnNames table

end Selection

-- A table is named as the statement has it.

def checkColumns (table : String) (t : Table) : List String → Except EngineError Unit
  | [] => .ok ()
  | name :: rest =>
      if t.hasName name then checkColumns table t rest
      else .error (.noColumnInTable table name)

def checkValues (scope : Scope) : List (List Term) → Except EngineError Unit
  | [] => .ok ()
  | row :: rest => do
      checkAllNames scope row
      checkValues scope rest

def checkWidth (table : String) (t : Table) (names : List String) (rows : List (List Term)) :
    Except EngineError Unit :=
  let width := ((rows.head?).map List.length).getD 0
  if names.isEmpty then
    if width ≠ t.columns.length then .error (.columnCount table t.columns.length width)
    else .ok ()
  else if width ≠ names.length then .error (.valueCount width names.length)
  else .ok ()

def hasEvenRows (rows : List (List Term)) : Bool :=
  rows.all fun row => row.length == ((rows.head?).map List.length).getD 0

def checkInsertion (contents : Contents) (table : String) (names : List String)
    (rows : List (List Term)) : Except EngineError Unit := do
  if !hasEvenRows rows then throw .unevenRows
  let t ← tableNamed contents table
  let scope : Scope := ⟨contents,none,[]⟩
  checkColumns table t names
  checkValues scope rows
  checkWidth table t names rows
  Term.checkAllRows scope rows.flatten

def checkAssignments (scope : Scope) (t : Table) : List (String × Term) → Except EngineError Unit
  | [] => .ok ()
  | (name,term) :: rest => do
      term.checkNames scope
      if !t.hasName name then throw (.noSuchColumn name)
      checkAssignments scope t rest

def Command.check (contents : Contents) : Command → Except EngineError (List String)
  | .select s => s.check contents
  | .insert table names rows => do
      checkInsertion contents table names rows
      return []
  | .insertDefaults table => do
      let _ ← tableNamed contents table
      return []
  | .update table assignments condition => do
      let t ← tableNamed contents table
      let scope : Scope := ⟨contents,some t,[]⟩
      checkAssignments scope t assignments
      checkAllNames scope condition.toList
      Term.checkAllRows scope (condition.toList ++ assignments.map Prod.snd)
      return []
  | .delete table condition => do
      let t ← tableNamed contents table
      let scope : Scope := ⟨contents,some t,[]⟩
      checkAllNames scope condition.toList
      Term.checkAllRows scope condition.toList
      return []
  | .createTable written name columns =>
      match creationFault contents written name columns with
      | some fault => .error fault
      | none => .ok []
  | _ => .ok []

def Command.isAboutData : Command → Bool
  | .select _ => true
  | .insert _ _ _ => true
  | .insertDefaults _ => true
  | .update _ _ _ => true
  | .delete _ _ => true
  | .createTable _ _ _ => true
  | _ => false

def Command.change (contents : Contents) (arguments : List Datum) (command : Command) : Attempt :=
  match command with
  | .insert table names rows =>
      match tableNamed contents table with
      | .error e => ⟨none,.error e⟩
      | .ok t => insertInto contents t arguments names rows
  | .insertDefaults table =>
      match tableNamed contents table with
      | .error e => ⟨none,.error e⟩
      | .ok t => insertDefaultsInto contents t
  | .update table assignments condition => ⟨none,do
      updateIn contents (← tableNamed contents table) arguments assignments condition⟩
  | .delete table condition => ⟨none,do
      deleteFrom contents (← tableNamed contents table) arguments condition⟩
  | .createTable written name columns => ⟨none,
      match creationFault contents written name columns with
      | some fault => .error fault
      | none => .ok ⟨contents ++ [tableOf name columns],none⟩⟩
  | _ => ⟨none,.ok ⟨contents,none⟩⟩

-- Whether a failure leaves the work before the statement in place in any case.
def Command.undoesItself (contents : Contents) : Command → Bool
  | .insert table names rows =>
      (findTable table contents).any fun t => isGuarded t names rows
  | _ => false

end TypedRows.Sql
