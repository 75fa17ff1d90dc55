import TypedRows.Sql.TermReader

namespace TypedRows.Sql

namespace Reader

def selectItem (source : List Char) : Reader SelectItem := do
  let before ← get
  let term ← expression
  let used := before.take (before.length - (← size))
  let text := match used.head?, used.getLast? with
    | some first, some last => (source.drop first.start).take (last.stop - first.start)
    | _, _ => []
  return ⟨term,String.ofList text⟩

def condition : Reader (Option Term) := do
  if ← keyword? "where" then return some (← expression) else return none

def orderItem : Reader OrderItem := do
  let term ← expression
  if ← keyword? "desc" then return ⟨term,true⟩
  let _ ← keyword? "asc"
  return ⟨term,false⟩

def ordering : Reader (List OrderItem) := do
  if ← keyword? "order" then
    keyword "by"
    commaList orderItem (← size)
  else return []

def page : Reader (Option Term × Option Term) := do
  if ← keyword? "limit" then
    let first ← expression
    if ← keyword? "offset" then return (some first,some (← expression))
    else if ← symbol? "," then return (some (← expression),some first)
    else return (some first,none)
  else return (none,none)

def selection (source : List Char) : Reader Command := do
  let items ← commaList (selectItem source) (← size)
  let table ← if ← keyword? "from" then some <$> name else pure none
  let condition ← condition
  let order ← ordering
  let (limit,offset) ← page
  return .select { items, table, condition, order, limit, offset }

def valueRow : Reader (List Term) := do
  symbol "("
  let row ← commaList expression (← size)
  symbol ")"
  return row

def nameList : Reader (List String) := do
  if ← symbol? "(" then
    let names ← commaList name (← size)
    symbol ")"
    return names
  else return []

def insertion : Reader Command := do
  keyword "into"
  let table ← name
  if ← keyword? "default" then
    keyword "values"
    return .insertDefaults table
  let columns ← nameList
  keyword "values"
  return .insert table columns (← commaList valueRow (← size))

def assignment : Reader (String × Term) := do
  let column ← name
  symbol "="
  return (column,← expression)

def updating : Reader Command := do
  let table ← name
  keyword "set"
  let assignments ← commaList assignment (← size)
  return .update table assignments (← condition)

def deletion : Reader Command := do
  keyword "from"
  let table ← name
  return .delete table (← condition)

def constraints : Nat → ColumnDefinition → Reader ColumnDefinition
  | 0, column => return column
  | fuel + 1, column => do
      if ← keyword? "primary" then
        keyword "key"
        let _ ← keyword? "asc"
        let counted ← keyword? "autoincrement"
        constraints fuel {column with primaryKey := true, autoIncrement := counted}
      else if ← keyword? "not" then
        keyword "null"
        constraints fuel {column with notNull := true}
      else return column

def columnDefinition : Reader ColumnDefinition := do
  let name ← name
  let type ← match ← peek with
    | some (.word s) => if isReserved s then pure "" else do
        advance
        pure s
    | _ => pure ""
  constraints (← size)
    { name, type := lowerWord type, primaryKey := false, autoIncrement := false, notNull := false }

def creation (source : List Char) : Reader Command := do
  keyword "table"
  let written := match (← get).head? with
    | some token => String.ofList ((source.drop token.start).take (token.stop - token.start))
    | none => ""
  let table ← name
  symbol "("
  let columns ← commaList columnDefinition (← size)
  symbol ")"
  return .createTable written table columns

def rollingBack : Reader Command := do
  let _ ← keyword? "transaction"
  if ← keyword? "to" then
    let _ ← keyword? "savepoint"
    return .rollbackTo (← name)
  else return .rollback

def releasing : Reader Command := do
  let _ ← keyword? "savepoint"
  return .release (← name)

def command (source : List Char) : Reader Command := do
  if (← peek).isNone then return .empty
  else if ← keyword? "select" then selection source
  else if ← keyword? "insert" then insertion
  else if ← keyword? "update" then updating
  else if ← keyword? "delete" then deletion
  else if ← keyword? "create" then creation source
  else if ← keyword? "begin" then
    let _ ← keyword? "transaction"
    return .begin
  else if ← keyword? "commit" then
    let _ ← keyword? "transaction"
    return .commit
  else if ← keyword? "rollback" then rollingBack
  else if ← keyword? "savepoint" then return .savepoint (← name)
  else if ← keyword? "release" then releasing
  else fail

end Reader

-- The first statement of a text, the number of its parameters, and the text behind it.
structure Parsed where
  command : Command
  parameters : Nat
  remaining : List Char

def countParameters (tokens : List Token) : Nat :=
  (tokens.filter fun token => match token.mark with
    | .parameter _ => true
    | _ => false).length

-- A statement that lacks something before its semicolon fails at the semicolon.
def atSemicolon : EngineError → EngineError
  | .incompleteInput => .syntaxError ";"
  | e => e

def parse (source : List Char) : Except EngineError Parsed := do
  let (all,remaining) := tokens source
  let (command,unread) ← ((Reader.command source).run all).mapError
    (if remaining.isSome then atSemicolon else id)
  match unread with
  | [] => return ⟨command,countParameters all,remaining.getD []⟩
  | token :: _ => throw token.mark.error

end TypedRows.Sql
