import TypedRows.Database.Disk
import TypedRows.Database.Journal
import TypedRows.Rows
import TypedRows.Session
import TypedRows.Sql.Prepare

namespace TypedRows

-- One handle to a database. Inside a transaction it works on a copy, which it takes with
-- the first statement that reads or writes, and the copy is written back by the commit.
-- Statements that were run are kept with the names of their result columns, last one first.
-- The first statement that is not about transactions reads which tables there are.
structure Handle where
  id : Nat
  volume : Nat
  readOnly : Bool
  knowsTables : Bool
  journal : Journal Sql.Contents
  started : Bool
  lastRowid : Int64
  changes : Nat
  statements : List (List Char × List String)
  interruptNext : Bool

structure Database where
  disk : Disk
  handle : Handle

abbrev DatabaseStep (α : Type) := ExceptT EngineError (StateM Database) α

def Handle.new (id volume : Nat) (readOnly : Bool) : Handle :=
  { id, volume, readOnly, knowsTables := false, journal := { current := [], levels := [] }
    started := false, lastRowid := 0, changes := 0, statements := [], interruptNext := false }

def Handle.isInTransaction (h : Handle) : Bool := h.journal.isOpen

def Disk.open (name : String) (flags : Nat) (d : Disk) : Except EngineError (Handle × Disk) := do
  let location ← Location.ofName name flags
  match d.openAt location with
  | some (volume,d) =>
      return (.new d.handles volume location.grant.isReadOnly,{d with handles := d.handles + 1})
  | none => throw (.cannotOpen name)

namespace Database

def volume (db : Database) : Volume := db.disk.volume db.handle.volume

def changeVolume (change : Volume → Volume) (db : Database) : Database :=
  {db with disk := db.disk.changeVolume db.handle.volume change}

def refreshed (db : Database) : Database :=
  let h := db.handle
  if h.journal.isOpen && h.started then db
  else {db with handle := {h with journal := h.journal.restarted db.volume.contents}}

def look : DatabaseStep Sql.Contents := do
  modify refreshed
  return (← get).handle.journal.current

def holding (hold : Hold) (db : Database) : Database :=
  if db.handle.journal.isOpen then
    let db := db.changeVolume (·.held db.handle.id hold)
    {db with handle := {db.handle with started := true}}
  else db

def startReading : DatabaseStep Sql.Contents := do
  let db ← get
  if !(db.handle.journal.isOpen && db.handle.started) then
    if !db.volume.mayRead db.handle.id then throw .busy
    modify fun db => db.refreshed.holding .reading
  look

def startWriting : DatabaseStep Sql.Contents := do
  let db ← get
  if !db.volume.mayWrite db.handle.id then throw .busy
  let contents ← startReading
  if !db.volume.holds.contains (db.handle.id,.committing) then modify (holding .writing)
  return contents

def keep (contents : Sql.Contents) : DatabaseStep Unit := do
  let db ← get
  let h := db.handle
  if h.journal.isOpen then
    set {db with handle := {h with journal := {h.journal with current := contents}}}
  else
    if !db.volume.mayCommit h.id then throw .busy
    set {db with disk := db.disk.write h.volume contents}

def ended (db : Database) : Database :=
  let db := db.changeVolume (·.freed db.handle.id)
  {db with handle := {db.handle with started := false}}

-- A commit that has to wait for readers leaves the transaction open, also when it has
-- nothing to write.
def settle (journal : Journal Sql.Contents) : DatabaseStep Unit := do
  let db ← get
  let h := db.handle
  if db.volume.isWriting h.id then
    if !db.volume.mayCommit h.id then
      modify (holding .committing)
      throw .busy
    modify fun db => {db with disk := db.disk.write h.volume h.journal.current}
  modify fun db => {db with handle := {db.handle with journal}}
  modify ended

def setJournal (journal : Journal Sql.Contents) : DatabaseStep Unit :=
  modify fun db => {db with handle := {db.handle with journal}}

def transact (command : TransactionCommand) : DatabaseStep Unit := do
  let journal := (← get).handle.journal
  match command with
  | .begin => setJournal (← liftExcept journal.begin)
  | .commit => settle (← liftExcept journal.commit)
  | .rollback => do
      setJournal (← liftExcept journal.rollback)
      modify ended
  | .savepoint name => setJournal (journal.savepoint name)
  | .release name => do
      let journal ← liftExcept (journal.release name)
      if journal.isOpen then setJournal journal else settle journal
  | .rollbackTo name => setJournal (← liftExcept (journal.rollbackTo name))
where
  liftExcept {α : Type} (e : Except EngineError α) : DatabaseStep α := fun db => (e,db)

def learnTables : DatabaseStep Unit := do
  let db ← get
  if !db.handle.knowsTables then
    if !db.volume.mayRead db.handle.id then throw .busy
    set {db with handle := {db.handle with knowsTables := true}}

def prepared (parsed : Sql.Parsed) : DatabaseStep Sql.Prepared := do
  if parsed.command.isAboutData then learnTables
  match parsed.command.check (← look) with
  | .ok names => return ⟨parsed.command,parsed.parameters,names⟩
  | .error e => throw e

def parse (source : List Char) : DatabaseStep Sql.Parsed := fun db => (Sql.parse source,db)

def prepare (text : String) : DatabaseStep Sql.Prepared := do prepared (← parse text.toList)

def interruption : DatabaseStep Unit := do
  if (← get).handle.interruptNext then
    modify fun db => {db with handle := {db.handle with interruptNext := false}}
    throw .interrupted

def abandon (db : Database) : Database :=
  match db.handle.journal.rollback with
  | .ok journal => ended {db with handle := {db.handle with journal}}
  | .error _ => db

def countChanges (changes : Nat) : DatabaseStep Unit :=
  modify fun db => {db with handle := {db.handle with changes}}

def change (command : Sql.Command) (arguments : List Sql.Datum) : DatabaseStep Unit := do
  if (← get).handle.readOnly then throw .readOnly
  try
    let contents ← startWriting
    let attempt := command.change contents arguments
    modify fun db => {db with handle := {db.handle with
      lastRowid := attempt.lastId.getD db.handle.lastRowid }}
    match attempt.outcome with
    | .error e => do
        if e.losesTransaction && !command.undoesItself contents then modify abandon
        throw e
    | .ok changed => do
        keep changed.contents
        if let some affected := changed.affected then countChanges affected
  catch e => do
    countChanges 0
    throw e

def checkArguments (arguments : List Sql.Datum) (needed : Nat) : DatabaseStep Unit :=
  if arguments.length = needed then return ()
  else throw (.parameterCount (min arguments.length (needed + 1)) needed)

def run (p : Sql.Prepared) (arguments : List Sql.Datum) : DatabaseStep Sql.Scan := do
  checkArguments arguments p.parameters
  interruption
  match p.command with
  | .empty => return .nothing []
  | .select s =>
      let contents ← if s.tables.isEmpty then look else startReading
      return s.scan ⟨contents,s.table.bind fun name => Sql.findTable name contents,arguments⟩
  | .begin => transact .begin
  | .commit => transact .commit
  | .rollback => transact .rollback
  | .savepoint name => transact (.savepoint name)
  | .release name => transact (.release name)
  | .rollbackTo name => transact (.rollbackTo name)
  | command => change command arguments
  return .nothing []

def argumentsOf (args : List Value) : List Sql.Datum :=
  args.map fun v => .ofStored v.stored

def keptStatements : Nat := 16

def keepStatement (key : List Char) (names : List String) (db : Database) : Database :=
  let others := db.handle.statements.filter fun statement => statement.1 != key
  {db with handle := {db.handle with
    statements := ((key,names) :: others).take keptStatements }}

-- A kept statement goes on under the names that it had when it was last prepared, and is
-- prepared again by the run itself if it has to be.
def runKept (text : String) (args : List Value) : DatabaseStep (List String × Sql.Scan) := do
  let key := Text.trim text.toList
  let parsed ← parse key
  let arguments := argumentsOf args
  match (← get).handle.statements.lookup key with
  | none => do
      let p ← prepared parsed
      modify (keepStatement key p.names)
      return (p.names,← run p arguments)
  | some names => do
      modify (keepStatement key names)
      checkArguments arguments parsed.parameters
      let p ← prepared parsed
      modify (keepStatement key p.names)
      return (names,← run p arguments)

-- The number of rows that the last change touched, also when the statement changed none.
def execute (text : String) (args : List Value) : DatabaseStep Nat := do
  let (_,scan) ← runKept text args
  match scan.rows, scan.failure with
  | _ :: _, _ => throw .returnedRows
  | [], some e => throw e
  | [], none => return (← get).handle.changes

def resultSet (names : List String) (scan : Sql.Scan) : ResultSet :=
  scan.rows.foldl (fun rs row => rs.add (row.map fun d => d.stored.value))
    (ResultSet.empty.setNames names)

def select (text : String) (args : List Value) : DatabaseStep ResultSet := do
  let (names,scan) ← runKept text args
  match scan.failure with
  | some e => throw e
  | none => return resultSet names scan

def batchFrom : Nat → List Char → DatabaseStep Unit
  | 0, _ => return ()
  | fuel + 1, source => do
      let parsed ← parse source
      let p ← prepared parsed
      let _ ← run p []
      if parsed.remaining.isEmpty then return ()
      else batchFrom fuel parsed.remaining

def batch (text : String) : DatabaseStep Unit := batchFrom (text.length + 1) text.toList

def step {α : Type} (s : DatabaseStep α) : Step Database α := fun db =>
  let (outcome,db) := s.run db
  (outcome.mapError .engine,db)

def engine : Engine Database where
  execute text args := step (execute text args)
  select text args := step (select text args)
  lastInsertRowid := fun db => (db.handle.lastRowid,db)

def transactor : Transactor Database where
  run command := batch command.text

end Database

def Database.ofPair (p : Disk × Handle) : Database := ⟨p.1,p.2⟩

def Database.toPair (db : Database) (_ : Disk × Handle) : Disk × Handle := (db.disk,db.handle)

end TypedRows
