import TypedRows.Proofs.Query.Streams

namespace TypedRows

-- A selection reads a database and changes nothing of what it reads, so it can be run again.

namespace Sql

def Reader.Gives {α : Type} (P : α → Prop) (reader : Reader α) : Prop :=
  ∀ tokens a rest, reader.run tokens = .ok (a,rest) → P a

theorem Reader.Gives.bind {α β : Type} {P : β → Prop} {first : Reader α} {next : α → Reader β}
    (later : ∀ a, Reader.Gives P (next a)) : Reader.Gives P (first >>= next) := by
  intro tokens b rest read
  rw [StateT.run_bind] at read
  cases ran : first.run tokens with
  | error e => rw [ran] at read; cases read
  | ok found => rw [ran] at read; exact later found.1 found.2 b rest read

theorem Reader.Gives.pure {α : Type} {P : α → Prop} {a : α} (holds : P a) :
    Reader.Gives P (pure a : Reader α) := by
  intro tokens b rest read
  cases read
  exact holds

theorem selection_gives (source : List Char) :
    (Reader.selection source).Gives fun command => ∃ s, command = .select s := by
  unfold Reader.selection
  refine .bind fun items => .bind fun size => .bind fun named => ?_
  cases named with
  | true => exact .bind fun _ => .bind fun _ => .bind fun _ => .bind fun _ => .pure ⟨_,rfl⟩
  | false => exact .bind fun _ => .bind fun _ => .bind fun _ => .bind fun _ => .pure ⟨_,rfl⟩

theorem tokens_select (rest : List Char) : ∃ start stop later left,
    tokens ("select ".toList ++ rest) = (⟨.word "select",start,stop⟩ :: later,left) :=
  ⟨_,_,_,_,rfl⟩

theorem parse_select {rest : List Char} {parsed : Parsed}
    (read : parse ("select ".toList ++ rest) = .ok parsed) : ∃ s, parsed.command = .select s := by
  obtain ⟨start,stop,later,left,scanned⟩ := tokens_select rest
  have command (source : List Char) : (Reader.command source).run (⟨.word "select",start,stop⟩ :: later) =
      (Reader.selection source).run later := rfl
  rw [parse,scanned] at read
  simp only [command] at read
  cases ran : (Reader.selection ("select ".toList ++ rest)).run later with
  | error e => rw [ran] at read; cases read
  | ok found =>
    obtain ⟨s,selected⟩ := selection_gives _ later found.1 found.2 ran
    rw [ran] at read
    rcases found with ⟨found,_ | ⟨token,unread⟩⟩
    · cases read
      exact ⟨s,selected⟩
    · cases read

end Sql

namespace Database

section

variable {α β : Type}

theorem run_bind (first : DatabaseStep α) (next : α → DatabaseStep β) (db : Database) :
    (first >>= next).run db =
      match first.run db with
      | (.ok a,db) => (next a).run db
      | (.error e,db) => (.error e,db) := by
  change ExceptT.bindCont next (first.run db).1 (first.run db).2 = _
  rcases first.run db with ⟨e | a,db'⟩ <;> rfl

theorem run_pure (a : α) (db : Database) : (pure a : DatabaseStep α).run db = (.ok a,db) := rfl

theorem run_get (db : Database) : (get : DatabaseStep Database).run db = (.ok db,db) := rfl

theorem run_throw (e : EngineError) (db : Database) :
    (throw e : DatabaseStep α).run db = (.error e,db) := rfl

theorem run_modify (change : Database → Database) (db : Database) :
    (modify change : DatabaseStep Unit).run db = (.ok (),change db) := rfl

end

variable {db db' : Database}

def reading (s : Sql.Selection) : DatabaseStep Sql.Contents :=
  if s.tables.isEmpty then look else startReading

theorem refreshed_inside (inside : (db.handle.journal.isOpen && db.handle.started) = true) :
    db.refreshed = db := by rw [refreshed,inside]; rfl

theorem refreshed_changes (db : Database) :
    ∃ journal, journal.isOpen = db.handle.journal.isOpen ∧
      db.refreshed = {db with handle := {db.handle with journal}} := by
  cases inside : db.handle.journal.isOpen && db.handle.started with
  | true => exact ⟨db.handle.journal,rfl,refreshed_inside inside⟩
  | false =>
    refine ⟨db.handle.journal.restarted db.volume.contents,?_,by rw [refreshed,inside]; rfl⟩
    simp [Journal.restarted,Journal.isOpen]

theorem refreshed_again (db : Database) : db.refreshed.refreshed = db.refreshed := by
  cases inside : db.handle.journal.isOpen && db.handle.started with
  | true => rw [refreshed_inside inside,refreshed_inside inside]
  | false =>
    have fresh (db : Database) (inside : (db.handle.journal.isOpen && db.handle.started) = false) :
        db.refreshed = {db with handle := {db.handle with
          journal := db.handle.journal.restarted db.volume.contents }} := by
      rw [refreshed,inside]
      rfl
    have still : (db.refreshed.handle.journal.isOpen && db.refreshed.handle.started) = false := by
      obtain ⟨journal,same,changed⟩ := refreshed_changes db
      rw [changed,← inside,← same]
    rw [fresh _ still,fresh db inside]
    simp [Journal.restarted,volume]

structure Settled (db : Database) : Prop where
  fresh : db.refreshed = db
  free : (db.handle.journal.isOpen && db.handle.started) = true ∨
    db.handle.journal.isOpen = false ∧ db.volume.mayRead db.handle.id = true

theorem look_run (db : Database) :
    look.run db = (.ok db.refreshed.handle.journal.current,db.refreshed) := rfl

theorem startReading_run (db : Database) : startReading.run db =
    if (db.handle.journal.isOpen && db.handle.started) = true then look.run db
    else if db.volume.mayRead db.handle.id = true then look.run (db.refreshed.holding .reading)
    else (.error .busy,db) := by
  unfold startReading
  rw [run_bind,run_get]
  cases inside : db.handle.journal.isOpen && db.handle.started with
  | true => simp [inside]
  | false =>
    cases free : db.volume.mayRead db.handle.id with
    | true => simp [inside,free,run_bind,run_modify]
    | false => simp [inside,free,run_throw]

theorem Settled.startReading_run (settled : db.Settled) :
    startReading.run db = (.ok db.handle.journal.current,db) := by
  rw [Database.startReading_run]
  rcases settled.free with inside | ⟨closed,free⟩
  · rw [if_pos inside,look_run,settled.fresh]
  · have held : db.refreshed.holding .reading = db := by
      rw [settled.fresh,holding,closed]
      rfl
    rw [closed,Bool.false_and,if_neg Bool.false_ne_true,if_pos free,held,look_run,settled.fresh]

-- What has been read once can be read again.
theorem startReading_settles (db : Database) :
    startReading.run db = (.error .busy,db) ∨
      ∃ db' : Database, db'.Settled ∧ db'.handle.interruptNext = db.handle.interruptNext ∧
        startReading.run db = (.ok db'.handle.journal.current,db') := by
  rw [Database.startReading_run]
  cases inside : db.handle.journal.isOpen && db.handle.started with
  | true =>
    refine .inr ⟨db,⟨refreshed_inside inside,.inl inside⟩,rfl,?_⟩
    rw [if_pos rfl,look_run,refreshed_inside inside]
  | false =>
    rw [if_neg Bool.false_ne_true]
    cases free : db.volume.mayRead db.handle.id with
    | false => exact .inl (if_neg Bool.false_ne_true)
    | true =>
      obtain ⟨journal,same,changed⟩ := refreshed_changes db
      rw [if_pos rfl,look_run]
      cases opened : db.handle.journal.isOpen with
      | true =>
        have held : ((db.refreshed.holding .reading).handle.journal.isOpen &&
            (db.refreshed.holding .reading).handle.started) = true := by
          rw [holding,changed]
          simp [same,opened,changeVolume]
        refine .inr ⟨_,⟨refreshed_inside held,.inl held⟩,?_,by rw [refreshed_inside held]⟩
        rw [holding,changed]
        simp [same,opened,changeVolume]
      | false =>
        have unheld : db.refreshed.holding .reading = db.refreshed := by
          rw [holding,changed]
          simp [same,opened]
        rw [unheld]
        refine .inr ⟨db.refreshed,⟨refreshed_again db,.inr ?_⟩,?_,by rw [refreshed_again]⟩
        · rw [changed]
          exact ⟨same.trans opened,free⟩
        · rw [changed]

theorem reading_again (s : Sql.Selection) (db : Database) :
    (reading s).run db = (.error .busy,db) ∨ ∃ (contents : Sql.Contents) (db' : Database),
      db'.handle.interruptNext = db.handle.interruptNext ∧
      (reading s).run db = (.ok contents,db') ∧ (reading s).run db' = (.ok contents,db') := by
  unfold reading
  split
  · refine .inr ⟨_,db.refreshed,?_,look_run db,by rw [look_run,refreshed_again]⟩
    obtain ⟨_,_,changed⟩ := refreshed_changes db
    rw [changed]
  · obtain busy | ⟨db',settled,same,ran⟩ := startReading_settles db
    · exact .inl busy
    · exact .inr ⟨_,db',same,ran,settled.startReading_run⟩

theorem interruption_run (db : Database) : interruption.run db =
    if db.handle.interruptNext = true then
      (.error .interrupted,{db with handle := {db.handle with interruptNext := false}})
    else (.ok (),db) := by
  unfold interruption
  rw [run_bind,run_get]
  cases pending : db.handle.interruptNext with
  | true => simp [pending,run_bind,run_modify,run_throw]
  | false => simp [pending,run_pure]

section

variable {p : Sql.Prepared} {s : Sql.Selection} {arguments : List Sql.Datum}
  {outcome : Except EngineError Sql.Scan}

theorem run_select (selected : p.command = .select s) :
    run p arguments = do
      checkArguments arguments p.parameters
      interruption
      let contents ← reading s
      return s.scan ⟨contents,s.table.bind fun name => Sql.findTable name contents,arguments⟩ := by
  unfold run reading
  rw [selected]
  refine bind_congr fun _ => bind_congr fun _ => ?_
  dsimp only
  split <;> rfl

theorem run_again (selected : p.command = .select s) (ran : (run p arguments).run db = (outcome,db'))
    (undisturbed : outcome ≠ .error .interrupted) : (run p arguments).run db' = (outcome,db') := by
  rw [run_select selected,checkArguments] at ran ⊢
  by_cases complete : arguments.length = p.parameters
  · rw [if_pos complete] at ran ⊢
    simp only [run_pure,run_bind,interruption_run] at ran ⊢
    cases pending : db.handle.interruptNext with
    | true =>
      simp only [pending,if_true] at ran
      cases ran
      exact absurd rfl undisturbed
    | false =>
      simp only [pending,Bool.false_eq_true,if_false] at ran
      obtain busy | ⟨contents,after,quiet,first,second⟩ := reading_again s db
      · rw [busy] at ran
        cases ran
        simp [pending,busy]
      · rw [first] at ran
        cases ran
        simp [quiet,pending,second]
  · rw [if_neg complete,run_bind,run_throw] at ran ⊢
    cases ran
    rfl

theorem prepared_command {parsed : Sql.Parsed} (ran : (prepared parsed).run db = (.ok p,db')) :
    p.command = parsed.command := by
  unfold prepared at ran
  split at ran
  on_goal 1 =>
    rw [run_bind] at ran
    split at ran
    on_goal 2 => cases ran
  all_goals
    rw [run_bind,look_run] at ran
    dsimp only at ran
    split at ran <;> cases ran
    rfl

theorem prepare_command {text : String} (ran : (prepare text).run db = (.ok p,db')) :
    ∃ parsed, Sql.parse text.toList = .ok parsed ∧ p.command = parsed.command := by
  rw [prepare,run_bind,show (parse text.toList).run db = (Sql.parse text.toList,db) from rfl] at ran
  cases read : Sql.parse text.toList with
  | error e => rw [read] at ran; cases ran
  | ok parsed => exact ⟨parsed,rfl,prepared_command (by rw [read] at ran; exact ran)⟩

end

theorem step_runFrom {α : Type} (action : DatabaseStep α) (db : Database) :
    (step action).runFrom db = ((action.run db).1.mapError .engine,(action.run db).2) := rfl

theorem streamOf_resultSet (names : List String) (scan : Sql.Scan) :
    (streamOf {scan with names}).resultSet =
      scan.failure.elim (.ok (resultSet names scan)) fun e => .error (.engine e) := by
  have read (rows : List (List Sql.Datum)) (failure : Option Error) :
      Stream.readAll (fun row => .ok row.values) names failure
        (rows.map fun row => .ok (row.map fun d => d.stored.value)) =
      failure.elim (.ok (rows.map fun row => row.map fun d => d.stored.value)) .error := by
    induction rows with
    | nil => cases failure <;> rfl
    | cons row rest ih =>
      rw [List.map_cons,Stream.readAll,ih]
      cases failure <;> rfl
  unfold Stream.resultSet streamOf
  simp only [read]
  cases scan.failure with
  | some e => rfl
  | none => exact congrArg Except.ok List.foldl_map

-- The engine answers a selection with the stream of what it finds.
theorem engine_select (text : String) (args : List Value) (db : Database) :
    (engine.select text args).runFrom db =
      match (runKept text args).run db with
      | (.ok (names,scan),db) => ((streamOf {scan with names}).resultSet,db)
      | (.error e,db) => (.error (.engine e),db) := by
  change (step (select text args)).runFrom db = _
  rw [step_runFrom,select,run_bind]
  rcases (runKept text args).run db with ⟨e | ⟨names,scan⟩,after⟩
  · rfl
  · dsimp only
    rw [streamOf_resultSet]
    cases scan.failure <;> rfl

end Database

end TypedRows
