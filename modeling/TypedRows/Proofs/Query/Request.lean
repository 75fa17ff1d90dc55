import TypedRows.Engine.Scripted
import TypedRows.Proofs.Query.Chain
import TypedRows.Proofs.Steps
import TypedRows.Records

namespace TypedRows

-- All work that goes to an engine by way of a query or of a record, as one type; and the
-- statement of each piece of work, which is known before the engine is asked.

variable {σ ρ α γ : Type}

inductive Request (ρ : Type) where
  | toList (chain : List QueryCall)
  | first (chain : List QueryCall)
  | firstOrDefault (chain : List QueryCall)
  | elementAt (chain : List QueryCall) (index : UInt64)
  | count (chain : List QueryCall)
  | countWhere (chain : List QueryCall) (predicate : Expr)
  | delete (chain : List QueryCall) (extra : Option Expr)
  | find (key : Value)
  | get (key : Value)
  | insert (record : ρ)
  | update (record : ρ)
  | deleteRecord (record : ρ)
  | deleteAll

inductive Answer (ρ : Type) where
  | records (all : List ρ)
  | record (one : ρ)
  | found (one : Option ρ)
  | counted (n : Int64)
  | affected (n : Nat)
  | rowid (id : Int64)

namespace Request

def run (engine : Engine σ) (e : Entity ρ) : Request ρ → Step σ (Answer ρ)
  | .toList chain => do .records <$> (← Step.ofExcept (e.query chain)).toList engine
  | .first chain => do .record <$> (← Step.ofExcept (e.query chain)).first engine
  | .firstOrDefault chain => do .found <$> (← Step.ofExcept (e.query chain)).firstOrDefault engine
  | .elementAt chain index => do .record <$> (← Step.ofExcept (e.query chain)).elementAt engine index
  | .count chain => do .counted <$> (← Step.ofExcept (e.query chain)).count engine
  | .countWhere chain predicate => do
      .counted <$> (← Step.ofExcept (e.query chain)).countWhere engine predicate
  | .delete chain extra => do .affected <$> (← Step.ofExcept (e.query chain)).delete engine extra
  | .find key => .found <$> e.find engine key
  | .get key => .record <$> e.get engine key
  | .insert record => .rowid <$> e.insert engine record
  | .update record => .affected <$> e.update engine record
  | .deleteRecord record => .affected <$> e.deleteRecord engine record
  | .deleteAll => .affected <$> e.deleteAll engine

end Request

-- What is sent: a statement, nothing at all, or nothing because the work is refused.
abbrev Plan := Except Error (Option Statement)

def Query.deletePlan (q : Query ρ) (extra : Option Expr) : Plan := do
  let condition ← q.entity.mapping.condition (← q.deletion extra)
  return some ⟨"delete from " ++ quotedName q.table ++ " where " ++ condition.text,condition.args⟩

namespace Entity

variable (e : Entity ρ)

def keyQuery (key : Value) : Except Error (Query ρ) := do
  (Query.all e).filter (keyTest (← e.keyColumn .find) key)

def insertPlan (record : ρ) : Plan := do
  let entries := e.written (← e.values record)
  return some ⟨insertText e.table (entries.map fun entry => entry.1.name),entries.map Prod.snd⟩

def plainEntries (values : List Value) : List (Column × Value) :=
  (e.mapping.columns.zip values).filter fun entry => !entry.1.primaryKey

def updatePlan (record : ρ) : Plan := do
  let column ← e.keyColumn .update
  let values ← e.values record
  let plain := e.plainEntries values
  if plain.isEmpty then return none
  return some
    ⟨"update " ++ quotedName e.table ++ " set " ++
        ", ".intercalate (plain.map fun entry => quotedName entry.1.name ++ " = ?") ++ " where " ++
        quotedName column.name ++ " = ?",
      plain.map Prod.snd ++ [keyValue (e.mapping.columns.zip values)]⟩

def deleteRecordPlan (record : ρ) : Plan := do
  let column ← e.keyColumn .delete
  let values ← e.values record
  let key := (((e.mapping.columns.zip values).find? fun entry => entry.1.primaryKey).map Prod.snd).getD
    .null
  (Query.all e).deletePlan (some (keyTest column key))

end Entity

namespace Request

def plan (e : Entity ρ) : Request ρ → Plan
  | .toList chain => do return some (← (← e.query chain).statement)
  | .first chain => do return some (← (← e.query chain).single.statement)
  | .firstOrDefault chain => do return some (← (← e.query chain).single.statement)
  | .elementAt chain index => do
      return some (← (((← e.query chain).skip index).take 1).single.statement)
  | .count chain => do return some (← (← e.query chain).render "count(*)")
  | .countWhere chain predicate => do
      return some (← (← (← e.query chain).filter predicate).render "count(*)")
  | .delete chain extra => do (← e.query chain).deletePlan extra
  | .find key => do return some (← (← e.keyQuery key).single.statement)
  | .get key => do return some (← (← e.keyQuery key).single.statement)
  | .insert record => e.insertPlan record
  | .update record => e.updatePlan record
  | .deleteRecord record => e.deleteRecordPlan record
  | .deleteAll => .ok (some ⟨"delete from " ++ quotedName e.table,[]⟩)

end Request

-- An engine that works like another one and keeps a list of all that it is asked.
def Step.noted (call : Call) (step : Step σ α) : Step (σ × List Call) α := fun (s,log) =>
  ((step.runFrom s).1,(step.runFrom s).2,log ++ [call])

def Engine.noting (engine : Engine σ) : Engine (σ × List Call) where
  execute text args := (engine.execute text args).noted (.execute text args)
  select text args := (engine.select text args).noted (.select text args)
  lastInsertRowid := fun (s,log) =>
    ((engine.lastInsertRowid.run s).1,(engine.lastInsertRowid.run s).2,log ++ [.lastInsertRowid])

def Call.statement? : Call → Option Statement
  | .execute text args => some ⟨text,args⟩
  | .select text args => some ⟨text,args⟩
  | .lastInsertRowid => none

def statements (calls : List Call) : List Statement := calls.filterMap Call.statement?

def Keeps (plan : Plan) (outcome : Except Error α) (calls : List Call) : Prop :=
  match plan with
  | .error cause => outcome = .error cause ∧ statements calls = []
  | .ok sent => statements calls = sent.toList

-- A step beside the same step over an engine that takes notes: the notes change nothing, and
-- they hold the statement of the plan and no other.
def Follows (step : Step σ α) (noted : Step (σ × List Call) α) (plan : Plan) : Prop :=
  ∀ s log, ∃ calls, noted.runFrom (s,log) =
      ((step.runFrom s).1,(step.runFrom s).2,log ++ calls) ∧ Keeps plan (step.runFrom s).1 calls

namespace Follows

variable {plan : Plan}

theorem known (outcome : Except Error α) :
    Follows (σ := σ) (Step.ofExcept outcome) (Step.ofExcept outcome) (outcome.map fun _ => none) := by
  intro s log
  refine ⟨[],by simp,?_⟩
  cases outcome with
  | error cause => exact ⟨rfl,rfl⟩
  | ok a => rfl

theorem noted (step : Step σ α) (call : Call) :
    Follows step (step.noted call) (.ok call.statement?) := by
  intro s log
  refine ⟨[call],rfl,?_⟩
  cases call <;> rfl

theorem start {outcome : Except Error γ} {next : γ → Step σ α}
    {next' : γ → Step (σ × List Call) α} {plan : γ → Plan}
    (rest : ∀ a, outcome = .ok a → Follows (next a) (next' a) (plan a)) :
    Follows (Step.ofExcept outcome >>= next) (Step.ofExcept outcome >>= next') (outcome >>= plan) := by
  intro s log
  rw [Step.runFrom_bind,Step.runFrom_bind,Step.runFrom_ofExcept,Step.runFrom_ofExcept]
  cases outcome with
  | error cause => exact ⟨[],by simp,rfl,rfl⟩
  | ok a => exact rest a rfl s log

theorem bind {step : Step σ γ} {noted : Step (σ × List Call) γ} {next : γ → Step σ α}
    {next' : γ → Step (σ × List Call) α} (first : Follows step noted plan)
    (silent : ∀ a, Follows (next a) (next' a) (.ok none) ∨
      ∃ cause, Follows (next a) (next' a) (.error cause)) :
    Follows (step >>= next) (noted >>= next') plan := by
  intro s log
  obtain ⟨calls,ran,kept⟩ := first s log
  rw [Step.runFrom_bind,Step.runFrom_bind,ran]
  rcases outcome : step.runFrom s with ⟨cause | a,after⟩
  · rw [outcome] at kept
    refine ⟨calls,rfl,?_⟩
    cases plan with
    | error other =>
      obtain ⟨same,none⟩ := kept
      cases same
      exact ⟨rfl,none⟩
    | ok sent => exact kept
  · rw [outcome] at kept
    have later : ∃ more, (next' a).runFrom (after,log ++ calls) = (((next a).runFrom after).1,
        ((next a).runFrom after).2,log ++ calls ++ more) ∧ statements more = [] := by
      rcases silent a with quiet | ⟨cause,quiet⟩
      · exact quiet after (log ++ calls)
      · obtain ⟨more,ran,_,none⟩ := quiet after (log ++ calls)
        exact ⟨more,ran,none⟩
    obtain ⟨more,ranMore,none⟩ := later
    refine ⟨calls ++ more,by rw [← List.append_assoc]; exact ranMore,?_⟩
    cases plan with
    | error other => cases kept.1
    | ok sent =>
      have both : statements (calls ++ more) = statements calls ++ statements more :=
        List.filterMap_append
      change statements (calls ++ more) = sent.toList
      rw [both,none,List.append_nil]
      exact kept

theorem pure (a : α) : Follows (σ := σ) (pure a) (pure a) (.ok none) := known (.ok a)

theorem throw (cause : Error) :
    Follows (σ := σ) (α := α) (throw cause) (throw cause) (.error cause) := known (.error cause)

theorem settle {step : Step σ γ} {noted : Step (σ × List Call) γ} (first : Follows step noted plan)
    (outcome : γ → Except Error α) :
    Follows (step >>= fun a => Step.ofExcept (outcome a))
      (noted >>= fun a => Step.ofExcept (outcome a)) plan := by
  refine first.bind fun a => ?_
  have quiet := known (σ := σ) (outcome a)
  cases found : outcome a with
  | error cause => exact .inr ⟨cause,by rwa [found] at quiet⟩
  | ok b => exact .inl (by rwa [found] at quiet)

theorem map {step : Step σ γ} {noted : Step (σ × List Call) γ} (first : Follows step noted plan)
    (f : γ → α) : Follows (f <$> step) (f <$> noted) plan := by
  intro s log
  obtain ⟨calls,ran,kept⟩ := first s log
  rw [Step.runFrom_map,Step.runFrom_map,ran]
  refine ⟨calls,rfl,?_⟩
  cases plan with
  | error cause =>
    obtain ⟨failed,none⟩ := kept
    exact ⟨by rw [failed]; rfl,none⟩
  | ok sent => exact kept

end Follows

section

variable (engine : Engine σ)

theorem Query.toList_follows (q : Query ρ) :
    Follows (q.toList engine) (q.toList engine.noting) (do return some (← q.statement)) :=
  .start fun statement _ => Follows.settle (.noted _ (.select statement.text statement.args)) _

theorem Query.firstOrDefault_follows (q : Query ρ) :
    Follows (q.firstOrDefault engine) (q.firstOrDefault engine.noting)
      (do return some (← q.single.statement)) :=
  (q.single.toList_follows engine).bind fun _ => .inl (.pure _)

theorem Query.first_follows (q : Query ρ) :
    Follows (q.first engine) (q.first engine.noting) (do return some (← q.single.statement)) := by
  refine (q.firstOrDefault_follows engine).bind fun found => ?_
  cases found with
  | none => exact .inr ⟨_,.throw _⟩
  | some record => exact .inl (.pure record)

theorem Query.count_follows (q : Query ρ) :
    Follows (q.count engine) (q.count engine.noting) (do return some (← q.render "count(*)")) := by
  refine .start fun statement _ => ?_
  have scalar : Follows (engine.scalar statement.text statement.args)
      (engine.noting.scalar statement.text statement.args) (.ok (some statement)) :=
    Follows.bind (.noted _ (.select statement.text statement.args)) fun _ => .inl (.pure _)
  refine scalar.bind fun v => ?_
  split
  · exact .inl (.pure 0)
  · split
    · exact .inl (.pure _)
    · exact .inr ⟨_,.throw _⟩

theorem Query.countWhere_follows (predicate : Expr) (q : Query ρ) :
    Follows (q.countWhere engine predicate) (q.countWhere engine.noting predicate)
      (do return some (← (← q.filter predicate).render "count(*)")) :=
  .start fun q _ => q.count_follows engine

theorem Query.delete_follows (extra : Option Expr) (q : Query ρ) :
    Follows (q.delete engine extra) (q.delete engine.noting extra) (q.deletePlan extra) :=
  .start fun _ _ => .start fun condition _ => .noted _ (.execute _ condition.args)

namespace Entity

variable (e : Entity ρ)

theorem find_follows (key : Value) :
    Follows (e.find engine key) (e.find engine.noting key)
      (do return some (← (← e.keyQuery key).single.statement)) := by
  have found : (do return some (← (← e.keyQuery key).single.statement) : Plan) = (do
      let column ← e.keyColumn .find
      let q ← (Query.all e).filter (keyTest column key)
      return some (← q.single.statement)) := by
    unfold keyQuery
    cases e.keyColumn .find <;> rfl
  rw [found]
  exact .start fun _ _ => .start fun q _ => q.firstOrDefault_follows engine

theorem get_follows (key : Value) :
    Follows (e.get engine key) (e.get engine.noting key)
      (do return some (← (← e.keyQuery key).single.statement)) := by
  refine (e.find_follows engine key).bind fun found => ?_
  cases found with
  | none => exact .inr ⟨_,.throw _⟩
  | some record => exact .inl (.pure record)

theorem insert_follows (record : ρ) :
    Follows (e.insert engine record) (e.insert engine.noting record) (e.insertPlan record) := by
  refine .start fun values _ => ?_
  refine Follows.bind (.noted _ (.execute _ _)) fun _ => .inl fun s log => ?_
  exact ⟨[.lastInsertRowid],rfl,rfl⟩

theorem update_follows (record : ρ) :
    Follows (e.update engine record) (e.update engine.noting record) (e.updatePlan record) := by
  refine .start fun column _ => .start fun values _ => ?_
  change Follows (if (e.plainEntries values).isEmpty then _ else _)
    (if (e.plainEntries values).isEmpty then _ else _)
    (if (e.plainEntries values).isEmpty then _ else _)
  split
  · exact .pure 0
  · exact .noted _ (.execute _ _)

theorem deleteRecord_follows (record : ρ) :
    Follows (e.deleteRecord engine record) (e.deleteRecord engine.noting record)
      (e.deleteRecordPlan record) :=
  .start fun _ _ => .start fun _ _ => Query.delete_follows engine _ _

end Entity

theorem Request.run_follows (e : Entity ρ) (r : Request ρ) :
    Follows (r.run engine e) (r.run engine.noting e) (r.plan e) := by
  cases r with
  | toList chain => exact .start fun q _ => (q.toList_follows engine).map Answer.records
  | first chain => exact .start fun q _ => (q.first_follows engine).map Answer.record
  | firstOrDefault chain => exact .start fun q _ => (q.firstOrDefault_follows engine).map Answer.found
  | elementAt chain index =>
    exact .start fun q _ => (((q.skip index).take 1).first_follows engine).map Answer.record
  | count chain => exact .start fun q _ => (q.count_follows engine).map Answer.counted
  | countWhere chain predicate =>
    exact .start fun q _ => (q.countWhere_follows engine predicate).map Answer.counted
  | delete chain extra => exact .start fun q _ => (q.delete_follows engine extra).map Answer.affected
  | find key => exact (e.find_follows engine key).map Answer.found
  | get key => exact (e.get_follows engine key).map Answer.record
  | insert record => exact (e.insert_follows engine record).map Answer.rowid
  | update record => exact (e.update_follows engine record).map Answer.affected
  | deleteRecord record => exact (e.deleteRecord_follows engine record).map Answer.affected
  | deleteAll =>
    exact Follows.map (.noted _ (.execute ("delete from " ++ quotedName e.table) [])) Answer.affected

end

end TypedRows
