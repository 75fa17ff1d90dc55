import TypedRows.Client
import TypedRows.Proofs.Pool.View
import TypedRows.Proofs.Transaction.Levels

namespace TypedRows

-- All that a client can be asked for, what each task does under the lock of its connection, and
-- that nothing of it changes what the session is known by.

section

variable {σ τ α : Type} (part : σ → τ)

def Step.Keeps (step : Step σ α) : Prop := ∀ s, part (step.runFrom s).2 = part s

def Action.Keeps (action : Action σ α) : Prop := ∀ s, part (action.runFrom s).2 = part s

structure Engine.Keeps (engine : Engine σ) : Prop where
  execute : ∀ text args, (engine.execute text args).Keeps part
  select : ∀ text args, (engine.select text args).Keeps part
  rowid : ∀ s, part (engine.lastInsertRowid.run s).2 = part s

end

namespace Step.Keeps

variable {σ τ α γ : Type} {part : σ → τ}

theorem pure (a : α) : (Pure.pure a : Step σ α).Keeps part := fun _ => rfl

theorem throw (e : Error) : (MonadExcept.throw e : Step σ α).Keeps part := fun _ => rfl

theorem ofExcept (outcome : Except Error α) : (Step.ofExcept outcome : Step σ α).Keeps part :=
  fun _ => rfl

theorem bind {first : Step σ α} {next : α → Step σ γ} (here : first.Keeps part)
    (later : ∀ a, (next a).Keeps part) : (first >>= next).Keeps part := by
  intro s
  have start := here s
  rw [Step.runFrom_bind]
  rcases ran : first.runFrom s with ⟨e | a,s1⟩ <;> rw [ran] at start
  · exact start
  · exact (later a s1).trans start

theorem action {step : Step σ α} (keeps : step.Keeps part) : step.action.Keeps part := by
  intro s
  have kept := keeps s
  rw [Action.runFrom_action]
  rcases ran : step.runFrom s with ⟨e | a,s1⟩ <;> rw [ran] at kept <;> exact kept

end Step.Keeps

theorem Action.Keeps.bind {σ τ α γ : Type} {part : σ → τ} {first : Action σ α}
    {next : α → Action σ γ} (here : first.Keeps part) (later : ∀ a, (next a).Keeps part) :
    (first >>= next).Keeps part := by
  intro s
  have start := here s
  rw [Action.runFrom_bind]
  rcases ran : first.runFrom s with ⟨halt | a,s1⟩ <;> rw [ran] at start
  · exact start
  · exact (later a s1).trans start

-- Queries and records touch nothing that their engine does not touch.

section

variable {σ τ ρ : Type} {part : σ → τ} {engine : Engine σ} (keeps : engine.Keeps part)

include keeps

namespace Query

variable (q : Query ρ)

theorem toList_keeps : (q.toList engine).Keeps part :=
  .bind (.ofExcept _) fun statement =>
    .bind (keeps.select statement.text statement.args) fun _ => .ofExcept _

theorem firstOrDefault_keeps : (q.firstOrDefault engine).Keeps part :=
  .bind (q.single.toList_keeps keeps) fun _ => .pure _

theorem first_keeps : (q.first engine).Keeps part := by
  refine .bind (q.firstOrDefault_keeps keeps) fun found => ?_
  cases found with
  | none => exact .throw _
  | some record => exact .pure record

theorem count_keeps : (q.count engine).Keeps part := by
  refine .bind (.ofExcept _) fun statement => .bind ?_ fun v => ?_
  · exact .bind (keeps.select statement.text statement.args) fun _ => .pure _
  · split
    · exact .pure 0
    · split
      · exact .pure _
      · exact .throw _

theorem delete_keeps (extra : Option Expr) : (q.delete engine extra).Keeps part :=
  .bind (.ofExcept _) fun _ => .bind (.ofExcept _) fun condition => keeps.execute _ condition.args

end Query

namespace Entity

variable (e : Entity ρ)

theorem find_keeps (key : Value) : (e.find engine key).Keeps part :=
  .bind (.ofExcept _) fun _ => .bind (.ofExcept _) fun q => q.firstOrDefault_keeps keeps

theorem get_keeps (key : Value) : (e.get engine key).Keeps part := by
  refine .bind (e.find_keeps keeps key) fun found => ?_
  cases found with
  | none => exact .throw _
  | some record => exact .pure record

theorem insert_keeps (record : ρ) : (e.insert engine record).Keeps part :=
  .bind (.ofExcept _) fun _ => .bind (keeps.execute _ _) fun _ s => keeps.rowid s

theorem update_keeps (record : ρ) : (e.update engine record).Keeps part := by
  refine .bind (.ofExcept _) fun column => .bind (.ofExcept _) fun values => ?_
  change Step.Keeps part (if _ then _ else _)
  split
  · exact .pure 0
  · exact keeps.execute _ _

theorem deleteRecord_keeps (record : ρ) : (e.deleteRecord engine record).Keeps part :=
  .bind (.ofExcept _) fun _ => .bind (.ofExcept _) fun _ => Query.delete_keeps keeps _ _

end Entity

end

theorem Client.insertEach_keeps {δ η τ ρ : Type} {part : Locked (δ × η) → τ}
    {engine : Engine (Locked (δ × η))} (keeps : engine.Keeps part) (e : Entity ρ)
    (records : List ρ) : (Client.insertEach engine e records).Keeps part := by
  induction records with
  | nil => exact .pure ()
  | cons record rest ih => exact .bind (e.insert_keeps keeps record) fun _ => ih

-- What a helper of a client does on its connection. The query of a table is built before.
inductive Errand (ρ : Type) where
  | execute (text : String) (args : List Value)
  | query (text : String) (args : List Value)
  | queryScalar (text : String) (args : List Value)
  | insert (e : Entity ρ) (record : ρ)
  | update (e : Entity ρ) (record : ρ)
  | deleteRecord (e : Entity ρ) (record : ρ)
  | find (e : Entity ρ) (key : Value)
  | get (e : Entity ρ) (key : Value)
  | toList (q : Query ρ)
  | count (q : Query ρ)
  | first (q : Query ρ)
  | firstOrDefault (q : Query ρ)
  | elementAt (q : Query ρ) (index : UInt64)
  | delete (q : Query ρ) (extra : Option Expr)

namespace Errand

variable {σ τ ρ : Type} {part : σ → τ} {engine : Engine σ}

def Answer : Errand ρ → Type
  | .execute _ _ => Nat
  | .query _ _ => ResultSet
  | .queryScalar _ _ => Value
  | .insert _ _ => Int64
  | .update _ _ => Nat
  | .deleteRecord _ _ => Nat
  | .find _ _ => Option ρ
  | .get _ _ => ρ
  | .toList _ => List ρ
  | .count _ => Int64
  | .first _ => ρ
  | .firstOrDefault _ => Option ρ
  | .elementAt _ _ => ρ
  | .delete _ _ => Nat

def step (engine : Engine σ) : (errand : Errand ρ) → Step σ errand.Answer
  | .execute text args => engine.execute text args
  | .query text args => engine.select text args
  | .queryScalar text args => engine.scalar text args
  | .insert e record => e.insert engine record
  | .update e record => e.update engine record
  | .deleteRecord e record => e.deleteRecord engine record
  | .find e key => e.find engine key
  | .get e key => e.get engine key
  | .toList q => q.toList engine
  | .count q => q.count engine
  | .first q => q.first engine
  | .firstOrDefault q => q.firstOrDefault engine
  | .elementAt q index => q.elementAt engine index
  | .delete q extra => q.delete engine extra

theorem step_keeps (keeps : engine.Keeps part) (errand : Errand ρ) :
    (errand.step engine).Keeps part := by
  cases errand with
  | execute text args => exact keeps.execute text args
  | query text args => exact keeps.select text args
  | queryScalar text args => exact .bind (keeps.select text args) fun _ => .pure _
  | insert e record => exact e.insert_keeps keeps record
  | update e record => exact e.update_keeps keeps record
  | deleteRecord e record => exact e.deleteRecord_keeps keeps record
  | find e key => exact e.find_keeps keeps key
  | get e key => exact e.get_keeps keeps key
  | toList q => exact q.toList_keeps keeps
  | count q => exact q.count_keeps keeps
  | first q => exact q.first_keeps keeps
  | firstOrDefault q => exact q.firstOrDefault_keeps keeps
  | elementAt q index => exact ((q.skip index).take 1).first_keeps keeps
  | delete q extra => exact q.delete_keeps keeps extra

end Errand

def Locked.badge {β : Type} (l : Locked β) : Badge := l.session.badge

theorem Locked.badge_unlock {β α : Type} (outcome : Except Halt α) (l : Locked β) :
    (l.unlock outcome).badge = l.badge := by
  rcases outcome with (_ | _) | _ <;> rfl

theorem Engine.locked_keeps {β : Type} (engine : Engine β) : engine.locked.Keeps Locked.badge where
  execute _ _ _ := rfl
  select _ _ _ := rfl
  rowid _ := rfl

namespace Transactor

variable {β α : Type} (t : Transactor β)

theorem badge_undone (l : Locked β) : (t.undone l).badge = l.badge := by
  unfold undone
  split <;> rfl

theorem save_keeps : t.save.Keeps Locked.badge := by
  intro l
  rw [t.save_runFrom]
  rcases t.sent (.savepoint (nextSavepoint l)) l.handle with ⟨e | u,handle⟩
  · dsimp only
    split
    · exact t.badge_undone _
    · rfl
  · rfl

theorem savepointCommand_keeps (name : String) (command : TransactionCommand) :
    (t.savepointCommand name command).Keeps Locked.badge := by
  intro l
  rw [t.savepointCommand_runFrom]
  cases Session.depthOf name with
  | none => rfl
  | some depth =>
    dsimp only
    split <;> rfl

theorem runInTransaction_keeps {action : Action (Locked β) α} (keeps : action.Keeps Locked.badge) :
    (t.runInTransaction action).Keeps Locked.badge := by
  have inner : (t.bracketed action).Keeps Locked.badge :=
    .bind t.save_keeps.action fun name => .bind keeps fun _ =>
      .bind (t.savepointCommand_keeps name (.release name)).action fun _ _ => rfl
  intro l
  have kept := inner l
  rw [t.runInTransaction_bracketed]
  rcases ran : (t.bracketed action).runFrom l with ⟨(e | _) | value,l1⟩ <;> rw [ran] at kept
  · exact (t.badge_undone l1).trans kept
  · exact kept
  · exact kept

end Transactor

-- A task of a client. The work of a caller may be anything that can be done with a connection.
inductive ClientTask (δ η : Type) : Type 1 where
  | runCancellable {ρ : Type} (token : Cancellation) (work : Action (Locked (δ × η)) ρ)
  | run {ρ : Type} (work : Action (Locked (δ × η)) ρ)
  | runInTransaction {ρ : Type} (work : Action (Locked (δ × η)) ρ)
  | errand {ρ : Type} (chore : Errand ρ)
  | insertAll {ρ : Type} (e : Entity ρ) (records : List ρ)
  | countWhere {ρ : Type} (predicate : Expr) (q : Query ρ)

namespace ClientTask

variable {δ η : Type}

def Answer : ClientTask δ η → Type
  | @runCancellable _ _ ρ _ _ => ρ
  | @run _ _ ρ _ => ρ
  | @runInTransaction _ _ ρ _ => ρ
  | .errand chore => chore.Answer
  | .insertAll _ _ => Nat
  | .countWhere _ _ => Int64

def token : ClientTask δ η → Cancellation
  | .runCancellable token _ => token
  | _ => .never

def refusal : ClientTask δ η → Option Error
  | .countWhere predicate q => match q.filter predicate with
      | .ok _ => none
      | .error cause => some cause
  | _ => none

section

variable (opener : Opener δ η) (t : Transactor (δ × η)) (engine : Engine (δ × η)) (client : Client)

def perform : (task : ClientTask δ η) → Step (Pools δ η) task.Answer
  | .runCancellable token work => client.runCancellable opener token work
  | .run work => client.run opener work
  | .runInTransaction work => client.runInTransaction opener t work
  | .errand chore => client.runStep opener (chore.step engine.locked)
  | .insertAll e records => client.insertAll opener t engine e records
  | .countWhere predicate q => client.countWhere opener engine predicate q

def closure : (task : ClientTask δ η) → Action (Locked (δ × η)) task.Answer
  | .runCancellable _ work => work
  | .run work => work
  | .runInTransaction work => t.runInTransaction work
  | .errand chore => (chore.step engine.locked).action
  | .insertAll e records => t.runInTransaction do
      (Client.insertEach engine.locked e records).action
      return records.length
  | .countWhere predicate q => (q.countWhere engine.locked predicate).action

-- The work of a caller has no access to the pool, so it cannot change what the pool knows its
-- connection by.
def KeepsToItself : ClientTask δ η → Prop
  | .runCancellable _ work => work.Keeps Locked.badge
  | .run work => work.Keeps Locked.badge
  | .runInTransaction work => work.Keeps Locked.badge
  | _ => True

variable {task : ClientTask δ η}

theorem closure_keeps (apart : task.KeepsToItself) : (task.closure t engine).Keeps Locked.badge := by
  cases task with
  | runCancellable token work => exact apart
  | run work => exact apart
  | runInTransaction work => exact t.runInTransaction_keeps apart
  | errand chore => exact (chore.step_keeps engine.locked_keeps).action
  | insertAll e records =>
    exact t.runInTransaction_keeps
      (.bind (Client.insertEach_keeps engine.locked_keeps e records).action fun _ _ => rfl)
  | countWhere predicate q =>
    exact Step.Keeps.action (.bind (.ofExcept _) fun q => q.count_keeps engine.locked_keeps)

theorem perform_eq (reaches : task.refusal = none) : task.perform opener t engine client =
    client.runCancellable opener task.token (task.closure t engine) := by
  cases task with
  | countWhere predicate q =>
    cases narrowed : q.filter predicate with
    | error cause =>
      rw [refusal,narrowed] at reaches
      cases reaches
    | ok narrow =>
      rw [perform,closure,Client.countWhere,Query.countWhere,narrowed]
      rfl
  | _ => rfl

theorem perform_refused {cause : Error} (refused : task.refusal = some cause) (ps : Pools δ η) :
    (task.perform opener t engine client).runFrom ps = (.error cause,ps) := by
  cases task with
  | countWhere predicate q =>
    cases narrowed : q.filter predicate with
    | error other =>
      rw [refusal,narrowed] at refused
      cases refused
      rw [perform,Client.countWhere,narrowed]
      rfl
    | ok narrow =>
      rw [refusal,narrowed] at refused
      cases refused
  | _ => cases refused

end

end ClientTask

end TypedRows
