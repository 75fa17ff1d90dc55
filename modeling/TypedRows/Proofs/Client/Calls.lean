import TypedRows.Proofs.Client.Footing
import TypedRows.Proofs.Transaction.Atomicity

namespace TypedRows

-- Calls of clients, one after the other, whose work opens transactions by way of
-- `runInTransaction` only: where such work begins, and where it leaves its connection.

section

variable {δ η α : Type} (journal : δ × η → Journal α)

-- One call of a client. Its work opens transactions by way of `runInTransaction` only.
inductive ClientCall : Type 1 where
  | run {ρ : Type} (client : Client) (work : Work journal ρ)
  | runCancellable {ρ : Type} (client : Client) (token : Cancellation) (work : Work journal ρ)
  | runInTransaction {ρ : Type} (client : Client) (work : Work journal ρ)
  | insertAll {ρ : Type} (client : Client) (e : Entity ρ) (records : List ρ)

structure Inserting (engine : Engine (δ × η)) : Prop where
  execute : ∀ table names args b,
    (journal ((engine.execute (Entity.insertText table names) args).runFrom b).2).levels =
      (journal b).levels
  rowid : ∀ b, (journal (engine.lastInsertRowid.run b).2).levels = (journal b).levels

def Pools.AllIdle (ps : Pools δ η) : Prop :=
  ∀ c footing, ps.footing journal c = some footing → footing = (0,[])

def Pools.Holds (contents : α) (ps : Pools δ η) (c : Nat) : Prop :=
  ∃ footing, ps.footing journal c = some footing ∧ 0 < footing.1 ∧
    footing.2.getLast?.map Level.saved = some contents

end

namespace ClientCall

variable {δ η α : Type} {journal : δ × η → Journal α} (opener : Opener δ η)
  (t : Transactor (δ × η)) (engine : Engine (δ × η))

def Answer : ClientCall journal → Type
  | @run _ _ _ _ ρ _ _ => ρ
  | @runCancellable _ _ _ _ ρ _ _ _ => ρ
  | @runInTransaction _ _ _ _ ρ _ _ => ρ
  | .insertAll _ _ _ => Nat

def client : ClientCall journal → Client
  | .run client _ => client
  | .runCancellable client _ _ => client
  | .runInTransaction client _ => client
  | .insertAll client _ _ => client

def token : ClientCall journal → Cancellation
  | .runCancellable _ token _ => token
  | _ => .never

def perform : (call : ClientCall journal) → Step (Pools δ η) call.Answer
  | .run client work => client.run opener (work.run t)
  | .runCancellable client token work => client.runCancellable opener token (work.run t)
  | .runInTransaction client work => client.runInTransaction opener t (work.run t)
  | .insertAll client e records => client.insertAll opener t engine e records

def closure : (call : ClientCall journal) → Action (Locked (δ × η)) call.Answer
  | .run _ work => work.run t
  | .runCancellable _ _ work => work.run t
  | .runInTransaction _ work => t.runInTransaction (work.run t)
  | .insertAll _ e records => t.runInTransaction do
      (Client.insertEach engine.locked e records).action
      return records.length

theorem perform_eq (call : ClientCall journal) : call.perform opener t engine =
    call.client.runCancellable opener call.token (call.closure t engine) := by
  cases call <;> rfl

def after (call : ClientCall journal) (ps : Pools δ η) : Pools δ η :=
  ((call.perform opener t engine).runFrom ps).2

def finds (call : ClientCall journal) (ps : Pools δ η) : Except Error (Locked (δ × η)) :=
  ((call.client.runCancellable opener call.token fun l => (.ok l,l)).runFrom ps).1

def isTransaction : ClientCall journal → Bool
  | .runInTransaction _ _ => true
  | .insertAll _ _ _ => true
  | _ => false

def Along (P : ClientCall journal → Pools δ η → Prop) :
    List (ClientCall journal) → Pools δ η → Prop
  | [],_ => True
  | call :: rest,ps => P call ps ∧ Along P rest (call.after opener t engine ps)

end ClientCall

section

variable {δ η α : Type} {journal : δ × η → Journal α}

theorem quiet_insert {ρ : Type} {engine : Engine (δ × η)} (inserting : Inserting journal engine)
    (e : Entity ρ) (record : ρ) : (e.insert engine.locked record).Quiet journal := by
  refine .bind (.ofExcept _) fun values => .bind (fun l => ?_) fun _ l => ?_
  · rw [locked_execute]
    exact ⟨rfl,inserting.execute _ _ _ _⟩
  · exact ⟨rfl,inserting.rowid l.handle⟩

theorem quiet_insertEach {ρ : Type} {engine : Engine (δ × η)} (inserting : Inserting journal engine)
    (e : Entity ρ) (records : List ρ) : (Client.insertEach engine.locked e records).Quiet journal := by
  induction records with
  | nil => exact .pure ()
  | cons record rest ih => exact .bind (quiet_insert inserting e record) fun _ => ih

end

namespace ClientCall

variable {δ η α : Type} {journal : δ × η → Journal α} {opener : Opener δ η}
  {t : Transactor (δ × η)} {engine : Engine (δ × η)}

theorem insertEach_work {ρ : Type} (t : Transactor (δ × η)) (inserting : Inserting journal engine)
    (e : Entity ρ) (records : List ρ) : ∃ work : Work journal Nat,
      (do (Client.insertEach engine.locked e records).action
          return records.length : Action (Locked (δ × η)) Nat) = work.run t := by
  refine ⟨.perform (Client.insertEach engine.locked e records)
    (quiet_insertEach inserting e records) fun
    | .ok () => .finish (.ok records.length)
    | .error cause => .finish (.error (.failed cause)),Action.ext fun l => ?_⟩
  rw [Action.runFrom_bind,Action.runFrom_action,Work.run_perform]
  rcases (Client.insertEach engine.locked e records).runFrom l with ⟨cause | u,l1⟩ <;> rfl

theorem closure_transaction (t : Transactor (δ × η)) (inserting : Inserting journal engine)
    {call : ClientCall journal} (within : call.isTransaction = true) : ∃ work : Work journal call.Answer,
      call.closure t engine = t.runInTransaction (work.run t) := by
  cases call with
  | run client work => cases within
  | runCancellable client token work => cases within
  | runInTransaction client work => exact ⟨work,rfl⟩
  | insertAll client e records =>
    obtain ⟨work,same⟩ := insertEach_work t inserting e records
    exact ⟨work,congrArg t.runInTransaction same⟩

theorem closure_work (t : Transactor (δ × η)) (inserting : Inserting journal engine)
    (call : ClientCall journal) : ∃ work : Work journal call.Answer, call.closure t engine = work.run t := by
  by_cases within : call.isTransaction = true
  · obtain ⟨work,same⟩ := closure_transaction t inserting within
    refine ⟨.transaction work fun outcome => .finish (outcome.mapError .failed),?_⟩
    rw [same]
    refine Action.ext fun l => ?_
    rw [Work.run_transaction]
    rcases (t.runInTransaction (work.run t)).runFrom l with ⟨(e | _) | value,l1⟩ <;> rfl
  · cases call with
    | run client work => exact ⟨work,rfl⟩
    | runCancellable client token work => exact ⟨work,rfl⟩
    | runInTransaction client work => exact absurd rfl within
    | insertAll client e records => exact absurd rfl within

theorem after_footing (t : Transactor (δ × η)) (engine : Engine (δ × η))
    (separate : Separate journal opener) (call : ClientCall journal) (ps : Pools δ η) :
    (∃ e c, call.finds opener ps = .error e ∧
      ps.GrownBy journal c (call.after opener t engine ps)) ∨
    ∃ c l, call.finds opener ps = .ok l ∧
      (ps.footing journal c = some (l.footing journal) ∨
        ps.footing journal c = none ∧ l.footing journal = (0,[])) ∧
      ∀ n, (call.after opener t engine ps).footing journal n =
        if n = c then some (((call.closure t engine).runFrom l).2.footing journal)
        else ps.footing journal n := by
  rcases call.client.runCancellable_footing separate call.token ps with
    ⟨e,ps',c,grown,refused⟩ | ⟨c,l,before,worked⟩
  · refine .inl ⟨e,c,?_,?_⟩
    · rw [finds,refused]
    · rw [after,perform_eq,refused]
      exact grown
  · obtain ⟨ps1,found,_⟩ := worked _ fun l => (.ok l,l)
    obtain ⟨ps2,done,left⟩ := worked _ (call.closure t engine)
    refine .inr ⟨c,l,?_,before,?_⟩
    · rw [finds,found]
      rfl
    · rw [after,perform_eq,done]
      exact left

variable {P : ClientCall journal → Pools δ η → Prop} {I : Pools δ η → Prop}

theorem along_all (all : ∀ call ps, P call ps) (calls : List (ClientCall journal)) (ps : Pools δ η) :
    Along opener t engine P calls ps := by
  induction calls generalizing ps with
  | nil => trivial
  | cons call rest ih => exact ⟨all call ps,ih _⟩

theorem along_iff
    (step : ∀ call ps, I ps → (I (call.after opener t engine ps) ↔ P call ps))
    (calls : List (ClientCall journal)) {ps : Pools δ η} (holds : I ps) :
    Along opener t engine (fun call ps => I (call.after opener t engine ps)) calls ps ↔
      Along opener t engine P calls ps := by
  induction calls generalizing ps with
  | nil => exact .rfl
  | cons call rest ih =>
    constructor
    · rintro ⟨kept,later⟩
      exact ⟨(step call ps holds).mp kept,(ih kept).mp later⟩
    · rintro ⟨fine,later⟩
      have kept := (step call ps holds).mpr fine
      exact ⟨kept,(ih kept).mpr later⟩

theorem along_of_invariant (step : ∀ call ps, I ps → P call ps) (calls : List (ClientCall journal))
    {ps : Pools δ η} (holds : I ps)
    (kept : Along opener t engine (fun call ps => I (call.after opener t engine ps)) calls ps) :
    Along opener t engine P calls ps := by
  induction calls generalizing ps with
  | nil => trivial
  | cons call rest ih => exact ⟨step call ps holds,ih kept.1 kept.2⟩

end ClientCall

end TypedRows
