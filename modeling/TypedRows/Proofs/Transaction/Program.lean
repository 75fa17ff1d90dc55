import TypedRows.Client
import TypedRows.Proofs.Transaction.Commands

namespace TypedRows

-- Work inside a transaction as a tree: statements that change data and transactions of its
-- own, where each next step knows what the one before came to. An error of a step is no error
-- of the work as long as the work goes on.
inductive Program (Change : String → Prop) : Type → Type 1 where
  | finish {ρ : Type} (outcome : Except Error ρ) : Program Change ρ
  | execute {ρ : Type} (text : String) (args : List Value) (change : Change text)
      (next : Except Error Nat → Program Change ρ) : Program Change ρ
  | rowid {ρ : Type} (next : Int64 → Program Change ρ) : Program Change ρ
  | transaction {ρ γ : Type} (body : Program Change γ)
      (next : Except Error γ → Program Change ρ) : Program Change ρ

namespace Program

variable {Change : String → Prop} {β : Type} (t : Transactor β) (engine : Engine β)

def run : {ρ : Type} → Program Change ρ → Step (Locked β) ρ
  | _,.finish outcome => Step.ofExcept outcome
  | _,.execute text args _ next => fun l =>
      let (outcome,l) := (engine.locked.execute text args).runFrom l
      run (next outcome) l
  | _,.rowid next => fun l =>
      let (id,l) := engine.locked.lastInsertRowid.run l
      run (next id) l
  | _,.transaction body next => fun l =>
      let (outcome,l) := (t.runInTransaction (run body).action).runFrom l
      run (next (Client.settled outcome)) l

def writes : {ρ : Type} → Program Change ρ → Locked β → List (String × List Value)
  | _,.finish _,_ => []
  | _,.execute text args _ next,l =>
      match (engine.locked.execute text args).runFrom l with
      | (.ok affected,l) => (text,args) :: writes (next (.ok affected)) l
      | (.error e,l) => writes (next (.error e)) l
  | _,.rowid next,l =>
      let (id,l) := engine.locked.lastInsertRowid.run l
      writes (next id) l
  | _,.transaction body next,l =>
      let inner := match t.save.runFrom l with
        | (.ok _,l) => writes body l
        | (.error _,_) => []
      let (outcome,l) := (t.runInTransaction (body.run t engine).action).runFrom l
      inner ++ writes (next (Client.settled outcome)) l

def andThen {ρ γ : Type} (next : Except Error γ → Program Change ρ) :
    Program Change γ → Program Change ρ
  | .finish outcome => next outcome
  | .execute text args change later => .execute text args change fun outcome =>
      andThen next (later outcome)
  | .rowid later => .rowid fun id => andThen next (later id)
  | .transaction body later => .transaction body fun outcome => andThen next (later outcome)

-- How work in a transaction ends: by itself, or with the first transaction inside it that
-- fails. By then everything is rolled back, and `rest` is what the work still does.
inductive Ending (Change : String → Prop) (ρ : Type) where
  | finished (outcome : Except Error ρ)
  | interrupted (rest : Program Change ρ)

def refusal {γ : Type} (savepoint : String) : Except Error γ → Error
  | .ok _ => .transaction (.invalidSavepoint savepoint)
  | .error e => e

def untilFailure : {ρ : Type} → Program Change ρ → Locked β → Ending Change ρ × Locked β
  | _,.finish outcome,l => (.finished outcome,l)
  | _,.execute text args _ next,l =>
      let (outcome,l) := (engine.locked.execute text args).runFrom l
      untilFailure (next outcome) l
  | _,.rowid next,l =>
      let (id,l) := engine.locked.lastInsertRowid.run l
      untilFailure (next id) l
  | _,.transaction body next,l =>
      match t.save.runFrom l with
      | (.error e,l) => (.interrupted (next (.error e)),t.undone l)
      | (.ok savepoint,l) => match untilFailure body l with
        | (.interrupted rest,l) =>
            (.interrupted (rest.andThen fun outcome => next (.error (refusal savepoint outcome))),l)
        | (.finished (.error e),l) => (.interrupted (next (.error e)),t.undone l)
        | (.finished (.ok value),l) => match (t.release savepoint).runFrom l with
          | (.error e,l) => (.interrupted (next (.error e)),t.undone l)
          | (.ok (),l) => untilFailure (next (.ok value)) l

theorem run_execute {ρ : Type} {text : String} {args : List Value} {change : Change text}
    {next : Except Error Nat → Program Change ρ} {outcome : Except Error Nat} {l l' : Locked β}
    (ran : (engine.locked.execute text args).runFrom l = (outcome,l')) :
    ((execute text args change next).run t engine).runFrom l =
      ((next outcome).run t engine).runFrom l' := by
  change (let (outcome,l) := (engine.locked.execute text args).runFrom l
    ((next outcome).run t engine).runFrom l) = _
  rw [ran]

def insertThen {σ ρ : Type} (inserts : ∀ table names, Change (Entity.insertText table names))
    (e : Entity σ) (record : σ) (next : Except Error Int64 → Program Change ρ) :
    Program Change ρ :=
  match e.values record with
  | .error cause => next (.error cause)
  | .ok values =>
      let entries := e.written values
      .execute _ (entries.map Prod.snd) (inserts e.table (entries.map fun entry => entry.1.name))
        fun
        | .ok _ => .rowid fun id => next (.ok id)
        | .error cause => next (.error cause)

theorem run_insertThen {σ ρ : Type}
    (inserts : ∀ table names, Change (Entity.insertText table names)) (e : Entity σ) (record : σ)
    (next : Except Error Int64 → Program Change ρ) (l : Locked β) :
    ((insertThen inserts e record next).run t engine).runFrom l =
      ((next ((e.insert engine.locked record).runFrom l).1).run t engine).runFrom
        ((e.insert engine.locked record).runFrom l).2 := by
  unfold insertThen Entity.insert
  rw [Step.runFrom_bind,Step.runFrom_ofExcept]
  cases e.values record with
  | error cause => rfl
  | ok values =>
    dsimp only
    rw [Step.runFrom_bind]
    generalize List.map Prod.snd _ = args
    rcases ran : (engine.locked.execute _ args).runFrom l with ⟨cause | n,l1⟩ <;>
      rw [run_execute t engine ran]
    rfl

theorem run_transaction {ρ γ : Type} (body : Program Change γ)
    (next : Except Error γ → Program Change ρ) (l : Locked β) :
    ((transaction body next).run t engine).runFrom l = match t.save.runFrom l with
      | (.error e,l) => ((next (.error e)).run t engine).runFrom (t.undone l)
      | (.ok savepoint,l) => match (body.run t engine).runFrom l with
        | (.error e,l) => ((next (.error e)).run t engine).runFrom (t.undone l)
        | (.ok value,l) => match (t.release savepoint).runFrom l with
          | (.error e,l) => ((next (.error e)).run t engine).runFrom (t.undone l)
          | (.ok (),l) => ((next (.ok value)).run t engine).runFrom l := by
  have unfolded : ((transaction body next).run t engine).runFrom l =
      (let (outcome,l) := (t.runInTransaction (body.run t engine).action).runFrom l
      ((next (Client.settled outcome)).run t engine).runFrom l) := rfl
  rw [unfolded,t.runInTransaction_runFrom]
  rcases t.save.runFrom l with ⟨e | savepoint,l1⟩
  · rfl
  · dsimp only
    rcases (body.run t engine).runFrom l1 with ⟨e | value,l2⟩
    · rfl
    · dsimp only
      rcases (t.release savepoint).runFrom l2 with ⟨e | u,l3⟩ <;> rfl

theorem run_andThen {ρ γ : Type} (next : Except Error γ → Program Change ρ) (p : Program Change γ)
    (l : Locked β) : ((p.andThen next).run t engine).runFrom l =
      ((next ((p.run t engine).runFrom l).1).run t engine).runFrom ((p.run t engine).runFrom l).2 := by
  induction p generalizing l with
  | finish outcome => rfl
  | execute text args change later ih => exact ih _ next _
  | rowid later ih => exact ih _ next _
  | transaction body later first ih => exact ih _ next _

theorem run_depth {ρ : Type} (p : Program Change ρ) (l : Locked β) :
    ((p.run t engine).runFrom l).2.depth = l.depth ∨ ((p.run t engine).runFrom l).2.depth = 0 := by
  induction p generalizing l with
  | finish outcome => exact .inl rfl
  | execute text args change next ih => exact ih _ _
  | rowid next ih => exact ih _ _
  | transaction body next first ih =>
    have outside : ∀ e l, (((next (.error e)).run t engine).runFrom (t.undone l)).2.depth = 0 := by
      intro e l
      have kept := ih (.error e) (t.undone l)
      rw [t.depth_undone] at kept
      exact kept.elim id id
    rw [run_transaction]
    rcases saved : t.save.runFrom l with ⟨e | savepoint,l1⟩
    · exact .inr (outside e l1)
    · obtain ⟨rfl,_⟩ := t.save_ok saved
      dsimp only
      rcases (body.run t engine).runFrom l1 with ⟨e | value,l2⟩
      · exact .inr (outside e l2)
      · dsimp only
        rcases released : (t.release (Transactor.nextSavepoint l)).runFrom l2 with ⟨e | u,l3⟩
        · exact .inr (outside e l3)
        · obtain ⟨handle,_,rfl⟩ := t.release_ok released
          exact ih (.ok value) _

theorem run_depth_outside {ρ : Type} (p : Program Change ρ) {l : Locked β} (outside : l.depth = 0) :
    ((p.run t engine).runFrom l).2.depth = 0 := by
  have kept := p.run_depth t engine l
  rw [outside] at kept
  exact kept.elim id id

theorem interrupted_outside {ρ : Type} (p : Program Change ρ) {l l' : Locked β}
    {rest : Program Change ρ} (ended : p.untilFailure t engine l = (.interrupted rest,l')) :
    l'.depth = 0 := by
  induction p generalizing l l' with
  | finish outcome => cases ended
  | execute text args change next ih => exact ih _ ended
  | rowid next ih => exact ih _ ended
  | transaction body next first ih =>
    rw [untilFailure] at ended
    rcases saved : t.save.runFrom l with ⟨e | savepoint,l1⟩ <;> rw [saved] at ended
    · cases ended
      exact t.depth_undone l1
    · dsimp only at ended
      rcases inner : body.untilFailure t engine l1 with ⟨(e | value) | rest,l2⟩
      · rw [inner] at ended
        cases ended
        exact t.depth_undone l2
      · rw [inner] at ended
        dsimp only at ended
        rcases released : (t.release savepoint).runFrom l2 with ⟨e | u,l3⟩ <;> rw [released] at ended
        · cases ended
          exact t.depth_undone l3
        · exact ih _ ended
      · rw [inner] at ended
        cases ended
        exact first inner

-- A run is what happens up to the first failed transaction, and then the rest. Outside of
-- every transaction the ends of those that were interrupted do nothing.
theorem run_untilFailure {ρ : Type} (p : Program Change ρ) (l : Locked β) :
    (p.run t engine).runFrom l = match p.untilFailure t engine l with
      | (.finished outcome,l) => (outcome,l)
      | (.interrupted rest,l) => (rest.run t engine).runFrom l := by
  induction p generalizing l with
  | finish outcome => rfl
  | execute text args change next ih => exact ih _ _
  | rowid next ih => exact ih _ _
  | transaction body next first ih =>
    rw [run_transaction,untilFailure]
    rcases t.save.runFrom l with ⟨e | savepoint,l1⟩
    · rfl
    · dsimp only
      rw [first]
      rcases inner : body.untilFailure t engine l1 with ⟨(e | value) | rest,l2⟩
      · rfl
      · dsimp only
        rcases (t.release savepoint).runFrom l2 with ⟨e | u,l3⟩
        · rfl
        · exact ih _ _
      · -- At depth zero neither the release nor the rollback of this level sends anything.
        have outside := rest.run_depth_outside t engine (interrupted_outside t engine body inner)
        dsimp only
        rw [run_andThen]
        rcases ran : (rest.run t engine).runFrom l2 with ⟨e | value,l3⟩
        · rw [ran] at outside
          dsimp only
          rw [t.undone_outside outside]
          rfl
        · rw [ran] at outside
          dsimp only
          rw [t.release_outside outside]
          dsimp only
          rw [t.undone_outside outside]
          rfl

end Program

end TypedRows
