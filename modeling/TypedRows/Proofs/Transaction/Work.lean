import TypedRows.Proofs.Transaction.Stack

namespace TypedRows

-- Work on a session that opens transactions by way of `runInTransaction` only, and that may
-- break off at any point: what it leaves open.

section

variable {α β : Type} (journal : β → Journal α)

def Step.Quiet {γ : Type} (step : Step (Locked β) γ) : Prop :=
  ∀ l, (step.runFrom l).2.depth = l.depth ∧
    (journal (step.runFrom l).2.handle).levels = (journal l.handle).levels

-- An error of a step or of an inner transaction is no error of the work as long as the work
-- goes on. A panic ends all of it.
inductive Work : Type → Type 1 where
  | finish {ρ : Type} (outcome : Except Halt ρ) : Work ρ
  | perform {ρ γ : Type} (step : Step (Locked β) γ) (quiet : step.Quiet journal)
      (next : Except Error γ → Work ρ) : Work ρ
  | transaction {ρ γ : Type} (body : Work γ) (next : Except Error γ → Work ρ) : Work ρ

structure Idle (l : Locked β) : Prop where
  depth : l.depth = 0
  levels : (journal l.handle).levels = []

end

namespace Step.Quiet

variable {α β γ ω : Type} {journal : β → Journal α}

theorem pure (a : γ) : (Pure.pure a : Step (Locked β) γ).Quiet journal := fun _ => ⟨rfl,rfl⟩

theorem ofExcept (outcome : Except Error γ) :
    (Step.ofExcept outcome : Step (Locked β) γ).Quiet journal := fun _ => ⟨rfl,rfl⟩

theorem bind {first : Step (Locked β) γ} {next : γ → Step (Locked β) ω}
    (quiet : first.Quiet journal) (later : ∀ a, (next a).Quiet journal) :
    (first >>= next).Quiet journal := by
  intro l
  have here := quiet l
  rw [Step.runFrom_bind]
  rcases ran : first.runFrom l with ⟨e | a,l1⟩ <;> rw [ran] at here
  · exact here
  · exact ⟨(later a l1).1.trans here.1,(later a l1).2.trans here.2⟩

end Step.Quiet

namespace Work

variable {α β : Type} {journal : β → Journal α}

def run (t : Transactor β) : {ρ : Type} → Work journal ρ → Action (Locked β) ρ
  | _,.finish outcome => fun l => (outcome,l)
  | _,.perform step _ next => fun l =>
      let (outcome,l) := step.runFrom l
      run t (next outcome) l
  | _,.transaction body next => fun l =>
      match (t.runInTransaction (run t body)).runFrom l with
      | (.ok value,l) => run t (next (.ok value)) l
      | (.error (.failed e),l) => run t (next (.error e)) l
      | (.error .panicked,l) => (.error .panicked,l)

def andThen {ρ γ : Type} (next : Except Error γ → Work journal ρ) : Work journal γ → Work journal ρ
  | .finish (.ok value) => next (.ok value)
  | .finish (.error (.failed e)) => next (.error e)
  | .finish (.error .panicked) => .finish (.error .panicked)
  | .perform step quiet later => .perform step quiet fun outcome => andThen next (later outcome)
  | .transaction body later => .transaction body fun outcome => andThen next (later outcome)

theorem run_perform {ρ γ : Type} (t : Transactor β) (step : Step (Locked β) γ)
    (quiet : step.Quiet journal) (next : Except Error γ → Work journal ρ) (l : Locked β) :
    ((perform step quiet next).run t).runFrom l =
      ((next (step.runFrom l).1).run t).runFrom (step.runFrom l).2 := rfl

theorem run_transaction {ρ γ : Type} (t : Transactor β) (body : Work journal γ)
    (next : Except Error γ → Work journal ρ) (l : Locked β) :
    ((transaction body next).run t).runFrom l =
      match (t.runInTransaction (body.run t)).runFrom l with
      | (.ok value,l) => ((next (.ok value)).run t).runFrom l
      | (.error (.failed e),l) => ((next (.error e)).run t).runFrom l
      | (.error .panicked,l) => (.error .panicked,l) := by
  rw [run]
  change (match (t.runInTransaction (body.run t)).runFrom l with
    | (.ok value,l) => (next (.ok value)).run t l
    | (.error (.failed e),l) => (next (.error e)).run t l
    | (.error .panicked,l) => (.error .panicked,l) : Except Halt ρ × Locked β) = _
  rcases (t.runInTransaction (body.run t)).runFrom l with ⟨(e | _) | value,l1⟩ <;> rfl

theorem run_andThen {ρ γ : Type} (t : Transactor β) (next : Except Error γ → Work journal ρ)
    (work : Work journal γ) (l : Locked β) : ((work.andThen next).run t).runFrom l =
      match (work.run t).runFrom l with
      | (.ok value,l) => ((next (.ok value)).run t).runFrom l
      | (.error (.failed e),l) => ((next (.error e)).run t).runFrom l
      | (.error .panicked,l) => (.error .panicked,l) := by
  induction work generalizing l with
  | finish outcome => rcases outcome with (e | _) | value <;> rfl
  | perform step quiet later ih => exact ih _ next _
  | transaction body later first ih =>
    rw [andThen,run_transaction,run_transaction]
    rcases (t.runInTransaction (body.run t)).runFrom l with ⟨(e | _) | value,l1⟩
    · exact ih (.error e) next l1
    · rfl
    · exact ih (.ok value) next l1

end Work

section

variable {α β : Type} {t : Transactor β} {journal : β → Journal α}
  {refusable : TransactionCommand → Prop} {l : Locked β}

-- What an action leaves open: as much as there was before, or nothing; a transaction that a
-- panic has left open; or, where the database may refuse a release, one that the session does
-- not know of.
inductive Leaves (journal : β → Journal α) (refusable : TransactionCommand → Prop) (l : Locked β)
    {ρ : Type} : Except Halt ρ × Locked β → Prop where
  | same {outcome : Except Halt ρ} {l' : Locked β} : l'.depth = l.depth →
      (journal l'.handle).levels = (journal l.handle).levels → Leaves journal refusable l (outcome,l')
  | idle {outcome : Except Halt ρ} {l' : Locked β} : Idle journal l' →
      Leaves journal refusable l (outcome,l')
  | broken {l' : Locked β} : 0 < l'.depth → Leaves journal refusable l (.error .panicked,l')
  | adrift {outcome : Except Halt ρ} {l' : Locked β} (name : String) : refusable (.release name) →
      l'.depth = 0 → Leaves journal refusable l (outcome,l')

theorem Leaves.after_same {ρ : Type} {l' : Locked β} {result : Except Halt ρ × Locked β}
    (depth : l'.depth = l.depth) (levels : (journal l'.handle).levels = (journal l.handle).levels)
    (later : Leaves journal refusable l' result) : Leaves journal refusable l result := by
  cases later with
  | same depth' levels' => exact .same (depth'.trans depth) (levels'.trans levels)
  | idle idle => exact .idle idle
  | broken inside => exact .broken inside
  | adrift name refused outside => exact .adrift name refused outside

theorem Leaves.after_idle {ρ : Type} {l' : Locked β} {result : Except Halt ρ × Locked β}
    (idle : Idle journal l') (later : Leaves journal refusable l' result) :
    Leaves journal refusable l result := by
  cases later with
  | same depth levels => exact .idle ⟨depth.trans idle.depth,levels.trans idle.levels⟩
  | idle idle => exact .idle idle
  | broken inside => exact .broken inside
  | adrift name refused outside => exact .adrift name refused outside

theorem Leaves.after_adrift {ρ : Type} {l' : Locked β} {result : Except Halt ρ × Locked β}
    {name : String} (refused : refusable (.release name)) (outside : l'.depth = 0)
    (later : Leaves journal refusable l' result) : Leaves journal refusable l result := by
  cases later with
  | same depth _ => exact .adrift name refused (depth.trans outside)
  | idle idle => exact .idle idle
  | broken inside => exact .broken inside
  | adrift name refused outside => exact .adrift name refused outside

def refusal {γ : Type} (savepoint : String) : Except Halt γ → Except Halt γ
  | .ok _ => .error (.failed (.transaction (.invalidSavepoint savepoint)))
  | .error halt => .error halt

theorem runInTransaction_escaped {γ : Type} {action : Action (Locked β) γ} {savepoint : String}
    {outcome : Except Halt γ} {l1 l2 : Locked β} (saved : t.save.runFrom l = (.ok savepoint,l1))
    (ran : action.runFrom l1 = (outcome,l2)) (outside : l2.depth = 0) :
    (t.runInTransaction action).runFrom l = (refusal savepoint outcome,l2) := by
  rw [t.runInTransaction_action,saved]
  dsimp only
  rw [ran]
  rcases outcome with (e | _) | value
  · dsimp only
    rw [t.undone_outside outside]
    rfl
  · rfl
  · dsimp only
    rw [t.release_outside outside]
    dsimp only
    rw [t.undone_outside outside]
    rfl

variable (rules : StackRules t journal refusable) (firm : ¬ refusable .rollback)

include rules firm

-- A savepoint that is released on the top of the stack leaves what was below it. The database
-- may refuse that, and 64 bits may not hold the depth.
theorem release_top {savepoint : String} {l1 l2 : Locked β}
    (saved : t.save.runFrom l = (.ok savepoint,l1)) (depth : l2.depth = l1.depth)
    (levels : (journal l2.handle).levels = (journal l1.handle).levels) :
    (∃ l3, (t.release savepoint).runFrom l2 = (.ok (),l3) ∧ l3.depth = l.depth ∧
      (journal l3.handle).levels = (journal l.handle).levels) ∨
    (∃ e, (t.release savepoint).runFrom l2 = (.error e,l2)) ∨
    (∃ e l3, (t.release savepoint).runFrom l2 = (.error e,l3) ∧ l3.depth = l.depth ∧
      journal l3.handle = journal l2.handle ∧ refusable (.release savepoint)) := by
  obtain ⟨pushed,deeper⟩ := saved_levels (rules.savepoints firm) saved
  have inside : l.depth < l2.depth := by omega
  have top : (journal l2.handle).levels = ⟨some savepoint,(journal l.handle).current⟩ ::
      (journal l.handle).levels := by rw [levels,pushed]; rfl
  obtain ⟨rfl,_⟩ := t.save_ok saved
  rcases released : (t.release (Transactor.nextSavepoint l)).runFrom l2 with ⟨e | u,l3⟩
  · rcases t.release_error inside released with ⟨_,rfl⟩ | ⟨cause,b,ran,rfl⟩
    · exact .inr (.inl ⟨e,rfl⟩)
    · obtain ⟨same,refused | failed⟩ := rules.refused ran
      · exact .inr (.inr ⟨e,_,rfl,rfl,same,refused⟩)
      · rw [Journal.obey,Journal.release,top,Journal.levelsFrom,if_pos] at failed
        · cases failed
        · exact sameSavepoint_refl _
  · obtain ⟨b,ran,rfl⟩ := t.release_ok released
    exact .inl ⟨_,rfl,rfl,(levels_release top (rules.carried ran)).1⟩

theorem undone_idle (inside : 0 < l.depth) : Idle journal (t.undone l) := by
  rw [Transactor.undone,if_pos inside]
  exact ⟨rfl,rules.rolledBack firm l.handle⟩

theorem unsaved_leaves {ρ : Type} {e : Error} {l1 : Locked β} {outcome : Except Halt ρ}
    (unsaved : t.save.runFrom l = (.error e,l1)) :
    Leaves journal refusable l (outcome,t.undone l1) := by
  obtain ⟨cause,b,ran,rfl⟩ := t.save_error unsaved
  have same := (rules.refused ran).1
  split
  · rw [t.undone_outside (t.depth_undone _)]
    exact .idle (undone_idle rules firm (Nat.succ_pos _))
  · by_cases inside : 0 < l.depth
    · exact .idle (undone_idle rules firm inside)
    · have outside : (((Transactor.deepened l).putHandle b).setDepth l.depth).depth = 0 :=
        Nat.eq_zero_of_not_pos inside
      rw [t.undone_outside outside]
      exact .same rfl (congrArg Journal.levels same)

theorem runInTransaction_leaves {ρ : Type} {action : Action (Locked β) ρ}
    (law : ∀ l, Leaves journal refusable l (action.runFrom l)) (l : Locked β) :
    Leaves journal refusable l ((t.runInTransaction action).runFrom l) := by
  rcases saved : t.save.runFrom l with ⟨e | savepoint,l1⟩
  · rw [t.runInTransaction_action,saved]
    exact unsaved_leaves rules firm saved
  · have left := law l1
    rcases ran : action.runFrom l1 with ⟨outcome,l2⟩
    rw [ran] at left
    cases left with
    -- At depth zero the end of the transaction sends nothing, whatever is open.
    | idle idle =>
      rw [runInTransaction_escaped saved ran idle.depth]
      exact .idle idle
    | adrift name refused outside =>
      rw [runInTransaction_escaped saved ran outside]
      exact .adrift name refused outside
    | broken inside =>
      rw [t.runInTransaction_action,saved]
      dsimp only
      rw [ran]
      exact .broken inside
    | same depth levels =>
      have deeper : 0 < l2.depth := by
        have := (saved_levels (rules.savepoints firm) saved).2
        omega
      rw [t.runInTransaction_action,saved]
      dsimp only
      rw [ran]
      rcases outcome with (e | _) | value
      · exact .idle (undone_idle rules firm deeper)
      · exact .broken deeper
      · dsimp only
        rcases release_top rules firm saved depth levels with
          ⟨l3,released,depth3,levels3⟩ | ⟨e,refused⟩ | ⟨e,l3,refused,depth3,same3,refusal⟩
        · rw [released]
          exact .same depth3 levels3
        · rw [refused]
          exact .idle (undone_idle rules firm deeper)
        · rw [refused]
          by_cases inside : 0 < l3.depth
          · exact .idle (undone_idle rules firm inside)
          · have outside := Nat.eq_zero_of_not_pos inside
            dsimp only
            rw [t.undone_outside outside]
            exact .adrift savepoint refusal outside

theorem Work.run_leaves {ρ : Type} (work : Work journal ρ) (l : Locked β) :
    Leaves journal refusable l ((work.run t).runFrom l) := by
  induction work generalizing l with
  | finish outcome => exact .same rfl rfl
  | perform step quiet next ih => exact (ih _ _).after_same (quiet l).1 (quiet l).2
  | transaction body next first ih =>
    have left := runInTransaction_leaves rules firm first l
    rw [Work.run_transaction]
    rcases ran : (t.runInTransaction (body.run t)).runFrom l with ⟨(e | _) | value,l1⟩ <;>
      rw [ran] at left
    · cases left with
      | same depth levels => exact (ih _ l1).after_same depth levels
      | idle idle => exact (ih _ l1).after_idle idle
      | adrift name refused outside => exact (ih _ l1).after_adrift refused outside
    · cases left with
      | same depth levels => exact .same depth levels
      | idle idle => exact .idle idle
      | broken inside => exact .broken inside
      | adrift name refused outside => exact .adrift name refused outside
    · cases left with
      | same depth levels => exact (ih _ l1).after_same depth levels
      | idle idle => exact (ih _ l1).after_idle idle
      | adrift name refused outside => exact (ih _ l1).after_adrift refused outside

end

end TypedRows
