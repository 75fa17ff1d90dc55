import TypedRows.Proofs.Transaction.Program
import TypedRows.Proofs.Transaction.Rules

namespace TypedRows

-- What a failed transaction leaves behind, for every database that keeps the rules.

variable {Change : String → Prop} {α β : Type} {t : Transactor β} {engine : Engine β}
  {journal : β → Journal α} {effect : String → List Value → α → α}

def afterWrites (effect : String → List Value → α → α) (writes : List (String × List Value))
    (contents : α) : α :=
  writes.foldl (fun contents write => effect write.1 write.2 contents) contents

structure Kept (journal : β → Journal α) (effect : String → List Value → α → α)
    (writes : List (String × List Value)) (l l' : Locked β) : Prop where
  depth : l'.depth = l.depth
  levels : (journal l'.handle).levels = (journal l.handle).levels
  current : (journal l'.handle).current = afterWrites effect writes (journal l.handle).current

theorem Kept.refl (l : Locked β) : Kept journal effect [] l l := ⟨rfl,rfl,rfl⟩

theorem Kept.trans {writes writes' : List (String × List Value)} {l l' l'' : Locked β}
    (first : Kept journal effect writes l l') (second : Kept journal effect writes' l' l'') :
    Kept journal effect (writes ++ writes') l l'' where
  depth := second.depth.trans first.depth
  levels := second.levels.trans first.levels
  current := by rw [second.current,first.current,afterWrites,afterWrites,afterWrites,List.foldl_append]

theorem Inside.kept {contents : α} {writes : List (String × List Value)} {l l' : Locked β}
    (inside : Inside journal contents l) (kept : Kept journal effect writes l l') :
    Inside journal contents l' where
  deep := kept.depth ▸ inside.deep
  began := kept.levels ▸ inside.began

theorem locked_execute (text : String) (args : List Value) (l : Locked β) :
    (engine.locked.execute text args).runFrom l = (((engine.execute text args).runFrom l.handle).1,
      l.putHandle ((engine.execute text args).runFrom l.handle).2) := rfl

section Laws

variable (laws : Transactional t engine Change journal effect)

include laws

theorem Transactional.savepoints : SavepointRules t journal :=
  ⟨laws.saved,laws.unsaved,laws.rolledBack⟩

theorem kept_of_executed {text : String} {args : List Value} {n : Nat} {l l' : Locked β}
    (change : Change text) (ran : (engine.locked.execute text args).runFrom l = (.ok n,l')) :
    Kept journal effect [(text,args)] l l' := by
  rw [locked_execute] at ran
  rcases inner : (engine.execute text args).runFrom l.handle with ⟨outcome,b⟩
  rw [inner] at ran
  cases ran
  have written := laws.changed change inner
  exact ⟨rfl,by rw [Locked.handle_putHandle,written],by rw [Locked.handle_putHandle,written]; rfl⟩

theorem kept_of_refused {text : String} {args : List Value} {e : Error} {l l' : Locked β}
    (change : Change text) (ran : (engine.locked.execute text args).runFrom l = (.error e,l')) :
    Kept journal effect [] l l' := by
  rw [locked_execute] at ran
  rcases inner : (engine.execute text args).runFrom l.handle with ⟨outcome,b⟩
  rw [inner] at ran
  cases ran
  have same := laws.unchanged change inner
  exact ⟨rfl,by rw [Locked.handle_putHandle,same],by rw [Locked.handle_putHandle,same]; rfl⟩

theorem kept_of_rowid (l : Locked β) :
    Kept journal effect [] l (engine.locked.lastInsertRowid.run l).2 := by
  have same : journal (engine.locked.lastInsertRowid.run l).2.handle = journal l.handle :=
    laws.rowid (b := l.handle)
  exact ⟨rfl,by rw [same],by rw [same]; rfl⟩

theorem kept_of_released {savepoint : String} {writes : List (String × List Value)}
    {l l1 l2 l3 : Locked β} (saved : t.save.runFrom l = (.ok savepoint,l1))
    (kept : Kept journal effect writes l1 l2)
    (released : (t.release savepoint).runFrom l2 = (.ok (),l3)) :
    Kept journal effect writes l l3 := by
  obtain ⟨pushed,_⟩ := saved_levels laws.savepoints saved
  obtain ⟨rfl,_⟩ := t.save_ok saved
  obtain ⟨handle,ran,rfl⟩ := t.release_ok released
  have top : (journal l2.handle).levels =
      ⟨some (Transactor.nextSavepoint l),(journal l.handle).current⟩ :: (journal l.handle).levels := by
    rw [kept.levels,pushed]
    rfl
  obtain ⟨levels,current⟩ := levels_release top (laws.released ran)
  refine ⟨rfl,levels,?_⟩
  rw [Locked.handle_putHandle,current,kept.current,pushed]
  rfl

theorem inside_of_unreleased {contents : α} {savepoint : String}
    {writes : List (String × List Value)} {e : Error} {l l1 l2 l3 : Locked β}
    (inside : Inside journal contents l) (saved : t.save.runFrom l = (.ok savepoint,l1))
    (kept : Kept journal effect writes l1 l2)
    (failed : (t.release savepoint).runFrom l2 = (.error e,l3)) : Inside journal contents l3 := by
  have within := (inside.saved laws.savepoints saved).kept kept
  obtain ⟨_,depth⟩ := saved_levels laws.savepoints saved
  obtain ⟨rfl,_⟩ := t.save_ok saved
  have deeper : l.depth < l2.depth := by rw [kept.depth,depth]; omega
  rcases t.release_error deeper failed with ⟨_,rfl⟩ | ⟨cause,handle,ran,rfl⟩
  · exact within
  · exact ⟨inside.deep,by rw [Locked.handle_putHandle,laws.unreleased ran]; exact within.began⟩

end Laws

namespace Program

theorem writes_transaction {ρ γ : Type} {body : Program Change γ}
    {next : Except Error γ → Program Change ρ} {savepoint : String} {value : γ}
    {l l1 l2 l3 : Locked β} (saved : t.save.runFrom l = (.ok savepoint,l1))
    (finished : body.untilFailure t engine l1 = (.finished (.ok value),l2))
    (released : (t.release savepoint).runFrom l2 = (.ok (),l3)) :
    (transaction body next).writes t engine l =
      body.writes t engine l1 ++ (next (.ok value)).writes t engine l3 := by
  have ran : (body.run t engine).runFrom l1 = (.ok value,l2) := by
    rw [run_untilFailure,finished]
  have whole : (t.runInTransaction (body.run t engine).action).runFrom l = (.ok value,l3) := by
    rw [t.runInTransaction_runFrom,saved]
    dsimp only
    rw [ran]
    dsimp only
    rw [released]
  rw [writes,saved,whole]
  rfl

-- Work that ends by itself keeps the depth and the open levels, and what it wrote; work that
-- was interrupted is rolled back to the beginning of the outermost transaction.
def Ended {ρ : Type} (journal : β → Journal α) (effect : String → List Value → α → α) (contents : α)
    (writes : List (String × List Value)) (l : Locked β) : Ending Change ρ × Locked β → Prop
  | (.finished _,l') => Kept journal effect writes l l'
  | (.interrupted _,l') => journal l'.handle = ⟨contents,[]⟩

theorem Ended.after {ρ : Type} {contents : α} {writes writes' : List (String × List Value)}
    {l l' : Locked β} {ending : Ending Change ρ × Locked β} (kept : Kept journal effect writes l l')
    (later : Ended journal effect contents writes' l' ending) :
    Ended journal effect contents (writes ++ writes') l ending := by
  rcases ending with ⟨outcome | rest,left⟩
  · exact kept.trans later
  · exact later

theorem untilFailure_inside (laws : Transactional t engine Change journal effect) {ρ : Type}
    (p : Program Change ρ) {contents : α} {l : Locked β} (inside : Inside journal contents l) :
    Ended journal effect contents (p.writes t engine l) l (p.untilFailure t engine l) := by
  induction p generalizing l with
  | finish outcome => exact .refl l
  | execute text args change next ih =>
    rw [untilFailure,writes]
    rcases ran : (engine.locked.execute text args).runFrom l with ⟨e | n,l1⟩
    · have kept := kept_of_refused laws change ran
      exact .after kept (ih (.error e) (inside.kept kept))
    · have kept := kept_of_executed laws change ran
      exact .after kept (ih (.ok n) (inside.kept kept))
  | rowid next ih =>
    have kept := kept_of_rowid laws l
    exact .after kept (ih (engine.locked.lastInsertRowid.run l).1 (inside.kept kept))
  | transaction body next first ih =>
    rw [untilFailure]
    rcases saved : t.save.runFrom l with ⟨e | savepoint,l1⟩
    · exact inside.unsaved laws.savepoints saved
    · -- The same outermost transaction is open in the body, so `contents` stays.
      have within := inside.saved laws.savepoints saved
      have inner := first within
      dsimp only
      rcases ended : body.untilFailure t engine l1 with ⟨(e | value) | rest,l2⟩ <;> rw [ended] at inner
      · exact (within.kept inner).undone laws.savepoints
      · dsimp only
        rcases released : (t.release savepoint).runFrom l2 with ⟨e | u,l3⟩
        · exact (inside_of_unreleased laws inside saved inner released).undone laws.savepoints
        · have kept := kept_of_released laws saved inner released
          rw [writes_transaction saved ended released]
          exact .after kept (ih (.ok value) (inside.kept kept))
      · exact inner

-- What a transaction that fails must not do, if it is to leave nothing behind: its own release
-- is not refused, and after the first inner transaction that fails, by when everything is
-- rolled back, the action changes nothing any more.
def LeavesNothing (t : Transactor β) (engine : Engine β) (journal : β → Journal α) {ρ : Type}
    (p : Program Change ρ) (l : Locked β) : Prop :=
  match t.save.runFrom l with
  | (.error _,_) => True
  | (.ok _,l) => match p.untilFailure t engine l with
    | (.finished (.error _),_) => True
    | (.finished (.ok _),_) => False
    | (.interrupted rest,l) => journal ((rest.run t engine).runFrom l).2.handle = journal l.handle

end Program

theorem unsaved_outside (laws : Transactional t engine Change journal effect) {e : Error}
    {l l1 : Locked β} (outside : l.depth = 0) (idle : (journal l.handle).levels = [])
    (unsaved : t.save.runFrom l = (.error e,l1)) :
    journal (t.undone l1).handle = journal l.handle := by
  obtain ⟨cause,handle,ran,rfl⟩ := t.save_error unsaved
  have same := laws.unsaved ran
  split
  · have deep : 0 < ((Transactor.deepened l).putHandle handle).depth := Nat.succ_pos _
    rw [t.undone_outside (t.depth_undone _),Transactor.undone,if_pos deep]
    have unopened : (journal handle).isOpen = false := by rw [same,Journal.isOpen,idle]; rfl
    exact (laws.unopened unopened).trans same
  · rw [t.undone_outside (by rw [Locked.depth_setDepth,outside])]
    exact same

theorem open_of_unreleased (laws : Transactional t engine Change journal effect)
    {savepoint : String} {writes : List (String × List Value)} {e : Error} {l l1 l2 l3 : Locked β}
    (outside : l.depth = 0) (saved : t.save.runFrom l = (.ok savepoint,l1))
    (kept : Kept journal effect writes l1 l2)
    (failed : (t.release savepoint).runFrom l2 = (.error e,l3)) :
    l3.depth = 0 ∧ (journal l3.handle).levels ≠ [] := by
  obtain ⟨pushed,depth⟩ := saved_levels laws.savepoints saved
  have deeper : l.depth < l2.depth := by rw [kept.depth,depth]; omega
  obtain ⟨rfl,_⟩ := t.save_ok saved
  rcases t.release_error deeper failed with ⟨wide,_⟩ | ⟨cause,handle,ran,rfl⟩
  · rw [outside] at wide
    exact absurd wide (by decide)
  · refine ⟨outside,?_⟩
    rw [Locked.handle_putHandle,laws.unreleased ran,kept.levels,pushed]
    exact List.cons_ne_nil _ _

-- A transaction that succeeds keeps all its writes. One that fails leaves the database as it
-- was exactly under the condition above; the depth is zero in both cases.
theorem runInTransaction_atomic (laws : Transactional t engine Change journal effect) {ρ : Type}
    (p : Program Change ρ) {l : Locked β} (outside : l.depth = 0)
    (idle : (journal l.handle).levels = []) :
    match (t.runInTransaction (p.run t engine).action).runFrom l with
    | (.ok _,l') => l'.depth = 0 ∧ journal l'.handle =
        ⟨afterWrites effect (p.writes t engine (t.save.runFrom l).2) (journal l.handle).current,[]⟩
    | (.error (.failed _),l') => l'.depth = 0 ∧
        (journal l'.handle = journal l.handle ↔ p.LeavesNothing t engine journal l)
    | (.error .panicked,_) => False := by
  have before : journal l.handle = ⟨(journal l.handle).current,[]⟩ := by rw [← idle]
  rw [t.runInTransaction_runFrom,Program.LeavesNothing]
  rcases saved : t.save.runFrom l with ⟨e | savepoint,l1⟩
  · exact ⟨t.depth_undone l1,iff_of_true (unsaved_outside laws outside idle saved) trivial⟩
  · obtain ⟨pushed,depth⟩ := saved_levels laws.savepoints saved
    have inside : Inside journal (journal l.handle).current l1 :=
      ⟨by omega,by rw [pushed,Journal.savepoint,idle]; rfl⟩
    have ending := p.untilFailure_inside laws inside
    dsimp only
    rw [p.run_untilFailure t engine l1]
    rcases ended : p.untilFailure t engine l1 with ⟨(e | value) | rest,l2⟩ <;> rw [ended] at ending
    · refine ⟨t.depth_undone l2,iff_of_true ?_ trivial⟩
      rw [(inside.kept ending).undone laws.savepoints,← before]
    · dsimp only
      rcases failed : (t.release savepoint).runFrom l2 with ⟨e | u,l3⟩
      · have refused := open_of_unreleased laws outside saved ending failed
        refine ⟨t.depth_undone l3,iff_of_false ?_ id⟩
        rw [t.undone_outside refused.1]
        intro same
        exact refused.2 (by rw [same,idle])
      · have kept := kept_of_released laws saved ending failed
        refine ⟨kept.depth.trans outside,?_⟩
        rw [← kept.current,← kept.levels.trans idle]
    · -- Everything is rolled back by now, and the rest has run outside of any transaction.
      have top : l2.depth = 0 := Program.interrupted_outside t engine p ended
      have rolled : journal l2.handle = journal l.handle := ending.trans before.symm
      have last := rest.run_depth_outside t engine top
      dsimp only
      rw [rolled]
      rcases ran : (rest.run t engine).runFrom l2 with ⟨e | value,l3⟩ <;> rw [ran] at last
      · dsimp only
        rw [t.undone_outside last]
        exact ⟨last,.rfl⟩
      · dsimp only
        rw [t.release_outside last]
        dsimp only
        rw [t.undone_outside last]
        exact ⟨last,.rfl⟩

def owners : Entity (List Value) := Mapping.valuesEntity ⟨"Owner",[Column.new "name" .text]⟩

def pets : Entity (List Value) := Mapping.valuesEntity ⟨"Pet",[Column.new "name" .text]⟩

def adopting : Program Ledger.IsInsert Unit :=
  .insertThen (fun table names => ⟨table,names,rfl⟩) owners [.text "Ada"] fun
    | .error e => .finish (.error e)
    | .ok _ => .transaction
        (.insertThen (fun table names => ⟨table,names,rfl⟩) pets [.text "Rex"] fun outcome =>
          .finish (outcome.map fun _ => ()))
        fun _ => .finish (.ok ())

def refusing (texts : List String) : Locked Ledger :=
  ⟨.standalone,{ journal := { current := [], levels := [] }, refused := texts }⟩

theorem runInTransaction_atomic_adopting :
    (∃ l', (Ledger.transactor.runInTransaction (adopting.run Ledger.transactor Ledger.engine).action).runFrom
        (refusing []) = (.ok (),l') ∧ l'.depth = 0 ∧ l'.handle.journal =
          ⟨[("insert into \"Owner\" (\"name\") values (?)",[.text "Ada"]),
            ("insert into \"Pet\" (\"name\") values (?)",[.text "Rex"])],[]⟩) ∧
    (∃ e l', (Ledger.transactor.runInTransaction (adopting.run Ledger.transactor Ledger.engine).action).runFrom
        (refusing ["insert into \"Pet\" (\"name\") values (?)"]) = (.error (.failed e),l') ∧
          l'.depth = 0 ∧ l'.handle.journal = ⟨[],[]⟩) := by
  constructor
  · have atomic := runInTransaction_atomic Ledger.transactional adopting
      (l := refusing []) rfl rfl
    exact ⟨_,rfl,atomic⟩
  · have atomic := runInTransaction_atomic Ledger.transactional adopting
      (l := refusing ["insert into \"Pet\" (\"name\") values (?)"]) rfl rfl
    exact ⟨_,_,rfl,atomic.1,atomic.2.mpr rfl⟩

-- A refused release lowers the depth first, and the rollback after it sees no transaction.
theorem runInTransaction_leaves_transaction_open :
    ¬ ∀ (α β : Type) (t : Transactor β) (engine : Engine β) (Change : String → Prop)
      (journal : β → Journal α) (effect : String → List Value → α → α),
      Transactional t engine Change journal effect →
      ∀ (ρ : Type) (p : Program Change ρ) (l l' : Locked β) (halt : Halt), l.depth = 0 →
      (journal l.handle).levels = [] →
      (t.runInTransaction (p.run t engine).action).runFrom l = (.error halt,l') →
      (journal l'.handle).isOpen = false := by
  intro atomic
  have closed := atomic _ _ _ _ _ _ _ Ledger.transactional _ adopting
    (refusing ["release S0D0"]) _ _ rfl rfl rfl
  cases closed

end TypedRows
