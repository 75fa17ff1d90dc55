import TypedRows.Proofs.Transaction.Savepoint
import TypedRows.Records

namespace TypedRows

-- The rules that a database keeps for one of its handles. `journal` is what the handle shows
-- of the database, `effect` what a statement does to the contents. Outside a transaction a
-- statement changes the contents at once. Every command but a rollback may be refused, and
-- then it changes nothing.

structure Transactional {α β : Type} (t : Transactor β) (engine : Engine β)
    (Change : String → Prop) (journal : β → Journal α) (effect : String → List Value → α → α) :
    Prop where
  saved : ∀ {name b b'}, t.sent (.savepoint name) b = (.ok (),b') →
    journal b' = (journal b).savepoint name
  unsaved : ∀ {name b e b'}, t.sent (.savepoint name) b = (.error e,b') → journal b' = journal b
  released : ∀ {name b b'}, t.sent (.release name) b = (.ok (),b') →
    (journal b).release name = .ok (journal b')
  unreleased : ∀ {name b e b'}, t.sent (.release name) b = (.error e,b') → journal b' = journal b
  rolledBack : ∀ {b}, (journal b).isOpen = true → ∃ b', t.sent .rollback b = (.ok (),b') ∧
    (journal b).rollback = .ok (journal b')
  unopened : ∀ {b}, (journal b).isOpen = false → journal (t.sent .rollback b).2 = journal b
  changed : ∀ {text args b n b'}, Change text → (engine.execute text args).runFrom b = (.ok n,b') →
    journal b' = {journal b with current := effect text args (journal b).current}
  unchanged : ∀ {text args b e b'}, Change text →
    (engine.execute text args).runFrom b = (.error e,b') → journal b' = journal b
  rowid : ∀ {b}, journal (engine.lastInsertRowid.run b).2 = journal b

-- A database that keeps the rules: its contents are the inserts that it was given, and it
-- refuses the texts that it is told to.
structure Ledger where
  journal : Journal (List (String × List Value))
  refused : List String

namespace Ledger

def refuses (b : Ledger) (command : TransactionCommand) : Bool :=
  match command with
  | .rollback => false
  | command => b.refused.contains command.text

def transactor : Transactor Ledger where
  run command := fun b =>
    if b.refuses command then (.error .busy,b)
    else match b.journal.obey command with
      | .ok j => (.ok (),{b with journal := j})
      | .error e => (.error e,b)

def append (text : String) (args : List Value) (contents : List (String × List Value)) :
    List (String × List Value) := contents ++ [(text,args)]

def engine : Engine Ledger where
  execute text args := fun b =>
    if b.refused.contains text then (.error (.engine .busy),b)
    else (.ok 1,{b with journal := {b.journal with current := append text args b.journal.current}})
  select _ _ := pure .empty
  lastInsertRowid := fun b => (Int64.ofNat b.journal.current.length,b)

def IsInsert (text : String) : Prop := ∃ table names, text = Entity.insertText table names

theorem sent_eq (command : TransactionCommand) (b : Ledger) : transactor.sent command b =
    if b.refuses command then (.error .busy,b)
    else match b.journal.obey command with
      | .ok j => (.ok (),{b with journal := j})
      | .error e => (.error e,b) := rfl

theorem sent_ok {command : TransactionCommand} {b b' : Ledger}
    (ran : transactor.sent command b = (.ok (),b')) : b.journal.obey command = .ok b'.journal := by
  rw [sent_eq] at ran
  split at ran
  · cases ran
  · split at ran
    · cases ran
      assumption
    · cases ran

theorem sent_error {command : TransactionCommand} {b b' : Ledger} {e : EngineError}
    (ran : transactor.sent command b = (.error e,b')) : b'.journal = b.journal := by
  rw [sent_eq] at ran
  split at ran
  · cases ran
    rfl
  · split at ran <;> cases ran
    rfl

theorem transactional : Transactional transactor engine IsInsert Ledger.journal append where
  saved ran := (Except.ok.inj (sent_ok ran)).symm
  unsaved ran := sent_error ran
  released ran := sent_ok ran
  unreleased ran := sent_error ran
  rolledBack {b} opened := by
    cases last : b.journal.levels.getLast? with
    | none =>
      rw [List.getLast?_eq_none_iff] at last
      simp [Journal.isOpen,last] at opened
    | some outermost =>
      have rolled : b.journal.rollback = .ok ⟨outermost.saved,[]⟩ := by rw [Journal.rollback,last]
      refine ⟨{b with journal := ⟨outermost.saved,[]⟩},?_,rolled⟩
      rw [sent_eq,refuses,Journal.obey,rolled]
      rfl
  unopened {b} closed := by
    have none : b.journal.levels = [] := by simpa [Journal.isOpen] using closed
    rw [sent_eq,refuses,Journal.obey,Journal.rollback,none]
    rfl
  changed {text args b n b'} _ ran := by
    change (if b.refused.contains text then _ else _) = _ at ran
    split at ran <;> cases ran
    rfl
  unchanged {text args b e b'} _ ran := by
    change (if b.refused.contains text then _ else _) = _ at ran
    split at ran <;> cases ran
    rfl
  rowid := rfl

end Ledger

end TypedRows
