import TypedRows.Database.Journal
import TypedRows.Proofs.Transaction.Commands

namespace TypedRows

-- Savepoints and rollbacks on the open levels of a database: what holds whichever of the other
-- commands the database refuses.

def Journal.obey {α : Type} (j : Journal α) : TransactionCommand → Except EngineError (Journal α)
  | .begin => j.begin
  | .commit => j.commit
  | .rollback => j.rollback
  | .savepoint name => .ok (j.savepoint name)
  | .release name => j.release name
  | .rollbackTo name => j.rollbackTo name

structure SavepointRules {α β : Type} (t : Transactor β) (journal : β → Journal α) : Prop where
  saved : ∀ {name b b'}, t.sent (.savepoint name) b = (.ok (),b') →
    journal b' = (journal b).savepoint name
  unsaved : ∀ {name b e b'}, t.sent (.savepoint name) b = (.error e,b') → journal b' = journal b
  rolledBack : ∀ {b}, (journal b).isOpen = true → ∃ b', t.sent .rollback b = (.ok (),b') ∧
    (journal b).rollback = .ok (journal b')

theorem sameSavepoint_refl (name : String) : sameSavepoint name name = true := by
  simp [sameSavepoint]

theorem levels_release {α : Type} {name : String} {saved : α} {outer : List (Level α)}
    {j j' : Journal α} (inner : j.levels = ⟨some name,saved⟩ :: outer)
    (released : j.release name = .ok j') : j'.levels = outer ∧ j'.current = j.current := by
  have found : Journal.levelsFrom name j.levels = some (⟨some name,saved⟩,outer) := by
    rw [inner,Journal.levelsFrom]
    simp [Level.isNamed,sameSavepoint_refl]
  rw [Journal.release,found] at released
  cases released
  exact ⟨rfl,rfl⟩

structure Inside {α β : Type} (journal : β → Journal α) (contents : α) (l : Locked β) : Prop where
  deep : 0 < l.depth
  began : (journal l.handle).levels.getLast?.map Level.saved = some contents

section

variable {α β : Type} {t : Transactor β} {journal : β → Journal α} {contents : α} {l l' : Locked β}

theorem Inside.same (inside : Inside journal contents l) (depth : l'.depth = l.depth)
    (levels : (journal l'.handle).levels = (journal l.handle).levels) : Inside journal contents l' :=
  ⟨by rw [depth]; exact inside.deep,by rw [levels]; exact inside.began⟩

variable (rules : SavepointRules t journal)

include rules

theorem saved_levels {savepoint : String} (saved : t.save.runFrom l = (.ok savepoint,l')) :
    journal l'.handle = (journal l.handle).savepoint savepoint ∧ l'.depth = l.depth + 1 := by
  obtain ⟨_,handle,ran,rfl⟩ := t.save_ok saved
  exact ⟨rules.saved ran,rfl⟩

theorem Inside.saved {savepoint : String} (inside : Inside journal contents l)
    (saved : t.save.runFrom l = (.ok savepoint,l')) : Inside journal contents l' := by
  obtain ⟨pushed,depth⟩ := saved_levels rules saved
  refine ⟨by omega,?_⟩
  rw [pushed,Journal.savepoint]
  have began := inside.began
  cases none : (journal l.handle).levels with
  | nil => rw [none] at began; cases began
  | cons level outer => rw [none] at began; simpa [List.getLast?_cons_cons] using began

theorem Inside.undone (inside : Inside journal contents l) :
    journal (t.undone l).handle = ⟨contents,[]⟩ := by
  obtain ⟨outermost,last,rfl⟩ := Option.map_eq_some_iff.mp inside.began
  have opened : (journal l.handle).isOpen = true := by
    cases none : (journal l.handle).levels with
    | nil => rw [none] at last; cases last
    | cons level outer => rw [Journal.isOpen,none]; rfl
  obtain ⟨b,ran,rolled⟩ := rules.rolledBack opened
  rw [Journal.rollback,last] at rolled
  rw [Transactor.undone,if_pos inside.deep,ran]
  exact (Except.ok.inj rolled).symm

theorem Inside.unsaved {e : Error} (inside : Inside journal contents l)
    (unsaved : t.save.runFrom l = (.error e,l')) : journal (t.undone l').handle = ⟨contents,[]⟩ := by
  obtain ⟨cause,handle,ran,rfl⟩ := t.save_error unsaved
  have same := rules.unsaved ran
  split
  · have deepened : Inside journal contents ((Transactor.deepened l).putHandle handle) :=
      ⟨Nat.succ_pos _,by rw [Locked.handle_putHandle,same]; exact inside.began⟩
    rw [t.undone_outside (t.depth_undone _)]
    exact deepened.undone rules
  · have back : Inside journal contents (((Transactor.deepened l).putHandle handle).setDepth l.depth) :=
      inside.same rfl (congrArg Journal.levels same)
    exact back.undone rules

end

end TypedRows
