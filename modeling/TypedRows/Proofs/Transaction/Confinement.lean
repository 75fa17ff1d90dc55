import TypedRows.Proofs.Transaction.Program
import TypedRows.Proofs.Transaction.Work

namespace TypedRows

-- Work that starts inside a transaction never commits it.

section

variable {α β : Type} {t : Transactor β} {journal : β → Journal α}
  {refusable : TransactionCommand → Prop} {l : Locked β}

-- Everything was rolled back to `contents` at some point, and `rest` is what the work did from
-- then on.
def RolledBack {ρ : Type} (t : Transactor β) (journal : β → Journal α) (contents : α)
    (result : Except Halt ρ × Locked β) : Prop :=
  ∃ (rest : Work journal ρ) (m : Locked β), m.depth = 0 ∧ journal m.handle = ⟨contents,[]⟩ ∧
    (rest.run t).runFrom m = result

def Confined {ρ : Type} (t : Transactor β) (journal : β → Journal α) (contents : α)
    (result : Except Halt ρ × Locked β) : Prop :=
  Inside journal contents result.2 ∨ RolledBack t journal contents result

variable (rules : StackRules t journal refusable) (firm : ¬ refusable .rollback)

include rules firm

theorem runInTransaction_inside {γ : Type} {action : Action (Locked β) γ} {contents : α}
    {savepoint : String} {outcome : Except Halt γ} {l1 l2 : Locked β}
    (inside : Inside journal contents l) (saved : t.save.runFrom l = (.ok savepoint,l1))
    (ran : action.runFrom l1 = (outcome,l2)) (left : Leaves journal refusable l1 (outcome,l2))
    (within : Inside journal contents l2) :
    Inside journal contents ((t.runInTransaction action).runFrom l).2 ∨
    ∃ e m, (t.runInTransaction action).runFrom l = (.error (.failed e),m) ∧ m.depth = 0 ∧
      journal m.handle = ⟨contents,[]⟩ := by
  rw [t.runInTransaction_action,saved]
  dsimp only
  rw [ran]
  rcases outcome with (e | _) | value
  · exact .inr ⟨e,_,rfl,t.depth_undone l2,within.undone (rules.savepoints firm)⟩
  · exact .inl within
  · have deep := within.deep
    -- Still inside, the action cannot have ended the transaction, so it left things level.
    obtain ⟨depth,levels⟩ : l2.depth = l1.depth ∧
        (journal l2.handle).levels = (journal l1.handle).levels := by
      cases left with
      | same depth levels => exact ⟨depth,levels⟩
      | idle idle => have := idle.depth; omega
      | adrift name refused outside => omega
    dsimp only
    rcases release_top rules firm saved depth levels with
      ⟨l3,released,depth3,levels3⟩ | ⟨e,refused⟩ | ⟨e,l3,refused,depth3,same3,_⟩
    · rw [released]
      exact .inl (inside.same depth3 levels3)
    · rw [refused]
      exact .inr ⟨e,_,rfl,t.depth_undone l2,within.undone (rules.savepoints firm)⟩
    · have within3 : Inside journal contents l3 :=
        ⟨by rw [depth3]; exact inside.deep,by rw [same3]; exact within.began⟩
      rw [refused]
      exact .inr ⟨e,_,rfl,t.depth_undone l3,within3.undone (rules.savepoints firm)⟩

theorem RolledBack.transaction {ρ γ : Type} {body : Work journal γ}
    {next : Except Error γ → Work journal ρ} {contents : α} {savepoint : String}
    {outcome : Except Halt γ} {l1 l2 : Locked β} (saved : t.save.runFrom l = (.ok savepoint,l1))
    (ran : (body.run t).runFrom l1 = (outcome,l2))
    (rolledBack : RolledBack t journal contents (outcome,l2)) :
    RolledBack t journal contents (((Work.transaction body next).run t).runFrom l) := by
  obtain ⟨rest,m,outside,rolled,continued⟩ := rolledBack
  refine ⟨rest.andThen fun outcome => next (.error (Program.refusal savepoint outcome)),m,outside,
    rolled,?_⟩
  have left := rest.run_leaves rules firm m
  rw [continued] at left
  have escaped : l2.depth = 0 ∨ outcome = .error .panicked := by
    cases left with
    | same depth _ => exact .inl (depth.trans outside)
    | idle idle => exact .inl idle.depth
    | broken _ => exact .inr rfl
    | adrift _ _ away => exact .inl away
  rw [Work.run_andThen,continued,Work.run_transaction]
  rcases escaped with away | rfl
  · rw [runInTransaction_escaped saved ran away]
    rcases outcome with (e | _) | value <;> rfl
  · rw [t.runInTransaction_action,saved]
    dsimp only
    rw [ran]

theorem Work.run_confined {ρ : Type} (work : Work journal ρ) {contents : α} {l : Locked β}
    (inside : Inside journal contents l) :
    Confined t journal contents ((work.run t).runFrom l) := by
  induction work generalizing l with
  | finish outcome => exact .inl inside
  | perform step quiet next ih => exact ih _ (inside.same (quiet l).1 (quiet l).2)
  | transaction body next first ih =>
    rcases saved : t.save.runFrom l with ⟨e | savepoint,l1⟩
    · rw [Work.run_transaction,t.runInTransaction_action,saved]
      exact .inr ⟨next (.error e),_,t.depth_undone l1,inside.unsaved (rules.savepoints firm) saved,rfl⟩
    · have left := body.run_leaves rules firm l1
      have confined := first (inside.saved (rules.savepoints firm) saved)
      rcases ran : (body.run t).runFrom l1 with ⟨outcome,l2⟩
      rw [ran] at left confined
      rcases confined with within | rolledBack
      · rw [Work.run_transaction]
        rcases runInTransaction_inside rules firm inside saved ran left within with
          still | ⟨e,m,done,outside,rolled⟩
        · rcases whole : (t.runInTransaction (body.run t)).runFrom l with ⟨(e | _) | value,l3⟩ <;>
            rw [whole] at still
          · exact ih (.error e) still
          · exact .inl still
          · exact ih (.ok value) still
        · rw [done]
          exact .inr ⟨next (.error e),m,outside,rolled,rfl⟩
      · exact .inr (rolledBack.transaction rules firm saved ran)

theorem runInTransaction_panicked {ρ : Type} {work : Work journal ρ} {l' : Locked β}
    (levels : (journal l.handle).levels = [])
    (panicked : (t.runInTransaction (work.run t)).runFrom l = (.error .panicked,l')) :
    Confined t journal (journal l.handle).current
      ((.error .panicked,l') : Except Halt ρ × Locked β) := by
  rw [t.runInTransaction_action] at panicked
  rcases saved : t.save.runFrom l with ⟨e | savepoint,l1⟩ <;> rw [saved] at panicked
  · cases panicked
  · obtain ⟨pushed,deeper⟩ := saved_levels (rules.savepoints firm) saved
    have inside : Inside journal (journal l.handle).current l1 :=
      ⟨by omega,by rw [pushed,Journal.savepoint,levels]; rfl⟩
    have confined := work.run_confined rules firm inside
    dsimp only at panicked
    rcases ran : (work.run t).runFrom l1 with ⟨(e | _) | value,l2⟩ <;> rw [ran] at panicked confined
    · cases panicked
    · cases panicked
      exact confined
    · dsimp only at panicked
      rcases released : (t.release savepoint).runFrom l2 with ⟨e | u,l3⟩ <;>
        rw [released] at panicked <;> cases panicked

end

end TypedRows
