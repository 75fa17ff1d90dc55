import TypedRows.Proofs.Transaction.Levels

namespace TypedRows

-- What a session tells about its transaction, and what it sends, after any run of calls.

def Transactor.recorded {β : Type} (t : Transactor β) : Transactor (β × List TransactionCommand) where
  run command := fun b => ((t.sent command b.1).1,((t.sent command b.1).2,b.2 ++ [command]))

def TransactionCall.sends {β : Type} (call : TransactionCall) (t : Transactor β) (l : Locked β) :
    List TransactionCommand :=
  ((call.perform t.recorded).runFrom ⟨l.session,(l.handle,[])⟩).2.handle.2

section

variable {α β : Type} {t : Transactor β} {journal : β → Journal α} {start l : Locked β}
  {history : List (TransactionCall × Except Error Unit)}

theorem sends_commit (t : Transactor β) (l : Locked β) :
    TransactionCall.commit.sends t l = if l.depth = 0 then [] else [.commit] := by
  rw [TransactionCall.sends,TransactionCall.perform,Transactor.commit_runFrom]
  by_cases outside : l.depth = 0
  · rw [if_pos outside,if_pos (by exact outside)]
  · rw [if_neg outside,if_neg (by exact outside)]
    rfl

theorem sends_rollback (t : Transactor β) (l : Locked β) :
    TransactionCall.rollback.sends t l = if l.depth = 0 then [] else [.rollback] := by
  rw [TransactionCall.sends,TransactionCall.perform,Transactor.rollback_left,Transactor.undone]
  by_cases outside : l.depth = 0
  · rw [if_pos outside,if_neg (by exact Nat.not_lt.mpr (Nat.le_of_eq outside))]
  · rw [if_neg outside,if_pos (by exact Nat.pos_of_ne_zero outside)]
    rfl

theorem sends_begin (t : Transactor β) (l : Locked β) :
    TransactionCall.begin.sends t l = [] ↔ l.depth ≠ 0 := by
  rw [TransactionCall.sends,TransactionCall.perform,Transactor.begin_runFrom]
  by_cases inside : l.depth ≠ 0
  · rw [if_pos (by exact inside)]
    exact iff_of_true rfl inside
  · rw [if_neg (by exact inside)]
    refine iff_of_false ?_ inside
    have sent : t.recorded.sent .begin (l.handle,[]) =
      ((t.sent .begin l.handle).1,((t.sent .begin l.handle).2,[.begin])) := rfl
    dsimp only
    rw [sent]
    rcases t.sent .begin l.handle with ⟨e | u,b⟩
    · dsimp only
      split
      · rw [Transactor.undone,if_pos (by exact Nat.one_pos)]
        exact List.cons_ne_nil _ _
      · exact List.cons_ne_nil _ _
    · exact List.cons_ne_nil _ _

theorem begin_nested (t : Transactor β) (l : Locked β) :
    (∃ problem, (t.begin.runFrom l).1 = .error (.transaction problem)) ↔ l.depth ≠ 0 := by
  rw [t.begin_runFrom]
  by_cases inside : l.depth ≠ 0
  · rw [if_pos inside]
    exact iff_of_true ⟨.nested,rfl⟩ inside
  · rw [if_neg inside]
    refine iff_of_false ?_ inside
    rintro ⟨problem,refused⟩
    rcases ran : t.sent .begin l.handle with ⟨e | u,b⟩ <;> rw [ran] at refused <;> cases refused

theorem isInTransaction_eq_isOpen {j : Journal α} : l.session.isInTransaction = j.isOpen ↔
    (0 < l.depth ↔ j.levels ≠ []) := by
  rw [Bool.eq_iff_iff,Session.isInTransaction,decide_eq_true_iff,Journal.isOpen]
  refine iff_congr .rfl ?_
  rw [Bool.not_eq_true',List.isEmpty_eq_false_iff]

-- As long as nobody rolls back to a savepoint, the depth is the number of open levels.
theorem Calls.depth_eq_height (rules : StackRules t journal fun command => command.isStart = true)
    (calls : Calls t journal start history l) (outside : start.depth = 0)
    (idle : (journal start.handle).levels = [])
    (plain : ∀ entry ∈ history, ∀ name, entry.1 ≠ .rollbackTo name) :
    l.depth = (journal l.handle).height ∧
    l.session.isInTransaction = (journal l.handle).isOpen ∧
    ((∃ problem, (t.begin.runFrom l).1 = .error (.transaction problem)) ↔
      (journal l.handle).height ≠ 0) ∧
    (TransactionCall.begin.sends t l = [] ↔ (journal l.handle).height ≠ 0) := by
  have none : undoneIn history = [] := by
    refine List.filterMap_eq_nil_iff.mpr fun entry member => ?_
    obtain ⟨call,outcome⟩ := entry
    cases call with
    | rollbackTo name => exact absurd rfl (plain _ member name)
    | _ => rfl
  have depth : l.depth = (journal l.handle).height := by
    have counted := calls.counted rules outside idle
    rw [none] at counted
    exact counted.depth.trans (standing_nil _)
  refine ⟨depth,?_,?_,?_⟩
  · rw [isInTransaction_eq_isOpen,depth]
    exact List.length_pos_iff
  · rw [begin_nested,depth]
  · rw [sends_begin,depth]

-- Of five starts the second fails and takes the transaction with it; the fourth only fails.
def faltering : Locked (Journal Unit × List (Option EngineError)) :=
  ⟨.standalone,(⟨(),[]⟩,[none,some .busy,none,some .readOnly,none])⟩

theorem Calls.depth_eq_height_faltering : ∃ history l,
    Calls Journal.transactor.failing (fun b => b.1) faltering history l ∧
    (history.map fun entry => entry.2) = [.ok (),.ok (),.error (.engine .readOnly),.ok (),
      .error (.engine .busy),.ok ()] ∧
    l.depth = 1 ∧ l.depth = l.handle.1.height ∧
    l.session.isInTransaction = l.handle.1.isOpen ∧
    (∃ problem, (Journal.transactor.failing.begin.runFrom l).1 = .error (.transaction problem)) ∧
    TransactionCall.begin.sends Journal.transactor.failing l = [] := by
  have started : Calls Journal.transactor.failing (fun b => b.1) faltering _ _ :=
    .call .save (.call .save (.call .begin (.call .save (.call .save .nothing trivial) trivial)
      trivial) trivial) trivial
  have calls := started.call (.release "S3D1") ⟨⟨some "S3D1",()⟩,List.mem_cons_self,rfl⟩
  obtain ⟨height,same,nested,nothing⟩ :=
    calls.depth_eq_height Journal.stackRules.failing rfl rfl (by simp)
  exact ⟨_,_,calls,rfl,rfl,height,same,nested.mpr Nat.one_ne_zero,nothing.mpr Nat.one_ne_zero⟩

-- A rollback to a savepoint takes its level out of the depth, although it stays open. So the
-- depth counts the levels that nobody has rolled back to, and where there is none of those the
-- session sees no transaction.
theorem Calls.depth_counts_standing
    (rules : StackRules t journal fun command => command.isStart = true)
    (calls : Calls t journal start history l) (outside : start.depth = 0)
    (idle : (journal start.handle).levels = []) :
    l.depth = standing (undoneIn history) (journal l.handle).levels ∧
    (l.session.isInTransaction = (journal l.handle).isOpen ↔
      ((journal l.handle).isOpen = true →
        ∃ level ∈ (journal l.handle).levels, level.stands (undoneIn history) = true)) ∧
    (TransactionCall.commit.sends t l = [.commit] ↔
      ∃ level ∈ (journal l.handle).levels, level.stands (undoneIn history) = true) ∧
    (TransactionCall.rollback.sends t l = [.rollback] ↔
      ∃ level ∈ (journal l.handle).levels, level.stands (undoneIn history) = true) ∧
    ((∃ problem, (t.begin.runFrom l).1 = .error (.transaction problem)) ↔
      ∃ level ∈ (journal l.handle).levels, level.stands (undoneIn history) = true) := by
  have depth := (calls.counted rules outside idle).depth
  have stands : 0 < l.depth ↔
      ∃ level ∈ (journal l.handle).levels, level.stands (undoneIn history) = true := by
    rw [depth]; exact standing_pos
  refine ⟨depth,?_,?_,?_,?_⟩
  · rw [isInTransaction_eq_isOpen,stands,Journal.isOpen,Bool.not_eq_true',List.isEmpty_eq_false_iff]
    refine ⟨fun same => same.mpr,fun opened => ⟨?_,opened⟩⟩
    rintro ⟨level,member,_⟩
    exact List.ne_nil_of_mem member
  · rw [sends_commit,← stands]
    split <;> simp [*] <;> omega
  · rw [sends_rollback,← stands]
    split <;> simp [*] <;> omega
  · rw [begin_nested,← stands,Nat.pos_iff_ne_zero]

theorem Calls.depth_counts_standing_nested : ∃ history l,
    Calls Journal.transactor (id : Journal Unit → Journal Unit) ⟨.standalone,⟨(),[]⟩⟩ history l ∧
    undoneIn history = ["S1D1"] ∧ l.handle.height = 2 ∧ l.depth = 1 ∧
    l.session.isInTransaction = l.handle.isOpen ∧
    TransactionCall.commit.sends Journal.transactor l = [.commit] := by
  have saved : Calls Journal.transactor id ⟨.standalone,⟨(),[]⟩⟩ _ _ :=
    .call .save (.call .save .nothing trivial) trivial
  have calls := saved.call (.rollbackTo "S1D1") ⟨⟨some "S1D1",()⟩,List.mem_cons_self,rfl⟩
  have outer : ∃ level ∈ [⟨some "S1D1",()⟩,⟨some "S0D0",()⟩],
      (level : Level Unit).stands ["S1D1"] = true :=
    ⟨⟨some "S0D0",()⟩,by simp,by decide⟩
  obtain ⟨depth,same,commits,_,_⟩ := calls.depth_counts_standing
    (Journal.stackRules.weaken fun _ absurd => absurd.elim) rfl rfl
  exact ⟨_,_,calls,rfl,rfl,depth,same.mpr fun _ => outer,commits.mpr outer⟩

theorem rollbackTo_hides_transaction :
    ¬ ∀ (α β : Type) (t : Transactor β) (journal : β → Journal α),
      StackRules t journal (fun _ => False) →
      ∀ (start l : Locked β) (history : List (TransactionCall × Except Error Unit)),
      start.depth = 0 → (journal start.handle).levels = [] → Calls t journal start history l →
      l.session.isInTransaction = (journal l.handle).isOpen := by
  intro agree
  have saved : Calls Journal.transactor id ⟨.standalone,⟨(),[]⟩⟩ _ _ :=
    .call .save .nothing trivial
  have calls := saved.call (.rollbackTo "S0D0") ⟨⟨some "S0D0",()⟩,List.mem_cons_self,rfl⟩
  have same := agree Unit _ _ _ Journal.stackRules _ _ _ rfl rfl calls
  cases same

end

end TypedRows
