import TypedRows.Proofs.Transaction.Stack

namespace TypedRows

-- The depth of a session against the levels that its database has open, over every run of the
-- transaction calls.

inductive TransactionCall where
  | begin
  | save
  | release (name : String)
  | rollbackTo (name : String)
  | commit
  | rollback

namespace TransactionCall

def perform {β : Type} (t : Transactor β) : TransactionCall → Step (Locked β) Unit
  | .begin => t.begin
  | .save => do let _ ← t.save
  | .release name => t.release name
  | .rollbackTo name => t.rollbackTo name
  | .commit => t.commit
  | .rollback => t.rollback

def Names {α : Type} (levels : List (Level α)) : TransactionCall → Prop
  | .release name => ∃ level ∈ levels, level.name = some name
  | .rollbackTo name => ∃ level ∈ levels, level.name = some name
  | _ => True

def undoes : TransactionCall → Except Error Unit → Option String
  | .rollbackTo name,.ok () => some name
  | _,_ => none

end TransactionCall

inductive Calls {α β : Type} (t : Transactor β) (journal : β → Journal α) (start : Locked β) :
    List (TransactionCall × Except Error Unit) → Locked β → Prop where
  | nothing : Calls t journal start [] start
  | call {history : List (TransactionCall × Except Error Unit)} {l : Locked β}
      (call : TransactionCall) : Calls t journal start history l →
      call.Names (journal l.handle).levels →
      Calls t journal start ((call,((call.perform t).runFrom l).1) :: history)
        ((call.perform t).runFrom l).2

def undoneIn (history : List (TransactionCall × Except Error Unit)) : List String :=
  history.filterMap fun entry => entry.1.undoes entry.2

def Level.stands {α : Type} (undone : List String) (level : Level α) : Bool :=
  level.name.all fun name => !undone.contains name

def standing {α : Type} (undone : List String) (levels : List (Level α)) : Nat :=
  levels.countP (Level.stands undone)

-- The name of every savepoint on the stack tells how many levels stand around it, and the
-- numbers grow inwards. Only the outermost level can have no name.
inductive Numbered {α : Type} (undone : List String) : Nat → List (Level α) → Prop where
  | empty {bound : Nat} : Numbered undone bound []
  | base {bound : Nat} {level : Level α} : level.name = none → Numbered undone bound [level]
  | savepoint {bound n : Nat} {level : Level α} {outer : List (Level α)} : n < bound →
      level.name = some (Session.savepointName n (standing undone outer)) →
      Numbered undone n outer → Numbered undone bound (level :: outer)

section

variable {α : Type} {undone : List String} {bound n d : Nat} {levels : List (Level α)}

theorem savepointName_number {m e : Nat}
    (same : Session.savepointName n d = Session.savepointName m e) : n = m :=
  number_of_sameSavepoint (by rw [same]; exact sameSavepoint_refl _)

theorem standing_nil (levels : List (Level α)) : standing [] levels = levels.length := by
  refine List.countP_eq_length.mpr fun level _ => ?_
  unfold Level.stands
  cases level.name <;> rfl

theorem standing_pos : 0 < standing undone levels ↔ ∃ level ∈ levels, level.stands undone = true :=
  List.countP_pos_iff

theorem standing_undone {level : Level α} {name : String} (named : level.name = some name)
    (member : name ∈ undone) : standing undone (level :: levels) = standing undone levels := by
  unfold standing
  exact List.countP_cons_of_neg (by simp [Level.stands,named,member])

theorem Numbered.more {more : Nat} (numbered : Numbered undone bound levels) (below : bound ≤ more) :
    Numbered undone more levels := by
  cases numbered with
  | empty => exact .empty
  | base unnamed => exact .base unnamed
  | savepoint less named outer => exact .savepoint (Nat.lt_of_lt_of_le less below) named outer

theorem Numbered.levelsFrom (numbered : Numbered undone bound levels) {name : String}
    (present : ∃ level ∈ levels, level.name = some name) :
    ∃ level outer n, Journal.levelsFrom name levels = some (level,outer) ∧ n < bound ∧
      name = Session.savepointName n (standing undone outer) ∧ level.name = some name ∧
      Numbered undone n outer := by
  induction numbered with
  | empty => obtain ⟨_,absurd,_⟩ := present; cases absurd
  | base unnamed =>
    obtain ⟨level,member,named⟩ := present
    rw [List.mem_singleton.mp member,unnamed] at named
    cases named
  | @savepoint bound n level outer less named inner ih =>
    obtain ⟨found,member,same⟩ := present
    rcases List.mem_cons.mp member with rfl | further
    · refine ⟨found,outer,n,?_,less,Option.some.inj (same.symm.trans named),same,inner⟩
      rw [Journal.levelsFrom,if_pos]
      simp [Level.isNamed,same,sameSavepoint_refl]
    · obtain ⟨level1,outer1,m,at1,less1,named1,same1,inner1⟩ := ih ⟨found,further,same⟩
      refine ⟨level1,outer1,m,?_,Nat.lt_trans less1 less,named1,same1,inner1⟩
      rw [Journal.levelsFrom,if_neg,at1]
      intro clash
      rw [Level.isNamed,named,named1] at clash
      exact Nat.ne_of_lt less1 (number_of_sameSavepoint clash)

theorem Numbered.around (numbered : Numbered undone bound levels) (outside : bound ≤ n) :
    standing (Session.savepointName n d :: undone) levels = standing undone levels ∧
      Numbered (Session.savepointName n d :: undone) bound levels := by
  induction numbered with
  | empty => exact ⟨rfl,.empty⟩
  | @base bound level unnamed =>
    refine ⟨?_,.base unnamed⟩
    simp [standing,Level.stands,unnamed]
  | @savepoint bound m level outer less named inner ih =>
    obtain ⟨same,around⟩ := ih (Nat.le_trans (Nat.le_of_lt less) outside)
    have other : ¬ Session.savepointName m (standing undone outer) = Session.savepointName n d :=
      fun equal => by have := savepointName_number equal; omega
    refine ⟨?_,.savepoint less (by rw [same]; exact named) around⟩
    unfold standing at same ⊢
    rw [List.countP_cons,List.countP_cons,same]
    simp [Level.stands,named,other]

end

-- What every run keeps: the depth counts the levels that stand.
structure Counted {α β : Type} (journal : β → Journal α) (undone : List String) (l : Locked β) :
    Prop where
  depth : l.depth = standing undone (journal l.handle).levels
  numbered : Numbered undone l.session.sequence (journal l.handle).levels
  earlier : ∀ name ∈ undone, ∃ n < l.session.sequence, ∃ d, name = Session.savepointName n d

section

variable {α β : Type} {t : Transactor β} {journal : β → Journal α} {undone : List String}
  {l : Locked β}

theorem Counted.opened (counted : Counted journal undone l) (inside : 0 < l.depth) :
    (journal l.handle).isOpen = true := by
  rw [counted.depth] at inside
  obtain ⟨level,member,_⟩ := standing_pos.mp inside
  have some := List.ne_nil_of_mem member
  rw [Journal.isOpen,List.isEmpty_eq_false_iff.mpr some]
  rfl

theorem Counted.sameJournal (counted : Counted journal undone l) {b : β}
    (same : journal b = journal l.handle) : Counted journal undone (l.putHandle b) where
  depth := by rw [Locked.handle_putHandle,same]; exact counted.depth
  numbered := by rw [Locked.handle_putHandle,same]; exact counted.numbered
  earlier := counted.earlier

theorem counted_idle (outside : l.depth = 0) (idle : (journal l.handle).levels = [])
    (earlier : ∀ name ∈ undone, ∃ n < l.session.sequence, ∃ d, name = Session.savepointName n d) :
    Counted journal undone l where
  depth := by rw [outside,idle]; rfl
  numbered := by rw [idle]; exact .empty
  earlier := earlier

variable (rules : StackRules t journal fun command => command.isStart = true)
include rules

theorem counted_undone (inside : 0 < l.depth)
    (earlier : ∀ name ∈ undone, ∃ n < l.session.sequence, ∃ d, name = Session.savepointName n d) :
    Counted journal undone (t.undone l) := by
  rw [Transactor.undone,if_pos inside]
  exact counted_idle rfl (rules.rolledBack (by decide) l.handle) earlier

theorem Counted.rollback (counted : Counted journal undone l) :
    Counted journal undone (t.rollback.runFrom l).2 := by
  rw [t.rollback_left]
  by_cases inside : 0 < l.depth
  · exact counted_undone rules inside counted.earlier
  · rw [t.undone_outside (by omega)]
    exact counted

theorem Counted.commit (counted : Counted journal undone l) :
    Counted journal undone (t.commit.runFrom l).2 := by
  rw [t.commit_runFrom]
  split
  · exact counted
  · rename_i inside
    have opened := counted.opened (Nat.pos_of_ne_zero inside)
    obtain ⟨b,ran,left⟩ := rules.obeyed (by decide)
      (show (journal l.handle).obey .commit = .ok {journal l.handle with levels := []} by
        rw [Journal.obey,Journal.commit,if_pos opened])
    rw [ran]
    exact counted_idle rfl (congrArg Journal.levels left) counted.earlier

theorem Counted.begin (counted : Counted journal undone l) :
    Counted journal undone (t.begin.runFrom l).2 := by
  rw [t.begin_runFrom]
  split
  · exact counted
  · rcases ran : t.sent .begin l.handle with ⟨e | u,b⟩
    · dsimp only
      split
      · exact counted_undone rules Nat.one_pos counted.earlier
      · exact counted.sameJournal (rules.refused ran).1
    · have began := rules.carried ran
      rw [Journal.obey,Journal.begin] at began
      split at began
      · cases began
      · have levels : (journal b).levels = [⟨none,(journal l.handle).current⟩] := by
          rw [← Except.ok.inj began]
        exact ⟨by rw [Locked.handle_putHandle,levels]; rfl,
          by rw [Locked.handle_putHandle,levels]; exact .base rfl,counted.earlier⟩

theorem Counted.save (counted : Counted journal undone l) :
    Counted journal undone (t.save.runFrom l).2 := by
  have earlier : ∀ name ∈ undone, ∃ n < (Transactor.deepened l).session.sequence, ∃ d,
      name = Session.savepointName n d := by
    intro name member
    obtain ⟨n,less,named⟩ := counted.earlier name member
    exact ⟨n,Nat.lt_succ_of_lt less,named⟩
  rw [t.save_runFrom]
  rcases ran : t.sent (.savepoint (Transactor.nextSavepoint l)) l.handle with ⟨e | u,b⟩
  · dsimp only
    split
    · exact counted_undone rules (Nat.succ_pos _) earlier
    · have same := (rules.refused ran).1
      exact ⟨by rw [Locked.handle_setDepth,Locked.handle_putHandle,same]; exact counted.depth,
        by
          rw [Locked.handle_setDepth,Locked.handle_putHandle,same]
          exact counted.numbered.more (Nat.le_succ _),
        earlier⟩
  · have levels : (journal b).levels =
        ⟨some (Transactor.nextSavepoint l),(journal l.handle).current⟩ :: (journal l.handle).levels :=
      (congrArg Journal.levels (Except.ok.inj (rules.carried ran))).symm
    -- The number is new, so nobody has rolled back to this savepoint.
    have unnamed : Transactor.nextSavepoint l ∉ undone := by
      intro member
      obtain ⟨n,less,d,named⟩ := counted.earlier _ member
      exact Nat.ne_of_lt less (savepointName_number named).symm
    refine ⟨?_,?_,earlier⟩
    · rw [Locked.handle_putHandle,levels]
      unfold standing
      rw [List.countP_cons_of_pos (by simp [Level.stands,unnamed])]
      exact congrArg Nat.succ counted.depth
    · rw [Locked.handle_putHandle,levels]
      refine .savepoint (Nat.lt_succ_self _) ?_ counted.numbered
      rw [← counted.depth]
      rfl

theorem savepointCommand_answers {command : TransactionCommand} {j : Journal α} (n d : Nat)
    (allowed : (journal l.handle).obey command = .ok j) (firm : ¬ command.isStart = true) :
    (∃ e, (t.savepointCommand (Session.savepointName n d) command).runFrom l = (.error e,l)) ∨
    ∃ b, journal b = j ∧ (t.savepointCommand (Session.savepointName n d) command).runFrom l =
      (.ok (),(l.setDepth d).putHandle b) := by
  rw [t.savepointCommand_runFrom,Session.depthOf_savepointName]
  by_cases small : d < UInt64.size
  · rw [if_pos small]
    dsimp only
    split
    · exact .inl ⟨_,rfl⟩
    · obtain ⟨b,ran,left⟩ := rules.obeyed firm allowed
      rw [ran]
      exact .inr ⟨b,left,rfl⟩
  · rw [if_neg small]
    exact .inl ⟨_,rfl⟩

theorem Counted.release (counted : Counted journal undone l) {name : String}
    (present : ∃ level ∈ (journal l.handle).levels, level.name = some name) :
    Counted journal undone ((t.release name).runFrom l).2 := by
  obtain ⟨level,outer,n,found,less,rfl,_,inner⟩ := counted.numbered.levelsFrom present
  have allowed : (journal l.handle).obey
      (.release (Session.savepointName n (standing undone outer))) =
        .ok {journal l.handle with levels := outer} := by
    rw [Journal.obey,Journal.release,found]
  rcases savepointCommand_answers rules n (standing undone outer) allowed Bool.false_ne_true with
    ⟨e,refused⟩ | ⟨b,left,done⟩
  · rw [Transactor.release,refused]
    exact counted
  · rw [Transactor.release,done]
    have levels : (journal b).levels = outer := congrArg Journal.levels left
    exact ⟨by rw [Locked.handle_putHandle,levels]; rfl,
      by rw [Locked.handle_putHandle,levels]; exact inner.more (Nat.le_of_lt less),counted.earlier⟩

theorem Counted.rollbackTo (counted : Counted journal undone l) {name : String}
    (present : ∃ level ∈ (journal l.handle).levels, level.name = some name) :
    Counted journal
      (((TransactionCall.rollbackTo name).undoes ((t.rollbackTo name).runFrom l).1).toList ++ undone)
      ((t.rollbackTo name).runFrom l).2 := by
  obtain ⟨level,outer,n,found,less,rfl,named,inner⟩ := counted.numbered.levelsFrom present
  have allowed : (journal l.handle).obey
      (.rollbackTo (Session.savepointName n (standing undone outer))) =
        .ok ⟨level.saved,level :: outer⟩ := by
    rw [Journal.obey,Journal.rollbackTo,found]
  rcases savepointCommand_answers rules n (standing undone outer) allowed Bool.false_ne_true with
    ⟨e,refused⟩ | ⟨b,left,done⟩
  · rw [Transactor.rollbackTo,refused]
    exact counted
  · rw [Transactor.rollbackTo,done]
    have levels : (journal b).levels = level :: outer := congrArg Journal.levels left
    obtain ⟨same,around⟩ := inner.around (d := standing undone outer) (Nat.le_refl n)
    change Counted journal (Session.savepointName n (standing undone outer) :: undone) _
    refine ⟨?_,?_,?_⟩
    · rw [Locked.handle_putHandle,levels,standing_undone named List.mem_cons_self,same]
      rfl
    · rw [Locked.handle_putHandle,levels]
      exact .savepoint less (by rw [same]; exact named) around
    · intro name member
      rcases List.mem_cons.mp member with rfl | before
      · exact ⟨n,less,_,rfl⟩
      · exact counted.earlier name before

theorem Counted.perform (counted : Counted journal undone l) (call : TransactionCall)
    (names : call.Names (journal l.handle).levels) :
    Counted journal ((call.undoes ((call.perform t).runFrom l).1).toList ++ undone)
      ((call.perform t).runFrom l).2 := by
  cases call with
  | begin => exact counted.begin rules
  | save =>
    have left : ((TransactionCall.save.perform t).runFrom l).2 = (t.save.runFrom l).2 := by
      rw [TransactionCall.perform,Step.runFrom_bind]
      rcases t.save.runFrom l with ⟨e | name,l1⟩ <;> rfl
    rw [left]
    exact counted.save rules
  | release name => exact counted.release rules names
  | rollbackTo name => exact counted.rollbackTo rules names
  | commit => exact counted.commit rules
  | rollback => exact counted.rollback rules

theorem Calls.counted {start : Locked β} {history : List (TransactionCall × Except Error Unit)}
    (calls : Calls t journal start history l) (outside : start.depth = 0)
    (idle : (journal start.handle).levels = []) : Counted journal (undoneIn history) l := by
  induction calls with
  | nothing => exact counted_idle outside idle fun _ absurd => (by cases absurd)
  | @call history l call _ names ih =>
    have next := ih.perform rules call names
    rw [undoneIn,List.filterMap_cons]
    rcases undid : call.undoes ((call.perform t).runFrom l).1 with _ | name <;> rw [undid] at next <;>
      exact next

end

end TypedRows
