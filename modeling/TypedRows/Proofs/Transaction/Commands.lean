import TypedRows.Proofs.Steps
import TypedRows.Session

namespace TypedRows

-- What the transaction commands of a session send to its handle, and what becomes of the
-- depth. Later proofs use these facts and do not open the commands again.

theorem Session.afterMark_digits {digits : List Char} (all : ∀ c ∈ digits, c.isDigit = true)
    (rest : List Char) {bytes : Nat} (enough : 2 ≤ bytes + digits.length) :
    Session.afterMark bytes (digits ++ 'D' :: rest) = some rest := by
  induction digits generalizing bytes with
  | nil =>
    rw [List.length_nil,Nat.add_zero] at enough
    simp [Session.afterMark,Nat.not_lt.mpr enough]
  | cons c digits ih =>
    have digit := all c List.mem_cons_self
    have other : c ≠ 'D' := by rintro rfl; exact absurd digit (by decide)
    rw [List.cons_append,Session.afterMark,if_neg other]
    refine ih (fun c present => all c (List.mem_cons_of_mem _ present)) ?_
    have wide := c.utf8Size_pos
    rw [List.length_cons] at enough
    omega

theorem readUnsigned_numeral (n : Nat) : Text.readUnsigned (Text.numeral n) = some n := by
  have noSign : ∀ rest, Text.numeral n ≠ '+' :: rest := by
    intro rest same
    have present : '+' ∈ Text.numeral n := by rw [same]; exact List.mem_cons_self
    exact absurd (Text.isDigit_of_mem_numeral present) (by decide)
  unfold Text.readUnsigned
  split
  · rename_i rest same
    exact absurd same (noSign rest)
  · exact Text.readNumeral_numeral n

theorem Session.savepointName_toList (sequence depth : Nat) :
    (Session.savepointName sequence depth).toList =
      'S' :: (Text.numeral sequence ++ 'D' :: Text.numeral depth) := by
  simp [Session.savepointName,shownNat]

theorem Session.depthOf_savepointName (sequence depth : Nat) :
    Session.depthOf (Session.savepointName sequence depth) =
      if depth < UInt64.size then some depth else none := by
  have digits : ∀ c ∈ Text.numeral sequence, c.isDigit = true := fun _ =>
    Text.isDigit_of_mem_numeral
  have nonempty : 0 < (Text.numeral sequence).length := List.length_pos_iff.mpr Nat.toDigits_ne_nil
  have marked : Session.afterMark 0 (Session.savepointName sequence depth).toList =
      some (Text.numeral depth) := by
    rw [Session.savepointName_toList,Session.afterMark,if_neg (by decide)]
    exact Session.afterMark_digits digits _ (by have := 'S'.utf8Size_pos; omega)
  simp [Session.depthOf,marked,readUnsigned_numeral]

namespace Locked

variable {β : Type}

def depth (l : Locked β) : Nat := l.session.depth

@[simp] theorem depth_setDepth (d : Nat) (l : Locked β) : (l.setDepth d).depth = d := rfl

@[simp] theorem handle_setDepth (d : Nat) (l : Locked β) : (l.setDepth d).handle = l.handle := rfl

def putHandle (handle : β) (l : Locked β) : Locked β := {l with handle := handle}

@[simp] theorem handle_putHandle (handle : β) (l : Locked β) : (l.putHandle handle).handle = handle :=
  rfl

end Locked

namespace Transactor

variable {β α : Type} (t : Transactor β)

def sent (command : TransactionCommand) (handle : β) : Except EngineError Unit × β :=
  (t.run command).run handle

theorem sendOrFail_runFrom (command : TransactionCommand) (l : Locked β) :
    (t.sendOrFail command).runFrom l = ((t.sent command l.handle).1.mapError .engine,
      l.putHandle (t.sent command l.handle).2) := by
  have received : (liftM (t.send command) : Step (Locked β) _).runFrom l =
      (.ok (t.sent command l.handle).1,l.putHandle (t.sent command l.handle).2) := rfl
  unfold sendOrFail
  rw [Step.runFrom_bind,received]
  rcases t.sent command l.handle with ⟨e | u,handle⟩ <;> rfl

def undone (l : Locked β) : Locked β :=
  if 0 < l.depth then (l.setDepth 0).putHandle (t.sent .rollback l.handle).2 else l

theorem depth_undone (l : Locked β) : (t.undone l).depth = 0 := by
  unfold undone
  split
  · rfl
  · omega

theorem rollback_left (l : Locked β) : (t.rollback.runFrom l).2 = t.undone l := by
  unfold rollback undone
  simp only [Step.runFrom_bind,Step.runFrom_get,Step.runFrom_modify]
  by_cases inside : 0 < l.depth
  · have positive : 0 < l.session.depth := inside
    simp [inside,positive,sendOrFail_runFrom]
  · have zero : l.session.depth = 0 := by simpa [Locked.depth] using inside
    have same : l.setDepth 0 = l := by rw [← show l.depth = 0 from zero]; rfl
    simp [inside,zero,same]

theorem commit_runFrom (l : Locked β) : t.commit.runFrom l =
    if l.depth = 0 then (.ok (),l)
    else ((t.sent .commit l.handle).1.mapError .engine,
      (l.setDepth 0).putHandle (t.sent .commit l.handle).2) := by
  unfold commit
  simp only [Step.runFrom_bind,Step.runFrom_get,Step.runFrom_modify]
  by_cases outside : l.depth = 0
  · have zero : l.session.depth = 0 := outside
    have same : l.setDepth 0 = l := by rw [← outside]; rfl
    simp [outside,zero,same]
  · have positive : l.session.depth ≠ 0 := outside
    simp [outside,positive,sendOrFail_runFrom]

theorem startOrAbandon_runFrom (command : TransactionCommand) (l : Locked β) :
    (t.startOrAbandon command).runFrom l = match t.sent command l.handle with
      | (.ok (),handle) => (.ok (),l.putHandle handle)
      | (.error e,handle) => (.error (.engine e),
          if e.requiresRollback then t.undone (l.putHandle handle)
          else (l.putHandle handle).setDepth (l.depth - 1)) := by
  unfold startOrAbandon
  have received : (liftM (t.send command) : Step (Locked β) _).runFrom l =
      (.ok (t.sent command l.handle).1,l.putHandle (t.sent command l.handle).2) := rfl
  rw [Step.runFrom_bind,received]
  rcases t.sent command l.handle with ⟨e | u,handle⟩
  · by_cases lost : e.requiresRollback = true
    · simp only [lost,if_true,Step.runFrom_bind,Step.runFrom_tryCatch]
      rw [← rollback_left]
      rcases t.rollback.runFrom (l.putHandle handle) with ⟨cause | u,left⟩ <;> rfl
    · rw [Bool.not_eq_true] at lost
      simp only [lost]
      rfl
  · rfl

theorem begin_runFrom (l : Locked β) : t.begin.runFrom l =
    if l.depth ≠ 0 then (.error (.transaction .nested),l)
    else match t.sent .begin l.handle with
      | (.ok (),handle) => (.ok (),(l.setDepth 1).putHandle handle)
      | (.error e,handle) => (.error (.engine e),
          if e.requiresRollback then t.undone ((l.setDepth 1).putHandle handle)
          else l.putHandle handle) := by
  unfold begin
  simp only [Step.runFrom_bind,Step.runFrom_get]
  by_cases inside : l.depth ≠ 0
  · have positive : l.session.depth ≠ 0 := inside
    simp [inside,positive]
  · have zero : l.session.depth = 0 := by simpa [Locked.depth] using inside
    have back : ∀ handle, ((l.setDepth 1).putHandle handle).setDepth 0 = l.putHandle handle := by
      intro handle
      rw [← show l.depth = 0 from zero]
      rfl
    simp [inside,zero,startOrAbandon_runFrom,back]

def deepened (l : Locked β) : Locked β :=
  {l with session := {l.session with depth := l.depth + 1, sequence := l.session.sequence + 1}}

def nextSavepoint (l : Locked β) : String := Session.savepointName l.session.sequence l.depth

theorem save_runFrom (l : Locked β) : t.save.runFrom l =
    match t.sent (.savepoint (nextSavepoint l)) l.handle with
    | (.ok (),handle) => (.ok (nextSavepoint l),(deepened l).putHandle handle)
    | (.error e,handle) => (.error (.engine e),
        if e.requiresRollback then t.undone ((deepened l).putHandle handle)
        else ((deepened l).putHandle handle).setDepth l.depth) := by
  unfold save
  refine (Step.runFrom_bind_ok (Step.runFrom_get l)).trans ?_
  refine (Step.runFrom_bind_ok (Step.runFrom_modify _ l)).trans ?_
  have started := t.startOrAbandon_runFrom (.savepoint (nextSavepoint l)) (deepened l)
  rw [show (deepened l).handle = l.handle from rfl] at started
  rcases ran : t.sent (.savepoint (nextSavepoint l)) l.handle with ⟨e | u,handle⟩ <;>
    rw [ran] at started
  · exact Step.runFrom_bind_error started
  · exact Step.runFrom_bind_ok started

theorem save_ok {l l' : Locked β} {savepoint : String}
    (saved : t.save.runFrom l = (.ok savepoint,l')) :
    savepoint = nextSavepoint l ∧ ∃ handle,
      t.sent (.savepoint savepoint) l.handle = (.ok (),handle) ∧
      l' = (deepened l).putHandle handle := by
  rw [t.save_runFrom] at saved
  rcases ran : t.sent (.savepoint (nextSavepoint l)) l.handle with ⟨e | u,handle⟩
  · rw [ran] at saved
    cases saved
  · rw [ran] at saved
    cases saved
    exact ⟨rfl,handle,ran,rfl⟩

theorem save_error {l l' : Locked β} {e : Error} (unsaved : t.save.runFrom l = (.error e,l')) :
    ∃ cause handle, t.sent (.savepoint (nextSavepoint l)) l.handle = (.error cause,handle) ∧
      l' = if cause.requiresRollback then t.undone ((deepened l).putHandle handle)
        else ((deepened l).putHandle handle).setDepth l.depth := by
  rw [t.save_runFrom] at unsaved
  rcases ran : t.sent (.savepoint (nextSavepoint l)) l.handle with ⟨cause | u,handle⟩
  · rw [ran] at unsaved
    cases unsaved
    exact ⟨cause,handle,rfl,rfl⟩
  · rw [ran] at unsaved
    cases unsaved

theorem savepointCommand_runFrom (name : String) (command : TransactionCommand) (l : Locked β) :
    (t.savepointCommand name command).runFrom l =
    match Session.depthOf name with
    | none => (.error (.transaction (.invalidSavepoint name)),l)
    | some depth =>
        if l.depth ≤ depth then (.error (.transaction (.invalidSavepoint name)),l)
        else ((t.sent command l.handle).1.mapError .engine,
          (l.setDepth depth).putHandle (t.sent command l.handle).2) := by
  unfold savepointCommand
  cases Session.depthOf name with
  | none => rfl
  | some depth =>
    simp only [Step.runFrom_bind,Step.runFrom_get]
    by_cases outside : l.depth ≤ depth
    · have refused : l.session.depth ≤ depth := outside
      simp [outside,refused]
    · have accepted : ¬ l.session.depth ≤ depth := outside
      simp [outside,accepted,sendOrFail_runFrom]

theorem release_runFrom (name : String) (l : Locked β) : (t.release name).runFrom l =
    match Session.depthOf name with
    | none => (.error (.transaction (.invalidSavepoint name)),l)
    | some depth =>
        if l.depth ≤ depth then (.error (.transaction (.invalidSavepoint name)),l)
        else ((t.sent (.release name) l.handle).1.mapError .engine,
          (l.setDepth depth).putHandle (t.sent (.release name) l.handle).2) :=
  t.savepointCommand_runFrom name (.release name) l

theorem release_ok {l l' : Locked β} {sequence depth : Nat}
    (released : (t.release (Session.savepointName sequence depth)).runFrom l = (.ok (),l')) :
    ∃ handle, t.sent (.release (Session.savepointName sequence depth)) l.handle = (.ok (),handle) ∧
      l' = (l.setDepth depth).putHandle handle := by
  rw [t.release_runFrom,Session.depthOf_savepointName] at released
  by_cases small : depth < UInt64.size
  · rw [if_pos small] at released
    dsimp only at released
    split at released
    · cases released
    · rcases ran : t.sent (.release (Session.savepointName sequence depth)) l.handle with ⟨e | u,handle⟩
      · rw [ran] at released
        cases released
      · rw [ran] at released
        cases released
        exact ⟨handle,rfl,rfl⟩
  · rw [if_neg small] at released
    cases released

theorem release_error {l l' : Locked β} {sequence depth : Nat} {e : Error} (inside : depth < l.depth)
    (failed : (t.release (Session.savepointName sequence depth)).runFrom l = (.error e,l')) :
    (UInt64.size ≤ depth ∧ l' = l) ∨ ∃ cause handle,
      t.sent (.release (Session.savepointName sequence depth)) l.handle = (.error cause,handle) ∧
      l' = (l.setDepth depth).putHandle handle := by
  rw [t.release_runFrom,Session.depthOf_savepointName] at failed
  by_cases small : depth < UInt64.size
  · rw [if_pos small] at failed
    dsimp only at failed
    rw [if_neg (Nat.not_le.mpr inside)] at failed
    rcases ran : t.sent (.release (Session.savepointName sequence depth)) l.handle with ⟨cause | u,handle⟩
    · rw [ran] at failed
      cases failed
      exact .inr ⟨cause,handle,rfl,rfl⟩
    · rw [ran] at failed
      cases failed
  · rw [if_neg small] at failed
    cases failed
    exact .inl ⟨Nat.not_lt.mp small,rfl⟩

theorem release_outside {l : Locked β} (outside : l.depth = 0) (savepoint : String) :
    (t.release savepoint).runFrom l = (.error (.transaction (.invalidSavepoint savepoint)),l) := by
  rw [t.release_runFrom]
  cases Session.depthOf savepoint with
  | none => rfl
  | some depth => simp [outside]

theorem undone_outside {l : Locked β} (outside : l.depth = 0) : t.undone l = l := by
  simp [undone,outside]

theorem bracketed_runFrom (action : Action (Locked β) α) (l : Locked β) :
    (t.bracketed action).runFrom l =
      match t.save.runFrom l with
      | (.error e,l) => (.error (.failed e),l)
      | (.ok name,l) => match action.runFrom l with
        | (.error halt,l) => (.error halt,l)
        | (.ok value,l) => match (t.release name).runFrom l with
          | (.error e,l) => (.error (.failed e),l)
          | (.ok (),l) => (.ok value,l) := by
  unfold bracketed
  simp only [Action.runFrom_bind,Action.runFrom_action]
  rcases t.save.runFrom l with ⟨e | name,l1⟩
  · rfl
  · simp only
    rcases action.runFrom l1 with ⟨halt | value,l2⟩
    · rfl
    · simp only
      rcases (t.release name).runFrom l2 with ⟨e | u,l3⟩ <;> rfl

theorem runInTransaction_bracketed (action : Action (Locked β) α) (l : Locked β) :
    (t.runInTransaction action).runFrom l =
      match (t.bracketed action).runFrom l with
      | (.ok value,l) => (.ok value,l)
      | (.error (.failed e),l) => (.error (.failed e),t.undone l)
      | (.error .panicked,l) => (.error .panicked,l) := by
  change (match (t.bracketed action).runFrom l with
    | (.ok value,l) => (.ok value,l)
    | (.error (.failed e),l) => (.error (.failed e),(t.rollback.runFrom l).2)
    | (.error .panicked,l) => (.error .panicked,l) : Except Halt α × Locked β) = _
  simp only [rollback_left]

theorem runInTransaction_action (action : Action (Locked β) α) (l : Locked β) :
    (t.runInTransaction action).runFrom l =
      match t.save.runFrom l with
      | (.error e,l) => (.error (.failed e),t.undone l)
      | (.ok name,l) => match action.runFrom l with
        | (.error (.failed e),l) => (.error (.failed e),t.undone l)
        | (.error .panicked,l) => (.error .panicked,l)
        | (.ok value,l) => match (t.release name).runFrom l with
          | (.error e,l) => (.error (.failed e),t.undone l)
          | (.ok (),l) => (.ok value,l) := by
  rw [t.runInTransaction_bracketed,t.bracketed_runFrom]
  rcases t.save.runFrom l with ⟨e | name,l1⟩
  · rfl
  · simp only
    rcases action.runFrom l1 with ⟨(e | _) | value,l2⟩
    · rfl
    · rfl
    · simp only
      rcases (t.release name).runFrom l2 with ⟨e | u,l3⟩ <;> rfl

theorem runInTransaction_runFrom (body : Step (Locked β) α) (l : Locked β) :
    (t.runInTransaction body.action).runFrom l =
      match t.save.runFrom l with
      | (.error e,l) => (.error (.failed e),t.undone l)
      | (.ok name,l) => match body.runFrom l with
        | (.error e,l) => (.error (.failed e),t.undone l)
        | (.ok value,l) => match (t.release name).runFrom l with
          | (.error e,l) => (.error (.failed e),t.undone l)
          | (.ok (),l) => (.ok value,l) := by
  rw [t.runInTransaction_action]
  rcases t.save.runFrom l with ⟨e | name,l1⟩
  · rfl
  · simp only [Action.runFrom_action]
    rcases body.runFrom l1 with ⟨e | value,l2⟩ <;> rfl

end Transactor

end TypedRows
