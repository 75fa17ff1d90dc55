import TypedRows.Proofs.Transaction.Depth
import TypedRows.Proofs.Transaction.Rules

namespace TypedRows

-- The calls that give up open levels, and what becomes of the depth where the database refuses
-- their commands.

def TransactionCall.aim : TransactionCall → Option (TransactionCommand × Nat)
  | .release name => (Session.depthOf name).map fun depth => (.release name,depth)
  | .rollbackTo name => (Session.depthOf name).map fun depth => (.rollbackTo name,depth)
  | .commit => some (.commit,0)
  | .rollback => some (.rollback,0)
  | .begin | .save => none

def TransactionCall.closes : TransactionCall → Bool
  | .begin | .save => false
  | _ => true

section

variable {α β : Type} {t : Transactor β} {journal : β → Journal α}
  {refusable : TransactionCommand → Prop} {l l' : Locked β} {call : TransactionCall}
  {command : TransactionCommand} {d : Nat}

theorem Transactor.rollback_runFrom (t : Transactor β) (l : Locked β) : t.rollback.runFrom l =
    if l.depth = 0 then (.ok (),l)
    else ((t.sent .rollback l.handle).1.mapError .engine,
      (l.setDepth 0).putHandle (t.sent .rollback l.handle).2) := by
  unfold Transactor.rollback
  simp only [Step.runFrom_bind,Step.runFrom_get,Step.runFrom_modify]
  by_cases outside : l.depth = 0
  · have zero : l.session.depth = 0 := outside
    have same : l.setDepth 0 = l := by rw [← outside]; rfl
    simp [outside,zero,same]
  · have positive : 0 < l.session.depth := Nat.pos_of_ne_zero outside
    simp [outside,positive,Transactor.sendOrFail_runFrom]

-- The depth goes down before the database has answered, and stays down whatever it answers.
theorem perform_above (aimed : call.aim = some (command,d)) (above : d < l.depth) :
    (call.perform t).runFrom l = ((t.sent command l.handle).1.mapError .engine,
      (l.setDepth d).putHandle (t.sent command l.handle).2) := by
  cases call with
  | begin | save => cases aimed
  | release name | rollbackTo name =>
    obtain ⟨depth,named,same⟩ := Option.map_eq_some_iff.mp aimed
    cases same
    refine (t.savepointCommand_runFrom name _ l).trans ?_
    rw [named]
    exact if_neg (Nat.not_le.mpr above)
  | commit =>
    cases aimed
    exact (t.commit_runFrom l).trans (if_neg (Nat.ne_of_gt above))
  | rollback =>
    cases aimed
    exact (t.rollback_runFrom l).trans (if_neg (Nat.ne_of_gt above))

theorem savepointCommand_below {name : String} (command : TransactionCommand)
    (below : ∀ d, Session.depthOf name = some d → l.depth ≤ d) :
    (t.savepointCommand name command).runFrom l =
      (.error (.transaction (.invalidSavepoint name)),l) := by
  rw [t.savepointCommand_runFrom]
  cases named : Session.depthOf name with
  | none => rfl
  | some depth => exact if_pos (below depth named)

theorem perform_below (closes : call.closes = true)
    (below : ∀ command d, call.aim = some (command,d) → l.depth ≤ d) :
    ((call.perform t).runFrom l).2 = l ∧
      ∀ e, ((call.perform t).runFrom l).1 ≠ .error (.engine e) := by
  cases call with
  | begin | save => cases closes
  | release name =>
    have refused := savepointCommand_below (t := t) (.release name) fun d named =>
      below (.release name) d (by rw [TransactionCall.aim,named]; rfl)
    rw [TransactionCall.perform,Transactor.release,refused]
    exact ⟨rfl,fun e failed => by cases failed⟩
  | rollbackTo name =>
    have refused := savepointCommand_below (t := t) (.rollbackTo name) fun d named =>
      below (.rollbackTo name) d (by rw [TransactionCall.aim,named]; rfl)
    rw [TransactionCall.perform,Transactor.rollbackTo,refused]
    exact ⟨rfl,fun e failed => by cases failed⟩
  | commit =>
    have outside : l.depth = 0 := Nat.le_zero.mp (below _ _ rfl)
    rw [TransactionCall.perform,t.commit_runFrom,if_pos outside]
    exact ⟨rfl,fun e failed => by cases failed⟩
  | rollback =>
    have outside : l.depth = 0 := Nat.le_zero.mp (below _ _ rfl)
    rw [TransactionCall.perform,t.rollback_runFrom,if_pos outside]
    exact ⟨rfl,fun e failed => by cases failed⟩

theorem sends_above (aimed : call.aim = some (command,d)) (above : d < l.depth) :
    call.sends t l = [command] := by
  rw [TransactionCall.sends,perform_above (l := ⟨l.session,(l.handle,[])⟩) aimed above]
  rfl

theorem sends_below (closes : call.closes = true)
    (below : ∀ command d, call.aim = some (command,d) → l.depth ≤ d) : call.sends t l = [] := by
  rw [TransactionCall.sends,(perform_below (l := ⟨l.session,(l.handle,[])⟩) closes below).1]

theorem below_of_aim (aimed : call.aim = some (command,d)) (below : l.depth ≤ d) :
    ∀ command d, call.aim = some (command,d) → l.depth ≤ d := by
  intro other e same
  cases aimed.symm.trans same
  exact below

theorem aim_of_refused {e : EngineError} (closes : call.closes = true)
    (refused : (call.perform t).runFrom l = (.error (.engine e),l')) :
    ∃ command d, call.aim = some (command,d) ∧ d < l.depth ∧
      ∃ b, t.sent command l.handle = (.error e,b) ∧ l' = (l.setDepth d).putHandle b := by
  by_cases reached : ∃ command d, call.aim = some (command,d) ∧ d < l.depth
  · obtain ⟨command,d,aimed,above⟩ := reached
    refine ⟨command,d,aimed,above,?_⟩
    rw [perform_above aimed above] at refused
    rcases ran : t.sent command l.handle with ⟨cause | u,b⟩ <;> rw [ran] at refused <;> cases refused
    exact ⟨b,rfl,rfl⟩
  · have nothing := (perform_below (t := t) (l := l) closes fun command d aimed =>
      Nat.not_lt.mp fun above => reached ⟨command,d,aimed,above⟩).2 e
    rw [refused] at nothing
    exact absurd rfl nothing

theorem Calls.stuck {history : List (TransactionCall × Except Error Unit)}
    (calls : Calls t journal l history l') (outside : l.depth = 0)
    (closing : ∀ entry ∈ history, entry.1.closes = true) : l' = l := by
  induction calls with
  | nothing => rfl
  | @call history middle call _ _ ih =>
    have before := ih fun entry member => closing entry (List.mem_cons_of_mem _ member)
    rw [before]
    refine (perform_below (closing _ List.mem_cons_self) fun command d _ => ?_).1
    rw [outside]
    exact Nat.zero_le d

-- When the database refuses what such a call sends, everything stays open, but the depth is
-- the one that the call went for. The call itself is not sent again, and whether a transaction
-- is seen, and rolled back on demand, depends on that depth alone. From depth 0 no run of such
-- calls gets anywhere.
theorem refused_call_lowers_depth (call : TransactionCall)
    (rules : StackRules t journal refusable) (agree : l.depth = (journal l.handle).height)
    (closes : call.closes = true) {e : EngineError}
    (refused : (call.perform t).runFrom l = (.error (.engine e),l')) :
    journal l'.handle = journal l.handle ∧
    ∃ command d, call.aim = some (command,d) ∧ call.sends t l = [command] ∧
      d < l.depth ∧ l'.depth = d ∧ call.sends t l' = [] ∧
      (l'.session.isInTransaction = (journal l'.handle).isOpen ↔ d ≠ 0) ∧
      (TransactionCall.rollback.sends t l' = [.rollback] ↔ d ≠ 0) ∧
      (d = 0 → ∀ history final, Calls t journal l' history final →
        (∀ entry ∈ history, entry.1.closes = true) → final = l') := by
  obtain ⟨command,d,aimed,above,b,ran,rfl⟩ := aim_of_refused closes refused
  have same : journal b = journal l.handle := (rules.refused ran).1
  have opened : (journal b).levels ≠ [] := by
    rw [same]
    exact List.length_pos_iff.mp (show 0 < (journal l.handle).height by omega)
  refine ⟨same,command,d,aimed,sends_above aimed above,above,rfl,?_,?_,?_,?_⟩
  · exact sends_below closes (below_of_aim aimed (Nat.le_refl d))
  · rw [isInTransaction_eq_isOpen]
    exact ⟨fun seen => Nat.ne_of_gt (seen.mpr opened),fun deep =>
      iff_of_true (Nat.pos_of_ne_zero deep) opened⟩
  · rw [sends_rollback]
    change (if d = 0 then [] else [_]) = _ ↔ _
    split <;> simp [*]
  · exact fun outside history final calls closing => calls.stuck outside closing

end

theorem Ledger.stackRules : StackRules Ledger.transactor Ledger.journal fun _ => True where
  carried := Ledger.sent_ok
  refused ran := ⟨Ledger.sent_error ran,.inl trivial⟩

-- Will neither give up the inner one of two savepoints nor commit.
def obstinate : Locked Ledger :=
  ⟨.standalone,{ journal := ⟨[],[]⟩, refused := ["release S1D1","commit"] }⟩

def obstinateInside : Locked Ledger :=
  (Ledger.transactor.save.runFrom (Ledger.transactor.save.runFrom obstinate).2).2

theorem refused_call_lowers_depth_obstinate : obstinateInside.depth = 2 ∧
    obstinateInside.handle.journal.height = 2 ∧
    (∃ l', (Ledger.transactor.commit.runFrom obstinateInside) = (.error (.engine .busy),l') ∧
      l'.handle.journal.height = 2 ∧ l'.depth = 0 ∧
      ∀ history final, Calls Ledger.transactor Ledger.journal l' history final →
        (∀ entry ∈ history, entry.1.closes = true) → final = l') ∧
    ∃ l', (Ledger.transactor.release "S1D1").runFrom obstinateInside = (.error (.engine .busy),l') ∧
      l'.handle.journal.height = 2 ∧ l'.depth = 1 ∧
      TransactionCall.rollback.sends Ledger.transactor l' = [.rollback] := by
  refine ⟨rfl,rfl,⟨_,rfl,?_⟩,⟨_,rfl,?_⟩⟩
  · obtain ⟨same,_,_,aimed,_,_,depth,_,_,_,stuck⟩ :=
      refused_call_lowers_depth (l := obstinateInside) .commit Ledger.stackRules rfl rfl rfl
    cases aimed
    exact ⟨congrArg Journal.height same,depth,stuck rfl⟩
  · obtain ⟨same,_,_,aimed,_,_,depth,_,_,rolls,_⟩ :=
      refused_call_lowers_depth (l := obstinateInside) (.release "S1D1") Ledger.stackRules rfl rfl
        rfl
    cases aimed
    exact ⟨congrArg Journal.height same,depth,rolls.mpr Nat.one_ne_zero⟩

-- A commit is refused, and its transaction is open and out of sight.
theorem refusal_hides_transaction :
    ¬ ∀ (α β : Type) (t : Transactor β) (journal : β → Journal α),
      StackRules t journal (fun _ => True) →
      ∀ (start l l' : Locked β) (history : List (TransactionCall × Except Error Unit))
        (call : TransactionCall) (e : EngineError),
      start.depth = 0 → (journal start.handle).levels = [] → Calls t journal start history l →
      l.depth = (journal l.handle).height → call.closes = true →
      call.Names (journal l.handle).levels →
      (call.perform t).runFrom l = (.error (.engine e),l') →
      l'.depth = l.depth ∧ l'.session.isInTransaction = (journal l'.handle).isOpen ∧
        call.sends t l' = call.sends t l ∧ TransactionCall.rollback.sends t l' = [.rollback] := by
  intro kept
  have calls : Calls Ledger.transactor Ledger.journal obstinate _ _ :=
    .call .save (.call .save .nothing trivial) trivial
  obtain ⟨_,seen,_⟩ := kept _ _ _ _ Ledger.stackRules _ _ _ _ .commit _ rfl rfl calls rfl rfl trivial rfl
  cases seen

end TypedRows
