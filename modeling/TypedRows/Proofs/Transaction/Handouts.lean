import TypedRows.Proofs.Transaction.Names

namespace TypedRows

-- The names of savepoints over the life of a connection: each is given once, and tells the depth
-- that it was made at.

def handedOut (history : List (Except Error String × Nat)) : List String :=
  history.filterMap fun entry => entry.1.toOption

-- What may happen to a session, with the calls for a savepoint in their order, each with its
-- answer and the depth before it. The action of a transaction may do any of this and end in any
-- way; `aside` is whatever does not touch depth and number, such as the statements, the lock and
-- the closing of the connection.
inductive Life {β : Type} (t : Transactor β) :
    Locked β → List (Except Error String × Nat) → Locked β → Prop where
  | aside {l l' : Locked β} : l'.depth = l.depth → l'.session.sequence = l.session.sequence →
      Life t l [] l'
  | next {l l' l'' : Locked β} {first second : List (Except Error String × Nat)} :
      Life t l first l' → Life t l' second l'' → Life t l (first ++ second) l''
  | call {call : TransactionCall} (l : Locked β) : call ≠ .save →
      Life t l [] ((call.perform t).runFrom l).2
  | save (l : Locked β) : Life t l [((t.save.runFrom l).1,l.depth)] (t.save.runFrom l).2
  | unopened {α : Type} {l l1 : Locked β} {e : Error} (action : Action (Locked β) α) :
      t.save.runFrom l = (.error e,l1) →
      Life t l [(.error e,l.depth)] ((t.runInTransaction action).runFrom l).2
  | transaction {α : Type} {l l1 : Locked β} {name : String} {action : Action (Locked β) α}
      {inner : List (Except Error String × Nat)} : t.save.runFrom l = (.ok name,l1) →
      Life t l1 inner (action.runFrom l1).2 →
      Life t l ((.ok name,l.depth) :: inner) ((t.runInTransaction action).runFrom l).2

-- One number for each call, whatever it comes to, and depths that grow by one with each at most.
inductive Tallied : Nat → Nat → List (Except Error String × Nat) → Prop where
  | none {n most : Nat} : Tallied n most []
  | entry {n most d : Nat} {answer : Except Error String} {rest : List (Except Error String × Nat)} :
      (∀ name, answer = .ok name → name = Session.savepointName n d) → d ≤ most →
      Tallied (n + 1) (most + 1) rest → Tallied n most ((answer,d) :: rest)

namespace Tallied

variable {n most more d : Nat} {name : String} {history first second : List (Except Error String × Nat)}

theorem weaken (tallied : Tallied n most history) (below : most ≤ more) : Tallied n more history := by
  induction tallied generalizing more with
  | none => exact .none
  | entry named deep _ ih => exact .entry named (Nat.le_trans deep below) (ih (Nat.succ_le_succ below))

theorem append (tallied : Tallied n most first)
    (later : Tallied (n + first.length) (most + first.length) second) :
    Tallied n most (first ++ second) := by
  induction tallied with
  | none => exact later
  | entry named deep _ ih =>
    refine .entry named deep (ih ?_)
    rwa [List.length_cons,Nat.add_comm _ 1,← Nat.add_assoc,← Nat.add_assoc] at later

theorem named (tallied : Tallied n most history) (handed : (.ok name,d) ∈ history) :
    (∃ m, n ≤ m ∧ name = Session.savepointName m d) ∧ d < most + history.length := by
  induction tallied with
  | none => cases handed
  | @entry n most d' answer rest names deep _ ih =>
    rw [List.length_cons]
    rcases List.mem_cons.mp handed with here | later
    · cases here
      exact ⟨⟨n,Nat.le_refl n,names name rfl⟩,by omega⟩
    · obtain ⟨⟨m,above,same⟩,bound⟩ := ih later
      exact ⟨⟨m,Nat.le_of_succ_le above,same⟩,by omega⟩

theorem mem_handedOut : name ∈ handedOut history ↔ ∃ d, (.ok name,d) ∈ history := by
  rw [handedOut,List.mem_filterMap]
  constructor
  · rintro ⟨⟨answer,d⟩,member,same⟩
    cases answer with
    | error e => cases same
    | ok given =>
      cases same
      exact ⟨d,member⟩
  · exact fun ⟨d,member⟩ => ⟨_,member,rfl⟩

theorem nodup (tallied : Tallied n most history) : (handedOut history).Nodup := by
  induction tallied with
  | none => exact .nil
  | @entry n most d answer rest names deep later ih =>
    cases answer with
    | error e => exact ih
    | ok name =>
      refine List.nodup_cons.mpr ⟨fun again => ?_,ih⟩
      obtain ⟨d',member⟩ := mem_handedOut.mp again
      obtain ⟨⟨m,above,same⟩,_⟩ := later.named member
      rw [names name rfl] at same
      have number := savepointName_number same
      omega

end Tallied

section

variable {α β : Type} {t : Transactor β} {l l' l'' : Locked β} {call : TransactionCall}

def Lowers (l l' : Locked β) : Prop :=
  l'.session.sequence = l.session.sequence ∧ l'.depth ≤ max l.depth 1

theorem Lowers.refl (l : Locked β) : Lowers l l := ⟨rfl,Nat.le_max_left _ _⟩

theorem Lowers.trans (first : Lowers l l') (second : Lowers l' l'') : Lowers l l'' := by
  refine ⟨second.1.trans first.1,Nat.le_trans second.2 ?_⟩
  have := first.2
  omega

theorem lowers_undone (t : Transactor β) (l : Locked β) : Lowers l (t.undone l) := by
  refine ⟨?_,by rw [t.depth_undone]; omega⟩
  unfold Transactor.undone
  split <;> rfl

theorem lowers_savepointCommand (name : String) (command : TransactionCommand) (l : Locked β) :
    Lowers l ((t.savepointCommand name command).runFrom l).2 := by
  rw [t.savepointCommand_runFrom]
  cases Session.depthOf name with
  | none => exact .refl l
  | some d =>
    dsimp only
    split
    · exact .refl l
    · rename_i above
      refine ⟨rfl,?_⟩
      change d ≤ max l.depth 1
      omega

theorem lowers_begin (t : Transactor β) (l : Locked β) : Lowers l (t.begin.runFrom l).2 := by
  rw [t.begin_runFrom]
  have opened (handle : β) : Lowers l ((l.setDepth 1).putHandle handle) :=
    ⟨rfl,Nat.le_max_right l.depth 1⟩
  split
  · exact .refl l
  · rcases t.sent .begin l.handle with ⟨e | u,handle⟩
    · dsimp only
      split
      · exact (opened handle).trans (lowers_undone t _)
      · exact .refl l
    · exact opened handle

theorem lowers_perform (other : call ≠ .save) : Lowers l ((call.perform t).runFrom l).2 := by
  cases call with
  | save => exact absurd rfl other
  | begin => exact lowers_begin t l
  | release name => exact lowers_savepointCommand name _ l
  | rollbackTo name => exact lowers_savepointCommand name _ l
  | commit =>
    rw [TransactionCall.perform,t.commit_runFrom]
    split
    · exact .refl l
    · exact ⟨rfl,Nat.zero_le _⟩
  | rollback =>
    rw [TransactionCall.perform,t.rollback_left]
    exact lowers_undone t l

theorem lowers_transaction {action : Action (Locked β) α} {name : String}
    (saved : t.save.runFrom l = (.ok name,l')) :
    Lowers (action.runFrom l').2 ((t.runInTransaction action).runFrom l).2 := by
  rw [t.runInTransaction_action,saved]
  dsimp only
  rcases action.runFrom l' with ⟨(e | _) | value,l2⟩
  · exact lowers_undone t l2
  · exact .refl l2
  · dsimp only
    have released : Lowers l2 ((t.release name).runFrom l2).2 := lowers_savepointCommand name _ l2
    rcases ran : (t.release name).runFrom l2 with ⟨e | u,l3⟩ <;> rw [ran] at released
    · exact released.trans (lowers_undone t l3)
    · exact released

theorem save_left (t : Transactor β) (l : Locked β) :
    (t.save.runFrom l).2.session.sequence = l.session.sequence + 1 ∧
      (t.save.runFrom l).2.depth ≤ l.depth + 1 := by
  have deeper (handle : β) : ((Transactor.deepened l).putHandle handle).session.sequence =
      l.session.sequence + 1 := rfl
  rw [t.save_runFrom]
  rcases t.sent (.savepoint (Transactor.nextSavepoint l)) l.handle with ⟨e | u,handle⟩
  · dsimp only
    split
    · obtain ⟨same,_⟩ := lowers_undone t ((Transactor.deepened l).putHandle handle)
      exact ⟨same.trans (deeper handle),by rw [t.depth_undone]; omega⟩
    · exact ⟨deeper handle,Nat.le_succ _⟩
  · exact ⟨deeper handle,Nat.le_refl _⟩

structure Tally (l : Locked β) (history : List (Except Error String × Nat)) (l' : Locked β) :
    Prop where
  sequence : l'.session.sequence = l.session.sequence + history.length
  depth : l'.depth ≤ max l.depth 1 + history.length
  tallied : Tallied l.session.sequence (max l.depth 1) history

theorem Tally.append {first second : List (Except Error String × Nat)} (one : Tally l first l')
    (two : Tally l' second l'') : Tally l (first ++ second) l'' := by
  have sequence := one.sequence
  have depth := one.depth
  have deep : max l'.depth 1 ≤ max l.depth 1 + first.length := by omega
  have later := two.tallied.weaken deep
  rw [sequence] at later
  refine ⟨?_,?_,one.tallied.append later⟩
  · rw [two.sequence,sequence,List.length_append]
    omega
  · have := two.depth
    rw [List.length_append]
    omega

theorem Lowers.tally (lowers : Lowers l l') : Tally l [] l' :=
  ⟨lowers.1,lowers.2,.none⟩

theorem tally_save (t : Transactor β) (l : Locked β) :
    Tally l [((t.save.runFrom l).1,l.depth)] (t.save.runFrom l).2 := by
  obtain ⟨sequence,depth⟩ := save_left t l
  refine ⟨sequence,?_,.entry ?_ (Nat.le_max_left _ _) .none⟩
  · rw [List.length_singleton]
    omega
  · intro name answered
    exact (t.save_ok (Prod.ext answered rfl)).1

theorem Life.tally {history : List (Except Error String × Nat)} (life : Life t l history l') :
    Tally l history l' := by
  induction life with
  | aside depth sequence => exact Lowers.tally ⟨sequence,by rw [depth]; omega⟩
  | next _ _ one two => exact one.append two
  | call l other => exact (lowers_perform other).tally
  | save l => exact tally_save t l
  | @unopened _ l l1 e action unsaved =>
    have saved := tally_save t l
    rw [unsaved] at saved
    rw [t.runInTransaction_action,unsaved]
    exact saved.append (lowers_undone t l1).tally
  | @transaction _ l l1 name action inner saved _ ih =>
    have opened := tally_save t l
    rw [saved] at opened
    have closed := (ih.append (lowers_transaction saved).tally)
    rw [List.append_nil] at closed
    exact opened.append closed

end

-- The depth that a name tells fits, as long as the savepoints of the connection can be counted in
-- 64 bits. Where the present depth is greater, a call with the name goes to the database.
theorem savepoint_names_unique :
    (∀ sequence depth : UInt64,
      Session.depthOf (Session.savepointName sequence.toNat depth.toNat) = some depth.toNat) ∧
    ∀ (β : Type) (t : Transactor β) (start l : Locked β) (history : List (Except Error String × Nat)),
      start.depth = 0 → start.session.sequence = 0 → Life t start history l →
      history.length < UInt64.size →
      (handedOut history).Nodup ∧
      ∀ name d, (.ok name,d) ∈ history → Session.depthOf name = some d ∧
        ∀ l' : Locked β, d < l'.depth → ∀ call command,
          (call,command) ∈ TransactionCall.naming name → call.sends t l' = [command] ∧
            ((call.perform t).runFrom l').1 = (t.sent command l'.handle).1.mapError .engine := by
  refine ⟨fun sequence depth => ?_,fun β t start l history outside fresh life few => ?_⟩
  · rw [Session.depthOf_savepointName,if_pos depth.toNat_lt]
  have tallied := life.tally.tallied
  rw [outside,fresh] at tallied
  refine ⟨tallied.nodup,fun name d handed => ?_⟩
  obtain ⟨⟨m,_,same⟩,bound⟩ := tallied.named handed
  have fits : d < UInt64.size := by omega
  have told : Session.depthOf name = some d := by
    rw [same,Session.depthOf_savepointName,if_pos fits]
  refine ⟨told,fun l' above call command named => ?_⟩
  have aimed := (aim_of_naming named command).mpr ⟨rfl,Session.depthOf_eq_some.mp told⟩
  rw [perform_above aimed above]
  exact ⟨sends_above aimed above,rfl⟩

theorem savepoint_names_unique_faltering : ∃ l, Life Journal.transactor.failing faltering
      [(.ok "S0D0",0),(.error (.engine .busy),1),(.ok "S2D0",0),(.error (.engine .readOnly),1),
        (.ok "S4D1",1)] l ∧
    ["S0D0","S2D0","S4D1"].Nodup ∧ l.depth = 2 ∧
    (TransactionCall.rollbackTo "S4D1").sends Journal.transactor.failing l = [.rollbackTo "S4D1"] := by
  have breaks {l l1 : Locked (Journal Unit × List (Option EngineError))} {name : String}
      (saved : Journal.transactor.failing.save.runFrom l = (.ok name,l1)) :
      Life Journal.transactor.failing l [(.ok name,l.depth)]
        ((Journal.transactor.failing.runInTransaction
          (throw .panicked : Action _ Unit)).runFrom l).2 :=
    .transaction saved (.aside rfl rfl)
  have life : Life Journal.transactor.failing faltering _ _ :=
    .next (.save _) (.next (.save _) (.next (.save _) (.next (.save _) (breaks rfl))))
  obtain ⟨unique,handed⟩ := savepoint_names_unique.2 _ _ _ _ _ rfl rfl life (by decide)
  have last : (.ok "S4D1",1) ∈ [(.ok "S0D0",0),(.error (.engine .busy),1),(.ok "S2D0",0),
      (.error (.engine .readOnly),1),((.ok "S4D1",1) : Except Error String × Nat)] := by simp
  obtain ⟨_,accepted⟩ := handed "S4D1" 1 last
  refine ⟨_,life,unique,rfl,(accepted _ ?_ (.rollbackTo "S4D1") _ ?_).1⟩
  · exact Nat.lt_succ_self 1
  · exact List.mem_cons_of_mem _ List.mem_cons_self

end TypedRows
