import TypedRows.Client
import TypedRows.Proofs.Pool.Operations
import TypedRows.Proofs.Transaction.Confinement

namespace TypedRows

-- How deep each connection of a process is in transactions, for its session and for the
-- database, and what a call of a client makes of that.

section

variable {δ η α : Type} (journal : δ × η → Journal α)

def Locked.footing (l : Locked (δ × η)) : Nat × List (Level α) := (l.depth,(journal l.handle).levels)

theorem Locked.unlock_failed {β ρ : Type} (e : Error) (l : Locked β) :
    l.unlock (.error (.failed e) : Except Halt ρ) = l := rfl

theorem Locked.footing_unlock {ρ : Type} (outcome : Except Halt ρ) (l : Locked (δ × η)) :
    (l.unlock outcome).footing journal = l.footing journal := by
  rcases outcome with (_ | _) | _ <;> rfl

def Pools.footing (ps : Pools δ η) (c : Nat) : Option (Nat × List (Level α)) :=
  (ps.connections[c]?).map fun connection =>
    Locked.footing journal ⟨connection.session,(ps.shared,connection.handle)⟩

def Pools.locked? (ps : Pools δ η) (c : Nat) : Option (Locked (δ × η)) :=
  (ps.connections[c]?).map fun connection => ⟨connection.session,(ps.shared,connection.handle)⟩

theorem Pools.footing_of_locked {ps : Pools δ η} {c : Nat} {l : Locked (δ × η)}
    (found : ps.locked? c = some l) : ps.footing journal c = some (l.footing journal) := by
  obtain ⟨connection,present,rfl⟩ := Option.map_eq_some_iff.mp found
  rw [Pools.footing,present]
  rfl

-- The open levels of a handle are its own: what other handles do does not change them. A new
-- handle has none.
structure Separate (opener : Opener δ η) : Prop where
  own : ∀ d d' h, (journal (d,h)).levels = (journal (d',h)).levels
  fresh : ∀ {spec d h d'}, opener.openAt spec d = .ok (h,d') → (journal (d',h)).levels = []

end

namespace Pools

variable {δ η α : Type} {journal : δ × η → Journal α} {opener : Opener δ η} {ps ps' : Pools δ η}

-- The same connections with the same handles; only the books of the pools may differ.
structure Alike (ps ps' : Pools δ η) : Prop where
  connections : ps'.connections = ps.connections
  shared : ps'.shared = ps.shared

theorem Alike.footing (alike : Alike ps ps') : ps'.footing journal = ps.footing journal := by
  funext c
  rw [Pools.footing,Pools.footing,alike.connections,alike.shared]

theorem alike_entryFor (p : Nat) (spec : Spec) (ps : Pools δ η) :
    Alike ps (ps.entryFor p spec).2 := by
  unfold entryFor
  dsimp only
  split <;> exact ⟨rfl,rfl⟩

theorem alike_takeIdle (e : Nat) (ps : Pools δ η) : Alike ps ((takeIdle e).runFrom ps).2 := by
  cases found : ps.entries[e]? with
  | none =>
    simp only [takeIdle,Step.runFrom,ExceptT.run,found]
    exact ⟨rfl,rfl⟩
  | some entry =>
    cases taken : entry.takeIdle ps.clock <;>
      simp only [takeIdle,Step.runFrom,ExceptT.run,found,taken] <;> exact ⟨rfl,rfl⟩

theorem alike_giveBack (p : Nat) (session : Session) (ps : Pools δ η) :
    Alike ps (ps.giveBack p session).2 := by
  unfold giveBack
  cases (ps.pool p).entryOf? session.key with
  | none => exact ⟨rfl,rfl⟩
  | some e =>
    cases found : ps.entries[e]? with
    | none =>
      simp only [finished,Step.runFrom,ExceptT.run,found]
      exact ⟨rfl,rfl⟩
    | some entry =>
      cases done : entry.finished session.id <;>
        simp only [finished,Step.runFrom,ExceptT.run,found,done] <;> exact ⟨rfl,rfl⟩

theorem Alike.trans {ps'' : Pools δ η} (first : Alike ps ps') (second : Alike ps' ps'') :
    Alike ps ps'' :=
  ⟨second.connections.trans first.connections,second.shared.trans first.shared⟩

theorem footing_close (c : Nat) (ps : Pools δ η) : (ps.close c).footing journal = ps.footing journal := by
  funext n
  change ((ps.connections.modify c _)[n]?).map _ = _
  rw [List.getElem?_modify,Pools.footing]
  cases ps.connections[n]? with
  | none => rfl
  | some connection =>
    by_cases here : c = n
    · simp only [here,if_true]
      rfl
    · simp only [here,if_false]
      rfl

theorem footing_checkin (p c : Nat) (ps : Pools δ η) :
    (ps.checkin p c).2.footing journal = ps.footing journal := by
  unfold checkin
  cases ps.session? c with
  | none => rfl
  | some session =>
    have back : (ps.giveBack p session).2.footing journal = ps.footing journal :=
      (alike_giveBack p session ps).footing
    dsimp only
    split
    · exact back
    · exact (footing_close c _).trans back

def appended (shared : δ) (connection : Connection η) (ps : Pools δ η) : Pools δ η :=
  {ps with shared := shared, connections := ps.connections ++ [connection]}

theorem Alike.locked (alike : Alike ps ps') (c : Nat) : ps'.locked? c = ps.locked? c := by
  rw [locked?,locked?,alike.connections,alike.shared]

theorem Alike.locked_last {shared : δ} {connection : Connection η}
    (alike : Alike (ps.appended shared connection) ps') :
    ps'.locked? ps.connections.length = some ⟨connection.session,(shared,connection.handle)⟩ := by
  rw [alike.locked,locked?,appended,List.getElem?_concat_length]
  rfl

-- All that a hand-out can do to the connections: nothing where it gives one that was there or
-- fails, and one more where it opens one.
inductive Handed (opener : Opener δ η) (spec : Spec) (ps : Pools δ η) :
    Except Error Nat × Pools δ η → Prop where
  | same {outcome : Except Error Nat} {ps' : Pools δ η} : Alike ps ps' →
      Handed opener spec ps (outcome,ps')
  | dropped {e : Error} {ps' : Pools δ η} : ps'.connections = ps.connections →
      Handed opener spec ps (.error e,ps')
  | opened {handle : η} {shared : δ} {c : Nat} {ps' : Pools δ η} (id : Nat) :
      opener.openAt spec ps.shared = .ok (handle,shared) → c = ps.connections.length →
      Alike (ps.appended shared ⟨Session.new id spec.key,handle⟩) ps' →
      Handed opener spec ps (.ok c,ps')

theorem Handed.before {spec : Spec} {result : Except Error Nat × Pools δ η} (alike : Alike ps ps')
    (handed : Handed opener spec ps' result) : Handed opener spec ps result := by
  cases handed with
  | same after => exact .same (alike.trans after)
  | dropped connections => exact .dropped (connections.trans alike.connections)
  | opened id reached last after =>
    rw [alike.shared] at reached
    rw [alike.connections] at last
    exact .opened id reached last
      ⟨after.connections.trans (congrArg (· ++ _) alike.connections),after.shared⟩

theorem alike_tracking (e : Nat) (slot : Slot) (ps : Pools δ η) : Alike ps (ps.tracking e slot) := by
  unfold tracking
  split <;> exact ⟨rfl,rfl⟩

theorem openNew_handed (opener : Opener δ η) (p : Nat) (spec : Spec) (e : Nat) (ps : Pools δ η) :
    Handed opener spec ps ((openNew opener p spec e).runFrom ps) := by
  rcases openNew_outcomes opener p spec e ps with ⟨cause,ran⟩ | ⟨cause,handle,shared,_,ran⟩ |
      ⟨handle,shared,reached,ran⟩ <;> rw [ran]
  · exact .same ⟨rfl,rfl⟩
  · exact .dropped rfl
  · have numbered : Alike (ps.appended shared ⟨Session.new (ps.newSlot p).id spec.key,handle⟩)
        (ps.numbered p (ps.newSlot p).id shared ⟨Session.new (ps.newSlot p).id spec.key,handle⟩) :=
      ⟨rfl,rfl⟩
    exact .opened _ reached rfl (numbered.trans (alike_tracking e _ _))

theorem checkout_handed (opener : Opener δ η) (p : Nat) (spec : Spec) (ps : Pools δ η) :
    Handed opener spec ps ((checkout opener p spec).runFrom ps) := by
  have entered := alike_entryFor p spec ps
  unfold checkout
  simp only [Step.runFrom_bind,Step.runFrom_get,Step.runFrom_set]
  have taken := entered.trans (alike_takeIdle (ps.entryFor p spec).1 (ps.entryFor p spec).2)
  rcases found : (takeIdle (ps.entryFor p spec).1).runFrom (ps.entryFor p spec).2 with
    ⟨cause | (_ | c),ps2⟩ <;> rw [found] at taken
  · exact .same taken
  · exact (openNew_handed opener p spec (ps.entryFor p spec).1 ps2).before taken
  · exact .same taken

theorem footing_dropped (separate : Separate journal opener)
    (connections : ps'.connections = ps.connections) : ps'.footing journal = ps.footing journal := by
  funext c
  rw [Pools.footing,Pools.footing,connections]
  exact congrArg (Option.map · _) (funext fun _ => Prod.ext rfl (separate.own _ _ _))

theorem footing_appended (separate : Separate journal opener) {spec : Spec} {handle : η} {shared : δ}
    (opened : opener.openAt spec ps.shared = .ok (handle,shared)) (id : Nat) (key : String) (n : Nat) :
    (ps.appended shared ⟨Session.new id key,handle⟩).footing journal n =
      if n = ps.connections.length then some (0,[]) else ps.footing journal n := by
  rw [Pools.footing,Pools.footing,appended]
  dsimp only
  rw [List.getElem?_append]
  split
  · rename_i before
    rw [if_neg (Nat.ne_of_lt before)]
    refine congrArg (Option.map · _) (funext fun connection => ?_)
    exact Prod.ext rfl (separate.own _ _ _)
  · rename_i beyond
    by_cases last : n = ps.connections.length
    · rw [if_pos last,last,Nat.sub_self]
      exact congrArg some (Prod.ext rfl (separate.fresh opened))
    · rw [if_neg last,List.getElem?_eq_none (by simp; omega),
        List.getElem?_eq_none (Nat.not_lt.mp beyond)]
      rfl

theorem footing_end (ps : Pools δ η) : ps.footing journal ps.connections.length = none := by
  rw [Pools.footing,List.getElem?_eq_none (Nat.le_refl _)]
  rfl

def GrownBy (journal : δ × η → Journal α) (c : Nat) (ps ps' : Pools δ η) : Prop :=
  ps'.footing journal = ps.footing journal ∨ (ps.footing journal c = none ∧
    ∀ n, ps'.footing journal n = if n = c then some (0,[]) else ps.footing journal n)

theorem GrownBy.then {c : Nat} {ps'' : Pools δ η} (grown : GrownBy journal c ps ps')
    (same : ps''.footing journal = ps'.footing journal) : GrownBy journal c ps ps'' := by
  unfold GrownBy
  rw [same]
  exact grown

theorem checkout_grown (separate : Separate journal opener) {p c : Nat} {spec : Spec}
    (ran : (checkout opener p spec).runFrom ps = (.ok c,ps')) : GrownBy journal c ps ps' := by
  have handed := checkout_handed opener p spec ps
  rw [ran] at handed
  cases handed with
  | same alike => exact .inl alike.footing
  | opened id reached last after =>
    subst last
    exact .inr ⟨footing_end ps,fun n => by
      rw [after.footing]
      exact footing_appended separate reached id spec.key n⟩

theorem checkout_failed (separate : Separate journal opener) {p : Nat} {spec : Spec} {e : Error}
    (ran : (checkout opener p spec).runFrom ps = (.error e,ps')) :
    ps'.footing journal = ps.footing journal := by
  have handed := checkout_handed opener p spec ps
  rw [ran] at handed
  cases handed with
  | same alike => exact alike.footing
  | dropped connections => exact footing_dropped separate connections

def put (c : Nat) (l : Locked (δ × η)) (ps : Pools δ η) : Pools δ η :=
  {ps with shared := l.handle.1, connections := ps.connections.set c ⟨l.session,l.handle.2⟩}

theorem locked_lt {c : Nat} {l : Locked (δ × η)} (found : ps.locked? c = some l) :
    c < ps.connections.length := by
  obtain ⟨connection,present,_⟩ := Option.map_eq_some_iff.mp found
  exact (List.getElem?_eq_some_iff.mp present).1

theorem locked_put {c : Nat} {l : Locked (δ × η)} (found : ps.locked? c = some l)
    (l' : Locked (δ × η)) : (ps.put c l').locked? c = some l' := by
  rw [locked?,put]
  dsimp only
  rw [List.getElem?_set_self (locked_lt found)]
  rfl

theorem footing_put (separate : Separate journal opener) {c : Nat} {l : Locked (δ × η)}
    (found : ps.locked? c = some l) (l' : Locked (δ × η)) (n : Nat) :
    (ps.put c l').footing journal n =
      if n = c then some (l'.footing journal) else ps.footing journal n := by
  rw [Pools.footing,Pools.footing,put]
  dsimp only
  by_cases here : n = c
  · have inRange := locked_lt found
    rw [if_pos here,here,List.getElem?_set_self inRange]
    rfl
  · rw [if_neg here,List.getElem?_set_ne (Ne.symm here)]
    refine congrArg (Option.map · _) (funext fun connection => ?_)
    exact Prod.ext rfl (separate.own _ _ _)

theorem locked_runFrom {c : Nat} {l : Locked (δ × η)} (found : ps.locked? c = some l)
    (unlocked : l.session.lock = .ok ()) {ρ : Type} (action : Action (Locked (δ × η)) ρ) :
    (locked c action).runFrom ps =
      ((action.runFrom l).1,ps.put c ((action.runFrom l).2.unlock (action.runFrom l).1)) := by
  obtain ⟨connection,present,rfl⟩ := Option.map_eq_some_iff.mp found
  simp only [locked,Action.runFrom,ExceptT.run,present,unlocked]
  rfl

theorem locked_cases (c : Nat) (ps : Pools δ η) :
    (∃ e, ∀ (ρ : Type) (action : Action (Locked (δ × η)) ρ),
      (locked c action).runFrom ps = (.error (.failed e),ps)) ∨
    ∃ l, ps.locked? c = some l ∧ l.session.lock = .ok () := by
  cases present : ps.connections[c]? with
  | none =>
    refine .inl ⟨.closed 0 "",fun ρ action => ?_⟩
    simp only [locked,Action.runFrom,ExceptT.run,present]
  | some connection =>
    cases lock : connection.session.lock with
    | error e =>
      refine .inl ⟨e,fun ρ action => ?_⟩
      simp only [locked,Action.runFrom,ExceptT.run,present,lock]
    | ok u => exact .inr ⟨_,by rw [locked?,present]; rfl,lock⟩

end Pools

section

variable {δ η α : Type} {journal : δ × η → Journal α} {opener : Opener δ η}

theorem Client.work_runFrom {ρ : Type} (token : Cancellation) (c : Nat)
    (action : Action (Locked (δ × η)) ρ) (ps : Pools δ η) : (Client.work token c action).runFrom ps =
      if token.firedBeforeLock then (.error (.failed .cancelled),ps)
      else (Pools.locked c (do ensureNotFired token.firedUnderLock; action)).runFrom ps := by
  unfold Client.work
  rw [Action.runFrom_bind]
  cases token.firedBeforeLock <;> rfl

theorem ensureNotFired_then {σ ρ : Type} (fired : Bool) (action : Action σ ρ) (s : σ) :
    (do ensureNotFired fired; action : Action σ ρ).runFrom s =
      if fired then (.error (.failed .cancelled),s) else action.runFrom s := by
  rw [Action.runFrom_bind]
  cases fired <;> rfl

theorem Client.runCancellable_runFrom {ρ : Type} (opener : Opener δ η) (client : Client)
    (token : Cancellation) (action : Action (Locked (δ × η)) ρ) (ps : Pools δ η) :
    (client.runCancellable opener token action).runFrom ps =
      if token.firedAtStart then (.error .cancelled,ps)
      else match (Pools.checkout opener client.pool client.spec).runFrom ps with
        | (.error e,ps) => (.error e,ps)
        | (.ok c,ps) => (Client.settled ((Client.work token c action).runFrom ps).1,
            (((Client.work token c action).runFrom ps).2.checkin client.pool c).2) := rfl

-- A call works on one connection from the state that its work finds there, or does no work.
theorem Client.runCancellable_footing (separate : Separate journal opener) (client : Client)
    (token : Cancellation) (ps : Pools δ η) :
    (∃ e ps' c, ps.GrownBy journal c ps' ∧ ∀ (ρ : Type) (action : Action (Locked (δ × η)) ρ),
      (client.runCancellable opener token action).runFrom ps = (.error e,ps')) ∨
    ∃ c l, (ps.footing journal c = some (l.footing journal) ∨
        ps.footing journal c = none ∧ l.footing journal = (0,[])) ∧
      ∀ (ρ : Type) (action : Action (Locked (δ × η)) ρ), ∃ ps',
        (client.runCancellable opener token action).runFrom ps =
          (Client.settled (action.runFrom l).1,ps') ∧
        ∀ n, ps'.footing journal n =
          if n = c then some ((action.runFrom l).2.footing journal) else ps.footing journal n := by
  simp only [Client.runCancellable_runFrom]
  by_cases start : token.firedAtStart = true
  · simp only [if_pos start]
    exact .inl ⟨_,ps,0,.inl rfl,fun _ _ => rfl⟩
  simp only [if_neg start]
  rcases ran : (Pools.checkout opener client.pool client.spec).runFrom ps with ⟨e | c,ps1⟩
  · exact .inl ⟨e,ps1,0,.inl (Pools.checkout_failed separate ran),fun _ _ => rfl⟩
  have grown := Pools.checkout_grown separate ran
  dsimp only
  simp only [Client.work_runFrom]
  by_cases before : token.firedBeforeLock = true
  · simp only [if_pos before]
    exact .inl ⟨_,_,c,grown.then (Pools.footing_checkin _ c ps1),fun _ _ => rfl⟩
  simp only [if_neg before]
  rcases Pools.locked_cases c ps1 with ⟨e,closed⟩ | ⟨l,present,unlocked⟩
  · simp only [closed]
    exact .inl ⟨e,_,c,grown.then (Pools.footing_checkin _ c ps1),fun _ _ => rfl⟩
  have found : ps1.footing journal c = some (l.footing journal) := Pools.footing_of_locked journal present
  simp only [Pools.locked_runFrom present unlocked,ensureNotFired_then]
  by_cases under : token.firedUnderLock = true
  · simp only [if_pos under,Locked.unlock_failed]
    refine .inl ⟨_,_,c,grown.then ((Pools.footing_checkin _ c _).trans ?_),fun _ _ => rfl⟩
    funext n
    rw [Pools.footing_put separate present]
    split
    · rename_i here
      rw [here,found]
    · rfl
  simp only [if_neg under]
  -- The action runs, and all that it can change is what this one connection has open.
  refine .inr ⟨c,l,?_,fun ρ action => ⟨_,rfl,fun n => ?_⟩⟩
  · rcases grown with same | ⟨absent,added⟩
    · exact .inl (by rw [← same]; exact found)
    · rw [added,if_pos rfl] at found
      exact .inr ⟨absent,(Option.some.inj found).symm⟩
  · rw [Pools.footing_checkin,Pools.footing_put separate present,Locked.footing_unlock]
    split
    · rfl
    · rename_i elsewhere
      rcases grown with same | ⟨_,added⟩
      · rw [same]
      · rw [added,if_neg elsewhere]

end

end TypedRows
