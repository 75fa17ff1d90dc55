import TypedRows.Proofs.Transaction.Savepoint

namespace TypedRows

-- The open levels behind a session: the rules that a database keeps for them, whatever its
-- contents are, and the names of the savepoints among them.

def TransactionCommand.isStart : TransactionCommand → Bool
  | .begin => true
  | .savepoint _ => true
  | _ => false

-- `journal` is what a handle shows of its database. A command that is refused changes nothing,
-- and of the commands that the open levels allow only those that are `refusable` are refused.
structure StackRules {α β : Type} (t : Transactor β) (journal : β → Journal α)
    (refusable : TransactionCommand → Prop) : Prop where
  carried : ∀ {command b b'}, t.sent command b = (.ok (),b') →
    (journal b).obey command = .ok (journal b')
  refused : ∀ {command b e b'}, t.sent command b = (.error e,b') → journal b' = journal b ∧
    (refusable command ∨ (journal b).obey command = .error e)

section

variable {α β : Type} {t : Transactor β} {journal : β → Journal α}
  {refusable : TransactionCommand → Prop}

theorem StackRules.obeyed (rules : StackRules t journal refusable) {command : TransactionCommand}
    (firm : ¬ refusable command) {b : β} {j : Journal α} (allowed : (journal b).obey command = .ok j) :
    ∃ b', t.sent command b = (.ok (),b') ∧ journal b' = j := by
  rcases ran : t.sent command b with ⟨e | u,b'⟩
  · rcases (rules.refused ran).2 with refused | failed
    · exact absurd refused firm
    · rw [allowed] at failed; cases failed
  · refine ⟨b',rfl,?_⟩
    have carried := rules.carried ran
    rw [allowed] at carried
    exact (Except.ok.inj carried).symm

theorem StackRules.rolledBack (rules : StackRules t journal refusable)
    (firm : ¬ refusable .rollback) (b : β) : (journal (t.sent .rollback b).2).levels = [] := by
  cases last : (journal b).levels.getLast? with
  | none =>
    have idle := List.getLast?_eq_none_iff.mp last
    rcases ran : t.sent .rollback b with ⟨e | u,b'⟩
    · exact (congrArg Journal.levels (rules.refused ran).1).trans idle
    · have carried := rules.carried ran
      rw [Journal.obey,Journal.rollback,last] at carried
      cases carried
  | some outermost =>
    have allowed : (journal b).obey .rollback = .ok ⟨outermost.saved,[]⟩ := by
      rw [Journal.obey,Journal.rollback,last]
    obtain ⟨b',ran,rolled⟩ := rules.obeyed firm allowed
    rw [ran]
    exact congrArg Journal.levels rolled

theorem StackRules.savepoints (rules : StackRules t journal refusable)
    (firm : ¬ refusable .rollback) : SavepointRules t journal where
  saved ran := (Except.ok.inj (rules.carried ran)).symm
  unsaved ran := (rules.refused ran).1
  rolledBack {b} opened := by
    cases last : (journal b).levels.getLast? with
    | none => rw [Journal.isOpen,List.getLast?_eq_none_iff.mp last] at opened; cases opened
    | some outermost =>
      have rolled : (journal b).rollback = .ok ⟨outermost.saved,[]⟩ := by rw [Journal.rollback,last]
      obtain ⟨b',ran,left⟩ := rules.obeyed firm rolled
      exact ⟨b',ran,by rw [rolled,left]⟩

end

-- A database keeps the rules if it passes each command on to one that does, or refuses it by
-- itself where that is allowed.
theorem StackRules.passedOn {α β γ : Type} {t : Transactor γ} {journal : γ → Journal α}
    {refusable others : TransactionCommand → Prop} (rules : StackRules t journal refusable)
    (more : ∀ command, refusable command → others command) {t' : Transactor β} {part : β → γ}
    (passes : ∀ command b,
      (others command ∧ ∃ e b', t'.sent command b = (.error e,b') ∧ part b' = part b) ∨
      ∃ b', t'.sent command b = ((t.sent command (part b)).1,b') ∧
        part b' = (t.sent command (part b)).2) :
    StackRules t' (fun b => journal (part b)) others where
  carried {command b b'} ran := by
    rcases passes command b with ⟨_,_,_,failed,_⟩ | ⟨left,sent,same⟩
    · rw [failed] at ran; cases ran
    · rcases inner : t.sent command (part b) with ⟨outcome,c⟩
      rw [inner] at same sent
      rw [sent] at ran
      cases ran
      rw [same]
      exact rules.carried inner
  refused {command b e b'} ran := by
    rcases passes command b with ⟨other,_,_,failed,same⟩ | ⟨left,sent,same⟩
    · rw [failed] at ran
      cases ran
      exact ⟨congrArg journal same,.inl other⟩
    · rcases inner : t.sent command (part b) with ⟨outcome,c⟩
      rw [inner] at same sent
      rw [sent] at ran
      cases ran
      rw [same]
      exact (rules.refused inner).imp_right (.imp_left (more _))

theorem StackRules.weaken {α β : Type} {t : Transactor β} {journal : β → Journal α}
    {refusable others : TransactionCommand → Prop} (rules : StackRules t journal refusable)
    (more : ∀ command, refusable command → others command) : StackRules t journal others :=
  rules.passedOn more fun _ _ => .inr ⟨_,rfl,rfl⟩

theorem StackRules.on {α β γ : Type} {t : Transactor γ} {journal : γ → Journal α}
    {refusable : TransactionCommand → Prop} {part : β → γ} {put : γ → β → β}
    (rules : StackRules t journal refusable) (lawful : ∀ c b, part (put c b) = c) :
    StackRules (t.on part put) (fun b => journal (part b)) refusable :=
  rules.passedOn (fun _ => id) fun _ _ => .inr ⟨_,rfl,lawful _ _⟩

def Journal.transactor {α : Type} : Transactor (Journal α) where
  run command := fun j => match j.obey command with
    | .ok j' => (.ok (),j')
    | .error e => (.error e,j)

theorem Journal.sent_eq {α : Type} (command : TransactionCommand) (j : Journal α) :
    Journal.transactor.sent command j = match j.obey command with
      | .ok j' => (.ok (),j')
      | .error e => (.error e,j) := rfl

theorem Journal.stackRules {α : Type} :
    StackRules Journal.transactor (id : Journal α → Journal α) fun _ => False where
  carried {command j j'} ran := by
    rw [Journal.sent_eq] at ran
    rcases done : j.obey command with e | j1 <;> rw [done] at ran <;> cases ran
    exact done
  refused {command j e j'} ran := by
    rw [Journal.sent_eq] at ran
    rcases done : j.obey command with cause | j1 <;> rw [done] at ran <;> cases ran
    exact ⟨rfl,.inr done⟩

def Transactor.failing {β : Type} (t : Transactor β) : Transactor (β × List (Option EngineError)) where
  run command := fun b =>
    if command.isStart then
      match b.2 with
      | some e :: later => (.error e,(b.1,later))
      | faults => ((t.sent command b.1).1,((t.sent command b.1).2,faults.tail))
    else ((t.sent command b.1).1,((t.sent command b.1).2,b.2))

theorem StackRules.failing {α β : Type} {t : Transactor β} {journal : β → Journal α}
    (rules : StackRules t journal fun _ => False) :
    StackRules t.failing (fun b => journal b.1) fun command => command.isStart = true := by
  refine rules.passedOn (fun _ => False.elim) fun command b => ?_
  change (_ ∧ ∃ e b', (if command.isStart then _ else _ : _ × _) = _ ∧ _) ∨
    ∃ b', (if command.isStart then _ else _ : _ × _) = _ ∧ _
  by_cases start : command.isStart = true
  · rw [if_pos start]
    split
    · exact .inl ⟨start,_,_,rfl,rfl⟩
    · exact .inr ⟨_,rfl,rfl⟩
  · rw [if_neg start]
    exact .inr ⟨_,rfl,rfl⟩

-- A savepoint's number can be read off its name, so savepoints of one session differ.

theorem lowerAscii_digit {c : Char} (digit : c.isDigit = true) : Text.lowerAscii c = c := by
  rw [Text.lowerAscii,if_neg]
  rintro ⟨letter,_⟩
  simp only [Char.isDigit,Bool.and_eq_true,decide_eq_true_eq] at digit
  exact absurd (Nat.le_trans (show 65 ≤ c.val.toNat from letter) (show c.val.toNat ≤ 57 from digit.2))
    (by decide)

theorem number_of_sameSavepoint {n m d e : Nat}
    (same : sameSavepoint (Session.savepointName n d) (Session.savepointName m e) = true) : n = m := by
  have lowered : ∀ n d, ((Session.savepointName n d).toList.map Text.lowerAscii).tail.takeWhile
      Char.isDigit = Text.numeral n := by
    intro n d
    have digits : ∀ c ∈ Text.numeral n, c.isDigit = true := fun _ => Text.isDigit_of_mem_numeral
    have kept : (Text.numeral n).map Text.lowerAscii = Text.numeral n :=
      (List.map_congr_left fun c present => lowerAscii_digit (digits c present)).trans
        (List.map_id' _)
    have marker : Char.isDigit (Text.lowerAscii 'D') = false := by decide
    rw [Session.savepointName_toList,List.map_cons,List.tail_cons,List.map_append,kept,
      List.takeWhile_append_of_pos digits,List.map_cons,
      List.takeWhile_cons_of_neg (by rw [marker]; decide),List.append_nil]
  have equal : Text.numeral n = Text.numeral m := by
    rw [← lowered n d,← lowered m e,eq_of_beq same]
  have read := congrArg Text.readNumeral equal
  rw [Text.readNumeral_numeral,Text.readNumeral_numeral] at read
  exact Option.some.inj read

end TypedRows
