import Mathlib.Algebra.GroupWithZero.Nat
import TypedRows.Database.Handle
import TypedRows.Proofs.Text.Numerals
import TypedRows.Proofs.Transaction.Refusals

namespace TypedRows

-- Which texts a session takes for the name of a savepoint, and what it sends for them.

-- Two bytes or more without a `D`, a `D`, and to the end of the text a numeral that 64 bits
-- hold, with or without a plus. Nothing else is asked of a name.
def Session.Tells (name : String) (depth : Nat) : Prop :=
  ∃ before sign digits, name.toList = before ++ 'D' :: (sign ++ digits) ∧ 'D' ∉ before ∧
    2 ≤ (before.map Char.utf8Size).sum ∧ (sign = [] ∨ sign = ['+']) ∧ Text.Spells depth digits ∧
    depth < UInt64.size

theorem Session.afterMark_eq_some {bytes : Nat} {cs rest : List Char} :
    Session.afterMark bytes cs = some rest ↔ ∃ before, cs = before ++ 'D' :: rest ∧
      'D' ∉ before ∧ 2 ≤ bytes + (before.map Char.utf8Size).sum := by
  induction cs generalizing bytes with
  | nil => simp [Session.afterMark]
  | cons c cs ih =>
    rw [Session.afterMark]
    by_cases mark : c = 'D'
    · subst mark
      rw [if_pos rfl]
      constructor
      · intro found
        split at found
        · cases found
        · rename_i enough
          cases found
          exact ⟨[],rfl,List.not_mem_nil,Nat.not_lt.mp enough⟩
      · rintro ⟨before,same,absent,enough⟩
        cases before with
        | nil =>
          cases same
          exact if_neg (Nat.not_lt.mpr enough)
        | cons d before =>
          cases same
          exact absurd List.mem_cons_self absent
    · rw [if_neg mark,ih]
      constructor
      · rintro ⟨before,rfl,absent,enough⟩
        refine ⟨c :: before,rfl,?_,?_⟩
        · exact fun present => (List.mem_cons.mp present).elim (fun same => mark same.symm) absent
        · rwa [List.map_cons,List.sum_cons,← Nat.add_assoc]
      · rintro ⟨before,same,absent,enough⟩
        cases before with
        | nil =>
          cases same
          exact absurd rfl mark
        | cons d before =>
          cases same
          refine ⟨before,rfl,fun present => absent (List.mem_cons_of_mem _ present),?_⟩
          rwa [List.map_cons,List.sum_cons,← Nat.add_assoc] at enough

theorem Session.depthOf_eq_some {name : String} {depth : Nat} :
    Session.depthOf name = some depth ↔ Session.Tells name depth := by
  unfold Session.depthOf Session.Tells
  simp only [Option.bind_eq_bind,Option.bind_eq_some_iff,Session.afterMark_eq_some,
    Text.readUnsigned_eq_some]
  constructor
  · rintro ⟨rest,⟨before,same,absent,enough⟩,n,⟨sign,digits,rfl,plus,spelled⟩,small⟩
    split at small
    · rename_i below
      cases small
      exact ⟨before,sign,digits,same,absent,by omega,plus,spelled,below⟩
    · cases small
  · rintro ⟨before,sign,digits,same,absent,enough,plus,spelled,below⟩
    exact ⟨_,⟨before,same,absent,by omega⟩,depth,⟨sign,digits,rfl,plus,spelled⟩,if_pos below⟩

def TransactionCall.naming (name : String) : List (TransactionCall × TransactionCommand) :=
  [(.release name,.release name),(.rollbackTo name,.rollbackTo name)]

section

variable {β : Type} {t : Transactor β} {l : Locked β} {name : String} {call : TransactionCall}
  {command : TransactionCommand} {d : Nat}

theorem naming_cases (named : (call,command) ∈ TransactionCall.naming name) :
    call = .release name ∧ command = .release name ∨
      call = .rollbackTo name ∧ command = .rollbackTo name := by
  simpa [TransactionCall.naming] using named

theorem closes_of_naming (named : (call,command) ∈ TransactionCall.naming name) :
    call.closes = true := by
  obtain ⟨rfl,_⟩ | ⟨rfl,_⟩ := naming_cases named <;> rfl

theorem aim_of_naming (named : (call,command) ∈ TransactionCall.naming name) (other : TransactionCommand) :
    call.aim = some (other,d) ↔ other = command ∧ Session.Tells name d := by
  have aims : call.aim = (Session.depthOf name).map fun depth => (command,depth) := by
    obtain ⟨rfl,rfl⟩ | ⟨rfl,rfl⟩ := naming_cases named <;> rfl
  rw [aims,Option.map_eq_some_iff]
  constructor
  · rintro ⟨depth,told,same⟩
    cases same
    exact ⟨rfl,Session.depthOf_eq_some.mp told⟩
  · rintro ⟨rfl,told⟩
    exact ⟨d,Session.depthOf_eq_some.mpr told,rfl⟩

theorem refused_of_untold (named : (call,command) ∈ TransactionCall.naming name)
    (untold : ∀ d, Session.depthOf name = some d → l.depth ≤ d) :
    (call.perform t).runFrom l = (.error (.transaction (.invalidSavepoint name)),l) := by
  obtain ⟨rfl,rfl⟩ | ⟨rfl,rfl⟩ := naming_cases named
  · exact savepointCommand_below _ untold
  · exact savepointCommand_below _ untold

-- A text is turned down exactly when it tells no depth below the present one. Any other text is
-- sent as it stands, whichever savepoints are open and whatever else is in it, and the depth is
-- the one that it tells, whatever the database answers.
theorem turned_down_iff_untold (t : Transactor β) (l : Locked β)
    (named : (call,command) ∈ TransactionCall.naming name) :
    ((call.perform t).runFrom l = (.error (.transaction (.invalidSavepoint name)),l) ∧
        call.sends t l = [] ↔ ¬ ∃ d < l.depth, Session.Tells name d) ∧
    ∀ d < l.depth, Session.Tells name d → call.sends t l = [command] ∧
      ((call.perform t).runFrom l).2.depth = d ∧
      ((call.perform t).runFrom l).1 = (t.sent command l.handle).1.mapError .engine := by
  have accepted : ∀ d < l.depth, Session.Tells name d → call.sends t l = [command] ∧
      ((call.perform t).runFrom l).2.depth = d ∧
      ((call.perform t).runFrom l).1 = (t.sent command l.handle).1.mapError .engine := by
    intro d above told
    have aimed := (aim_of_naming named command).mpr ⟨rfl,told⟩
    rw [perform_above aimed above]
    exact ⟨sends_above aimed above,rfl,rfl⟩
  refine ⟨⟨?_,fun untold => ?_⟩,accepted⟩
  · rintro ⟨_,silent⟩ ⟨d,above,told⟩
    rw [(accepted d above told).1] at silent
    cases silent
  · have below : ∀ d, Session.Tells name d → l.depth ≤ d := fun d told =>
      Nat.not_lt.mp fun above => untold ⟨d,above,told⟩
    refine ⟨refused_of_untold named fun d found => below d (Session.depthOf_eq_some.mp found),?_⟩
    exact sends_below (closes_of_naming named) fun other d aimed =>
      below d ((aim_of_naming named other).mp aimed).2

end

def insideSavepoint : Locked (Journal Unit) :=
  (Journal.transactor.save.runFrom ⟨.standalone,⟨(),[]⟩⟩).2

theorem turned_down_iff_untold_inside : insideSavepoint.depth = 1 ∧
    (Journal.transactor.release "S1D1").runFrom insideSavepoint =
      (.error (.transaction (.invalidSavepoint "S1D1")),insideSavepoint) ∧
    (TransactionCall.release "S1D1").sends Journal.transactor insideSavepoint = [] ∧
    (TransactionCall.release "éD+00").sends Journal.transactor insideSavepoint =
      [.release "éD+00"] ∧
    ((Journal.transactor.release "éD+00").runFrom insideSavepoint).2.depth = 0 := by
  refine ⟨rfl,?_⟩
  have untold : ¬ ∃ d < 1, Session.Tells "S1D1" d := by
    rintro ⟨d,above,told⟩
    have same := (Session.depthOf_eq_some.mpr told).symm.trans
      (show Session.depthOf "S1D1" = some 1 by decide)
    cases same
    exact absurd above (by decide)
  have told : Session.Tells "éD+00" 0 := Session.depthOf_eq_some.mp (by decide)
  have releases (name : String) :
      (.release name,.release name) ∈ TransactionCall.naming name := List.mem_cons_self
  obtain ⟨refused,silent⟩ := (turned_down_iff_untold Journal.transactor insideSavepoint
    (releases "S1D1")).1.mpr untold
  obtain ⟨sent,depth,_⟩ := (turned_down_iff_untold Journal.transactor insideSavepoint
    (releases "éD+00")).2 0 Nat.one_pos told
  exact ⟨refused,silent,sent,depth⟩

def Sql.Table.shelf : Sql.Table where
  name := "Person"
  columns := [⟨"Id",.integer,false,false⟩]
  rowKey := some 0
  counts := false
  highest := 1
  rows := [⟨1,[.integer 1]⟩]

def Database.furnished : Database where
  disk := { Disk.empty with volumes := [{ Volume.empty with contents := [Sql.Table.shelf] }], handles := 1 }
  handle := { Handle.new 0 0 false with knowsTables := true }

-- A text that is no name of a savepoint ends the transaction, and more besides.
theorem foreign_name_ends_transaction :
    ¬ ∀ (start l : Locked Database) (history : List (TransactionCall × Except Error Unit)),
      start.depth = 0 → start.handle.handle.journal.levels = [] →
      Calls Database.transactor (fun db => db.handle.journal) start history l →
      ∀ (name : String) (call : TransactionCall) (command : TransactionCommand),
      (call,command) ∈ TransactionCall.naming name →
      (¬ ∃ level ∈ l.handle.handle.journal.levels, level.name = some name) →
      (∃ problem, ((call.perform Database.transactor).runFrom l).1 = .error (.transaction problem)) ∧
        call.sends Database.transactor l = [] ∧
        ((call.perform Database.transactor).runFrom l).2.depth = l.depth := by
  intro turned
  have saved : Calls Database.transactor (fun db => db.handle.journal)
      ⟨.standalone,Database.furnished⟩ _ _ := .call .save .nothing trivial
  obtain ⟨_,_,depth⟩ := turned _ _ _ rfl rfl saved "s0d0; delete from \"Person\" --D0" _ _
    List.mem_cons_self (by decide +kernel)
  exact absurd depth (by decide +kernel)

end TypedRows
