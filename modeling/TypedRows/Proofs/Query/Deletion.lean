import TypedRows.Proofs.Expr.Causes
import TypedRows.Proofs.Query.Clauses

namespace TypedRows

-- A delete takes the rows that the query selects, by the same condition and with the same
-- arguments, and never all rows of a table.

variable {σ ρ : Type} {m : Mapping}

theorem Captured.placeholder_ne_empty (value : Captured) : value.placeholder ≠ "" := by
  cases value <;> simp [placeholder,placeholders]

theorem Compiles.text_ne_empty {e : Expr} {o : Operand} (compiled : Compiles m e o) :
    o.text ≠ "" := by
  obtain ⟨r,_,agrees⟩ := e.rendered o compiled
  cases bare : r.bare with
  | true =>
    obtain ⟨v,_,bindable,tokens⟩ := agrees.bare bare
    rw [← agrees.text,tokens,bindable.flattened_tokens]
    exact v.placeholder_ne_empty
  | false => exact fun empty => absurd (empty ▸ agrees.long bare) (by decide)

theorem Mapping.condition_explained (m : Mapping) (predicate : Expr) :
    Explained (m.condition predicate) := by
  unfold Mapping.condition
  split
  · exact .ok _
  · rename_i cause _ ran
    exact .error (predicate.compile_explained.cause ran)

namespace Query

variable {engine : Engine σ} {q narrow : Query ρ} {extra : Option Expr} {p : Expr}

def Undeletable (q : Query ρ) (extra : Option Expr) : Prop :=
  q.isPaged = true ∨ (q.predicate = none ∧ extra = none)

def selectText (q : Query ρ) (condition : String) : String :=
  "select " ++ q.entity.mapping.selectList ++ " from " ++ quotedName q.table ++ " where " ++
    condition ++ orderText q.orderings

def deleteText (q : Query ρ) (condition : String) : String :=
  "delete from " ++ quotedName q.table ++ " where " ++ condition

theorem deletion_fails :
    (∃ cause, q.deletion extra = .error (.unsupported cause)) ↔ q.Undeletable extra := by
  rw [deletion_eq,Undeletable,← narrowedBy_predicate_none]
  by_cases paged : q.isPaged = true
  · simp [paged]
  · cases (q.narrowedBy extra).predicate <;> simp [paged]

theorem statement_where (whole : ¬ q.isPaged = true) (conditioned : q.predicate = some p) :
    q.statement = do
      let condition ← q.entity.mapping.condition p
      return ⟨q.selectText condition.text,condition.args⟩ := by
  obtain ⟨limit,offset⟩ : q.limit = none ∧ q.offset = none := by simpa [isPaged] using whole
  have unpaged : pageText q.limit q.offset = "" := by
    rw [limit,offset]
    rfl
  unfold statement render
  rw [conditioned,unpaged,Mapping.whereClause]
  cases q.entity.mapping.condition p with
  | error cause => rfl
  | ok condition =>
    have text : "select " ++ q.entity.mapping.selectList ++ " from " ++ quotedName q.table ++
        (" where " ++ condition.text) ++ orderText q.orderings ++ "" =
          q.selectText condition.text := by
      rw [String.append_empty,← String.append_assoc,selectText]
    exact congrArg (fun text => Except.ok (Statement.mk text condition.args)) text

-- The condition can be read off the text of a select, whatever it says.
theorem selectText_injective (q : Query ρ) : Function.Injective q.selectText := by
  intro condition other same
  simpa [selectText,← String.toList_inj] using same

theorem narrowed_of_deletable (deletable : ¬ q.Undeletable extra) :
    ∃ narrow p, (extra.elim (.ok q) fun p => q.filter p) = .ok narrow ∧
      ¬ narrow.isPaged = true ∧ narrow.predicate = some p ∧ q.deletion extra = .ok p ∧
      narrow.entity = q.entity ∧ narrow.orderings = q.orderings := by
  obtain ⟨whole,some⟩ := not_or.mp deletable
  rw [← narrowedBy_predicate_none,← ne_eq,Option.ne_none_iff_exists'] at some
  obtain ⟨p,found⟩ := some
  have accepted := deletion_ok.mpr ⟨whole,found⟩
  cases extra with
  | none => exact ⟨q,p,rfl,whole,found,accepted,rfl,rfl⟩
  | some predicate =>
    obtain ⟨paged,orderings⟩ := narrowed_rest predicate q
    exact ⟨q.narrowed predicate,p,filter_ok.mpr ⟨whole,rfl⟩,by rwa [paged],found,accepted,
      narrowed_entity predicate q,orderings⟩

section Runs

variable {s : σ} {cause : Error} {condition : Statement}

theorem delete_refused (failed : q.deletion extra = .error cause) :
    (q.delete engine extra).runFrom s = (.error cause,s) := by
  rw [delete,failed]
  rfl

theorem delete_uncompiled (accepted : q.deletion extra = .ok p)
    (failed : q.entity.mapping.condition p = .error cause) :
    (q.delete engine extra).runFrom s = (.error cause,s) := by
  rw [delete,accepted,Step.runFrom_bind_ok (Step.runFrom_ofExcept _ _),failed]
  rfl

theorem delete_sends (accepted : q.deletion extra = .ok p)
    (compiled : q.entity.mapping.condition p = .ok condition) :
    (q.delete engine extra).runFrom s =
      (engine.execute (q.deleteText condition.text) condition.args).runFrom s := by
  rw [delete,accepted,Step.runFrom_bind_ok (Step.runFrom_ofExcept _ _),compiled,
    Step.runFrom_bind_ok (Step.runFrom_ofExcept _ _)]
  rfl

end Runs

-- A delete is refused for paging and for the lack of any condition, with nothing sent. Otherwise
-- it fails as the select of the narrowed query fails, or it sends one statement with the same
-- condition and the same arguments. No delete is sent without a condition.
theorem delete_takes_selected (engine : Engine σ) (q : Query ρ) (extra : Option Expr) (s : σ) :
    ∃ calls, (q.delete engine.noting extra).runFrom (s,[]) =
        (((q.delete engine extra).runFrom s).1,((q.delete engine extra).runFrom s).2,calls) ∧
      ((calls = [] ∧ ∃ cause, ((q.delete engine extra).runFrom s).1 = .error (.unsupported cause)) ↔
        q.Undeletable extra) ∧
      (¬ q.Undeletable extra →
        ∃ narrow, (extra.elim (.ok q) fun p => q.filter p) = .ok narrow ∧
          (∀ cause, narrow.statement = .error cause →
            calls = [] ∧ (q.delete engine extra).runFrom s = (.error cause,s)) ∧
          ∀ st, narrow.statement = .ok st → ∃ condition, st.text = q.selectText condition ∧
            calls = [.execute (q.deleteText condition) st.args] ∧
            (q.delete engine extra).runFrom s =
              (engine.execute (q.deleteText condition) st.args).runFrom s) ∧
      ∀ call ∈ calls, ∃ condition args, condition ≠ "" ∧
        call = .execute (q.deleteText condition) args := by
  by_cases undeletable : q.Undeletable extra
  · obtain ⟨cause,failed⟩ := deletion_fails.mpr undeletable
    rw [delete_refused failed,delete_refused failed]
    exact ⟨[],rfl,iff_of_true ⟨rfl,cause,rfl⟩ undeletable,fun deletable => absurd undeletable deletable,
      nofun⟩
  · obtain ⟨narrow,p,filtered,whole,conditioned,accepted,entity,orderings⟩ :=
      narrowed_of_deletable undeletable
    have stated := statement_where whole conditioned
    rw [entity] at stated
    -- Select and delete share their condition, so both stand or fall with its compilation.
    cases compiled : q.entity.mapping.condition p with
    | error cause =>
      rw [delete_uncompiled accepted compiled,delete_uncompiled accepted compiled]
      rw [compiled] at stated
      refine ⟨[],rfl,iff_of_false ?_ undeletable,fun _ => ⟨narrow,filtered,?_,?_⟩,nofun⟩
      · rintro ⟨_,other,same⟩
        cases same
        cases Mapping.condition_explained _ _ _ compiled
      · intro other failed
        cases stated.symm.trans failed
        exact ⟨rfl,rfl⟩
      · intro st told
        cases stated.symm.trans told
    | ok condition =>
      rw [delete_sends accepted compiled,delete_sends accepted compiled]
      rw [compiled] at stated
      obtain ⟨o,compiles,rfl⟩ := Mapping.condition_ok.mp compiled
      refine ⟨[.execute (q.deleteText o.text) o.args],rfl,iff_of_false ?_ undeletable,
        fun _ => ⟨narrow,filtered,?_,?_⟩,?_⟩
      · rintro ⟨silent,_⟩
        cases silent
      · intro cause failed
        cases stated.symm.trans failed
      · intro st told
        cases stated.symm.trans told
        refine ⟨o.text,?_,rfl,rfl⟩
        rw [selectText,selectText,entity,orderings,table,table,entity]
      · intro call present
        rw [List.mem_singleton.mp present]
        exact ⟨o.text,o.args,compiles.text_ne_empty,rfl⟩

def sortedAdults : List QueryCall := [.orderBy (.field "name"),.filter adult]

def unnamedAdultsGone : List Call :=
  [.execute "delete from \"Person\" where ((\"Age\" >= ?) and (\"Name\" is ?))" [.int 18,.null]]

def obliging : Engine (List Call) := .scripted ⟨2,.empty,0,none⟩

theorem delete_takes_selected_sortedAdults : ∃ q, person.valuesEntity.query sortedAdults = .ok q ∧
    (q.delete obliging.noting (some unnamed)).runFrom ([],[]) =
      (.ok 2,unnamedAdultsGone,unnamedAdultsGone) ∧
    ∃ cause, (((q.take 3).delete obliging (some unnamed)).runFrom []).1 =
      .error (.unsupported cause) := by
  obtain ⟨q,built,table,deletable,narrow,filtered,stated⟩ :
      ∃ q, person.valuesEntity.query sortedAdults = .ok q ∧ q.table = "Person" ∧
        ¬ q.Undeletable (some unnamed) ∧ ∃ narrow, q.filter unnamed = .ok narrow ∧
        narrow.statement =
          .ok ⟨q.selectText "((\"Age\" >= ?) and (\"Name\" is ?))",[.int 18,.null]⟩ :=
    ⟨_,rfl,rfl,(by rintro (absurd | ⟨absurd,_⟩) <;> cases absurd),_,rfl,rfl⟩
  obtain ⟨calls,ran,_,sends,_⟩ := delete_takes_selected obliging q (some unnamed) []
  obtain ⟨narrow',same,_,told⟩ := sends deletable
  cases filtered.symm.trans same
  obtain ⟨condition,text,rfl,outcome⟩ := told _ stated
  obtain rfl := q.selectText_injective text
  rw [outcome] at ran
  obtain ⟨calls,_,refused,_,_⟩ := delete_takes_selected obliging (q.take 3) (some unnamed) []
  refine ⟨q,built,ran.trans ?_,(refused.mpr (.inl rfl)).2⟩
  rw [deleteText,table]
  rfl

end Query

end TypedRows
