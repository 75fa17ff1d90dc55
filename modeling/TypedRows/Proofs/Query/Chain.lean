import TypedRows.Query.Basic
import TypedRows.Proofs.Expr.Agreement

namespace TypedRows

-- The queries that can be reached: each is built by a chain of calls from the query for
-- everything, and the first call that fails ends the chain.

variable {ρ : Type}

inductive QueryCall where
  | filter (predicate : Expr)
  | skip (n : UInt64)
  | take (n : UInt64)
  | orderBy (key : Expr)
  | orderByDescending (key : Expr)
  | thenBy (key : Expr)
  | thenByDescending (key : Expr)
  | readEagerly
  | deferred

def QueryCall.apply (q : Query ρ) : QueryCall → Except Error (Query ρ)
  | .filter predicate => q.filter predicate
  | .skip n => .ok (q.skip n)
  | .take n => .ok (q.take n)
  | .orderBy key => q.orderBy key
  | .orderByDescending key => q.orderByDescending key
  | .thenBy key => q.thenBy key
  | .thenByDescending key => q.thenByDescending key
  | .readEagerly => .ok q.readEagerly
  | .deferred => .ok q.deferred

def Query.extended (q : Query ρ) : List QueryCall → Except Error (Query ρ)
  | [] => .ok q
  | call :: rest =>
      match call.apply q with
      | .ok q => q.extended rest
      | .error cause => .error cause

def Entity.query (e : Entity ρ) (chain : List QueryCall) : Except Error (Query ρ) :=
  (Query.all e).extended chain

theorem Query.extended_kept {I : Query ρ → Prop} {chain : List QueryCall}
    (kept : ∀ call ∈ chain, ∀ q q', I q → call.apply q = .ok q' → I q') {q q' : Query ρ}
    (start : I q) (built : q.extended chain = .ok q') : I q' := by
  induction chain generalizing q with
  | nil =>
    cases built
    exact start
  | cons call rest ih =>
    unfold Query.extended at built
    split at built
    · rename_i next applied
      exact ih (fun call present => kept call (List.mem_cons_of_mem _ present))
        (kept call List.mem_cons_self _ _ start applied) built
    · cases built

theorem Query.filter_ok {predicate : Expr} {q q' : Query ρ} :
    q.filter predicate = .ok q' ↔ ¬ q.isPaged = true ∧ q' = q.narrowed predicate := by
  unfold Query.filter
  split
  · rename_i paged
    exact ⟨fun absurd => (by cases absurd),fun absurd => (absurd.1 paged).elim⟩
  · rename_i whole
    exact ⟨fun same => (by cases same; exact ⟨whole,rfl⟩),fun same => by rw [same.2]⟩

theorem Query.sorted_ok {key : Expr} {ascending : Bool} {q q' : Query ρ}
    (sorted : q.sorted key ascending = .ok q') :
    ∃ column, q.entity.mapping.orderingColumn key = .ok column ∧
      q' = {q with orderings := q.orderings ++ [⟨column,ascending⟩]} := by
  unfold Query.sorted at sorted
  cases found : q.entity.mapping.orderingColumn key with
  | error cause => simp [found,bind,Except.bind] at sorted
  | ok column =>
    rw [found] at sorted
    cases sorted
    exact ⟨column,rfl,rfl⟩

theorem Query.narrowed_entity (predicate : Expr) (q : Query ρ) :
    (q.narrowed predicate).entity = q.entity := by
  unfold Query.narrowed
  split <;> rfl

theorem Query.narrowed_rest (predicate : Expr) (q : Query ρ) :
    (q.narrowed predicate).isPaged = q.isPaged ∧
      (q.narrowed predicate).orderings = q.orderings := by
  unfold Query.narrowed
  split <;> exact ⟨rfl,rfl⟩

theorem Query.narrowed_predicate (predicate : Expr) (q : Query ρ) :
    (q.narrowed predicate).predicate =
      some (q.predicate.elim predicate fun existing => .binary .and existing predicate) := by
  unfold Query.narrowed
  cases q.predicate <;> rfl

theorem QueryCall.apply_ok {call : QueryCall} {q q' : Query ρ} (applied : call.apply q = .ok q') :
    q'.predicate = q.predicate ∨ ∃ predicate, call = .filter predicate ∧ q' = q.narrowed predicate := by
  have sorted {key : Expr} {ascending : Bool} (done : q.sorted key ascending = .ok q') :
      q'.predicate = q.predicate := by
    obtain ⟨column,_,rfl⟩ := Query.sorted_ok done
    rfl
  cases call with
  | filter predicate => exact .inr ⟨predicate,rfl,(Query.filter_ok.mp applied).2⟩
  | skip n => cases applied; exact .inl rfl
  | take n => cases applied; exact .inl rfl
  | orderBy key => exact .inl (sorted applied)
  | orderByDescending key => exact .inl (sorted applied)
  | thenBy key => exact .inl (sorted applied)
  | thenByDescending key => exact .inl (sorted applied)
  | readEagerly => cases applied; exact .inl rfl
  | deferred => cases applied; exact .inl rfl

section

variable {Q : Expr → Prop} (both : ∀ p p', Q p → Q p' → Q (.binary .and p p'))
include both

theorem Query.narrowed_holds {predicate : Expr} {q : Query ρ}
    (first : ∀ p, q.predicate = some p → Q p) (second : Q predicate) :
    ∀ p, (q.narrowed predicate).predicate = some p → Q p := by
  intro p narrowed
  rw [Query.narrowed_predicate,Option.some.injEq] at narrowed
  subst p
  cases found : q.predicate with
  | none => exact second
  | some existing => exact both _ _ (first existing found) second

theorem Entity.query_predicate {e : Entity ρ} {chain : List QueryCall} {q : Query ρ}
    (built : e.query chain = .ok q) (each : ∀ p, .filter p ∈ chain → Q p) :
    ∀ p, q.predicate = some p → Q p := by
  refine Query.extended_kept (I := fun q => ∀ p, q.predicate = some p → Q p) ?_ ?_ built
  · intro call present q q' holds applied
    obtain same | ⟨predicate,rfl,rfl⟩ := QueryCall.apply_ok applied
    · rwa [same]
    · exact Query.narrowed_holds both holds (each predicate present)
  · exact fun p absurd => by cases absurd

end

end TypedRows
