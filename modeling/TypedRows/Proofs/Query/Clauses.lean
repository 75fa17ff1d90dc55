import Mathlib.Data.List.Induction
import TypedRows.Proofs.Expr.Evaluation
import TypedRows.Proofs.Query.Binding

namespace TypedRows

-- What the statement of a query says, clause by clause, in terms of the calls that built it.

variable {ρ : Type} {m : Mapping} {e : Entity ρ} {q : Query ρ}

-- The calls of a chain, kind by kind, in the order of the calls.

namespace QueryCall

def filter? : QueryCall → Option Expr
  | .filter predicate => some predicate
  | _ => none

def take? : QueryCall → Option UInt64
  | .take n => some n
  | _ => none

def skip? : QueryCall → Option UInt64
  | .skip n => some n
  | _ => none

def sort? : QueryCall → Option (Expr × Bool)
  | .orderBy key | .thenBy key => some (key,true)
  | .orderByDescending key | .thenByDescending key => some (key,false)
  | _ => none

def mode? : QueryCall → Option Bool
  | .readEagerly => some true
  | .deferred => some false
  | _ => none

theorem filters_eq (chain : List QueryCall) : filters chain = chain.filterMap filter? := rfl

def takes (chain : List QueryCall) : List UInt64 := chain.filterMap take?

def skips (chain : List QueryCall) : List UInt64 := chain.filterMap skip?

def sorts (chain : List QueryCall) : List (Expr × Bool) := chain.filterMap sort?

def modes (chain : List QueryCall) : List Bool := chain.filterMap mode?

def pages (call : QueryCall) : Prop := call.take? ≠ none ∨ call.skip? ≠ none

def FiltersFirst (chain : List QueryCall) : Prop :=
  chain.Pairwise fun earlier later => earlier.pages → later.filter? = none

end QueryCall

def conjunction : List Expr → Option Expr
  | [] => none
  | first :: rest => some (rest.foldl (.binary .and) first)

def Mapping.Sorts (m : Mapping) (sort : Expr × Bool) (key : SortKey) : Prop :=
  m.orderingColumn sort.1 = .ok key.column ∧ sort.2 = key.ascending

open QueryCall in
structure Query.SaidBy (chain : List QueryCall) (q : Query ρ) : Prop where
  allowed : FiltersFirst chain
  predicate : q.predicate = conjunction (filters chain)
  orderings : List.Forall₂ q.entity.mapping.Sorts (sorts chain) q.orderings
  limit : q.limit = (takes chain).getLast?
  offset : q.offset = (skips chain).getLast?
  eager : q.eager = (modes chain).getLast?.getD false

theorem Query.extended_append (chain later : List QueryCall) (q : Query ρ) :
    q.extended (chain ++ later) = (do (← q.extended chain).extended later) := by
  induction chain generalizing q with
  | nil => rfl
  | cons call rest ih =>
    rw [List.cons_append,Query.extended,Query.extended]
    cases call.apply q with
    | error cause => rfl
    | ok next => exact ih next

theorem Query.extended_single (call : QueryCall) (q : Query ρ) : q.extended [call] = call.apply q := by
  unfold Query.extended
  cases call.apply q <;> rfl

theorem conjunction_toList (p : Option Expr) : conjunction p.toList = p := by
  cases p <;> rfl

theorem conjunction_append (first : List Expr) (next : Option Expr) :
    conjunction ((conjunction first).toList ++ next.toList) = conjunction (first ++ next.toList) := by
  cases first with
  | nil => rfl
  | cons p rest => simp [conjunction]

theorem Query.sorted_ok_iff {key : Expr} {ascending : Bool} {q q' : Query ρ} :
    q.sorted key ascending = .ok q' ↔ ∃ k, q.entity.mapping.Sorts (key,ascending) k ∧
      q' = {q with orderings := q.orderings ++ [k]} := by
  constructor
  · intro sorted
    obtain ⟨column,found,rfl⟩ := Query.sorted_ok sorted
    exact ⟨⟨column,ascending⟩,⟨found,rfl⟩,rfl⟩
  · rintro ⟨⟨column,_⟩,⟨found,rfl⟩,rfl⟩
    rw [Query.sorted,found]
    rfl

def QueryCall.onto (call : QueryCall) (keys : List SortKey) (q : Query ρ) : Query ρ where
  entity := q.entity
  predicate := conjunction (q.predicate.toList ++ call.filter?.toList)
  orderings := q.orderings ++ keys
  limit := call.take?.or q.limit
  offset := call.skip?.or q.offset
  eager := call.mode?.getD q.eager

theorem QueryCall.apply_ok_iff {call : QueryCall} {q q' : Query ρ} : call.apply q = .ok q' ↔
    (q.isPaged = true → call.filter? = none) ∧ ∃ keys,
      List.Forall₂ q.entity.mapping.Sorts call.sort?.toList keys ∧ q' = call.onto keys q := by
  have sorted {key : Expr} {ascending : Bool} (sorts : call.sort? = some (key,ascending))
      (same : ∀ k, {q with orderings := q.orderings ++ [k]} = call.onto [k] q) :
      q.sorted key ascending = .ok q' ↔ ∃ keys,
        List.Forall₂ q.entity.mapping.Sorts call.sort?.toList keys ∧ q' = call.onto keys q := by
    simp [sorts,same,Query.sorted_ok_iff,List.forall₂_cons_left_iff]
  cases call with
  | filter predicate =>
    have same : q.narrowed predicate = (filter predicate).onto [] q := by
      unfold Query.narrowed
      cases found : q.predicate <;> simp [onto,found,filter?,take?,skip?,mode?,conjunction]
    refine Query.filter_ok.trans ?_
    simp [filter?,sort?,same]
  | skip n | take n | readEagerly | deferred =>
    simp only [apply,filter?,sort?,onto,take?,skip?,mode?,conjunction_toList,Option.toList_none,
      List.forall₂_nil_left_iff,exists_eq_left,List.append_nil,Except.ok.injEq]
    exact ⟨fun same => ⟨fun _ => trivial,same.symm⟩,fun same => same.2.symm⟩
  | orderBy key | orderByDescending key | thenBy key | thenByDescending key =>
    refine (sorted rfl fun k => ?_).trans (by simp [filter?])
    simp [onto,filter?,take?,skip?,mode?,conjunction_toList]

theorem filterMap_later {α β : Type} (f : α → Option β) (xs : List α) (x : α) :
    (xs ++ [x]).filterMap f = xs.filterMap f ++ (f x).toList := by
  rw [List.filterMap_append]
  cases found : f x <;> simp [found]

theorem getLast?_later {α : Type} (xs : List α) (last : Option α) :
    (xs ++ last.toList).getLast? = last.or xs.getLast? := by
  cases last <;> simp

theorem forall₂_append_left {α β : Type} {R : α → β → Prop} {xs ys : List α} {zs : List β} :
    List.Forall₂ R (xs ++ ys) zs ↔
      ∃ us vs, List.Forall₂ R xs us ∧ List.Forall₂ R ys vs ∧ zs = us ++ vs := by
  induction xs generalizing zs with
  | nil => simp
  | cons x rest ih =>
    simp only [List.cons_append,List.forall₂_cons_left_iff,ih]
    constructor
    · rintro ⟨z,_,first,⟨us,vs,before,after,rfl⟩,rfl⟩
      exact ⟨z :: us,vs,⟨z,us,first,before,rfl⟩,after,rfl⟩
    · rintro ⟨_,vs,⟨z,us,first,before,rfl⟩,after,rfl⟩
      exact ⟨z,us ++ vs,first,⟨us,vs,before,after,rfl⟩,rfl⟩

section

open QueryCall

variable {chain : List QueryCall} {call : QueryCall}

theorem filtersFirst_later : FiltersFirst (chain ++ [call]) ↔
    FiltersFirst chain ∧ ((∃ earlier ∈ chain, earlier.pages) → call.filter? = none) := by
  simp only [FiltersFirst,List.pairwise_append,List.pairwise_singleton,List.mem_singleton,
    forall_eq,true_and,forall_exists_index,and_imp]

namespace Query.SaidBy

theorem isPaged (said : q.SaidBy chain) : q.isPaged = true ↔ ∃ call ∈ chain, call.pages := by
  rw [Query.isPaged,said.limit,said.offset,Bool.or_eq_true,List.getLast?_isSome,List.getLast?_isSome]
  simp only [takes,skips,ne_eq,List.filterMap_eq_nil_iff,not_forall,pages,exists_prop,← exists_or,
    ← and_or_left]

theorem onto {keys : List SortKey} (said : q.SaidBy chain)
    (allowed : q.isPaged = true → call.filter? = none)
    (sorted : List.Forall₂ q.entity.mapping.Sorts call.sort?.toList keys) :
    (call.onto keys q).SaidBy (chain ++ [call]) where
  allowed := filtersFirst_later.mpr ⟨said.allowed,fun paged => allowed (said.isPaged.mpr paged)⟩
  predicate := by
    rw [filters_eq,filterMap_later,← conjunction_append,← filters_eq,← said.predicate]
    rfl
  orderings := by
    rw [sorts,filterMap_later]
    exact List.rel_append said.orderings sorted
  limit := by rw [takes,filterMap_later,getLast?_later,← takes,← said.limit]; rfl
  offset := by rw [skips,filterMap_later,getLast?_later,← skips,← said.offset]; rfl
  eager := by
    rw [modes,filterMap_later,getLast?_later,← modes]
    cases found : call.mode? <;> simp [QueryCall.onto,found,said.eager]

theorem unique {q' : Query ρ} (said : q.SaidBy chain) (said' : q'.SaidBy chain)
    (entity : q.entity = q'.entity) (orderings : q.orderings = q'.orderings) : q = q' := by
  have predicate := said.predicate.trans said'.predicate.symm
  have limit := said.limit.trans said'.limit.symm
  have offset := said.offset.trans said'.offset.symm
  have eager := said.eager.trans said'.eager.symm
  cases q
  cases q'
  simp_all

end Query.SaidBy

-- The queries that a chain reaches are those that say its calls.
theorem Entity.query_ok_iff : e.query chain = .ok q ↔ q.entity = e ∧ q.SaidBy chain := by
  induction chain using List.reverseRec generalizing q with
  | nil =>
    have start : (Query.all e).SaidBy [] := ⟨.nil,rfl,.nil,rfl,rfl,rfl⟩
    constructor
    · intro built
      cases built
      exact ⟨rfl,start⟩
    · rintro ⟨rfl,said⟩
      have unsorted : [] = q.orderings := (List.forall₂_nil_left_iff.mp said.orderings).symm
      exact congrArg Except.ok (start.unique said rfl unsorted)
  | append_singleton chain call ih =>
    rw [Entity.query,Query.extended_append,bind_ok]
    change (∃ q', e.query chain = .ok q' ∧ q'.extended [call] = .ok q) ↔ _
    simp only [ih,Query.extended_single,QueryCall.apply_ok_iff]
    constructor
    · rintro ⟨q',⟨rfl,said⟩,allowed,keys,sorted,rfl⟩
      exact ⟨rfl,said.onto allowed sorted⟩
    · rintro ⟨rfl,said⟩
      obtain ⟨first,later⟩ := filtersFirst_later.mp said.allowed
      have orderings := said.orderings
      rw [sorts,filterMap_later] at orderings
      obtain ⟨before,keys,sortedBefore,sorted,both⟩ := forall₂_append_left.mp orderings
      let q' : Query ρ := {
        entity := q.entity
        predicate := conjunction (filters chain)
        orderings := before
        limit := (takes chain).getLast?
        offset := (skips chain).getLast?
        eager := (modes chain).getLast?.getD false }
      have saidBefore : q'.SaidBy chain := ⟨first,rfl,sortedBefore,rfl,rfl,rfl⟩
      have allowed : q'.isPaged = true → call.filter? = none :=
        fun paged => later (saidBefore.isPaged.mp paged)
      exact ⟨q',⟨rfl,saidBefore⟩,allowed,keys,sorted,
        said.unique (saidBefore.onto allowed sorted) rfl both⟩

end

def joinedText (before next : String) : String := "(" ++ before ++ " and " ++ next ++ ")"

def Operand.both (a b : Operand) : Operand := ⟨.plain (joinedText a.text b.text),a.args ++ b.args⟩

theorem compiles_and {p p' : Expr} {o : Operand} : Compiles m (.binary .and p p') o ↔
    ¬ p.IsNull ∧ ¬ p'.IsNull ∧ ∃ a b, Compiles m p a ∧ Compiles m p' b ∧ o = a.both b := by
  rw [compiles_binary]
  constructor
  · rintro ⟨a,b,text,first,second,joined,rfl⟩
    unfold Operator.join at joined
    split at joined
    · cases joined
    · rename_i valued
      split at joined
      · cases joined
      · rename_i valued'
        refine ⟨first.null_iff.not.mp valued,second.null_iff.not.mp valued',a,b,first,second,?_⟩
        cases joined
        simp [Operand.both,joinedText,Operand.text,String.append_assoc]
  · rintro ⟨valued,valued',a,b,first,second,rfl⟩
    refine ⟨a,b,_,first,second,?_,rfl⟩
    rw [Operator.join,if_neg (first.null_iff.not.mpr valued),if_neg (second.null_iff.not.mpr valued')]
    simp [Operator.sql,joinedText,Operand.text,String.append_assoc]

theorem compiles_conjunction {first : Expr} {rest : List Expr} {o : Operand} :
    Compiles m (rest.foldl (.binary .and) first) o ↔
      (rest = [] ∨ ∀ p ∈ first :: rest, ¬ p.IsNull) ∧ ∃ a os, Compiles m first a ∧
        List.Forall₂ (Compiles m) rest os ∧ o = os.foldl Operand.both a := by
  induction rest generalizing first with
  | nil => simp
  | cons p rest ih =>
    have whole : ¬ (Expr.binary .and first p).IsNull := by simp [Expr.IsNull,Expr.evaluate]
    have nulls : (rest = [] ∨ ∀ p' ∈ .binary .and first p :: rest, ¬ p'.IsNull) ↔
        ∀ p' ∈ rest, ¬ p'.IsNull := by
      simp only [List.forall_mem_cons,whole,not_false_eq_true,true_and,or_iff_right_iff_imp]
      rintro rfl
      simp
    rw [List.foldl_cons,ih,nulls]
    simp only [compiles_and,List.forall_mem_cons,List.forall₂_cons_left_iff,reduceCtorEq,false_or]
    constructor
    · rintro ⟨valued,_,os,⟨valuedFirst,valuedSecond,a,b,first,second,rfl⟩,each,rfl⟩
      exact ⟨⟨valuedFirst,valuedSecond,valued⟩,a,b :: os,first,⟨b,os,second,each,rfl⟩,rfl⟩
    · rintro ⟨⟨valuedFirst,valuedSecond,valued⟩,a,_,first,⟨b,os,second,each,rfl⟩,rfl⟩
      exact ⟨valued,_,os,⟨valuedFirst,valuedSecond,a,b,first,second,rfl⟩,each,rfl⟩

def whereText : List String → String
  | [] => ""
  | first :: rest => " where " ++ rest.foldl joinedText first

theorem foldl_both (a : Operand) (os : List Operand) :
    (os.foldl Operand.both a).text = (os.map Operand.text).foldl joinedText a.text ∧
      (os.foldl Operand.both a).args = a.args ++ os.flatMap Operand.args := by
  induction os generalizing a with
  | nil => simp
  | cons o rest ih =>
    obtain ⟨text,args⟩ := ih (a.both o)
    exact ⟨text,by rw [List.foldl_cons,args]; simp [Operand.both]⟩

theorem Mapping.whereClause_conjunction {filters : List Expr} {st : Statement} :
    m.whereClause (conjunction filters) = .ok st ↔
      (filters.length ≤ 1 ∨ ∀ p ∈ filters, ¬ p.IsNull) ∧ ∃ os,
        List.Forall₂ (Compiles m) filters os ∧
        st = ⟨whereText (os.map Operand.text),os.flatMap Operand.args⟩ := by
  cases filters with
  | nil => simp [conjunction,Mapping.whereClause,whereText,eq_comm]
  | cons first rest =>
    have few : (first :: rest).length ≤ 1 ↔ rest = [] := by simp
    rw [conjunction,Mapping.whereClause,return_ok,few]
    simp only [Mapping.condition_ok,compiles_conjunction,List.forall₂_cons_left_iff]
    constructor
    · rintro ⟨_,⟨o,⟨valued,a,os,compiled,each,rfl⟩,rfl⟩,rfl⟩
      obtain ⟨text,args⟩ := foldl_both a os
      exact ⟨valued,_,⟨a,os,compiled,each,rfl⟩,by simp [whereText,text,args]⟩
    · rintro ⟨valued,_,⟨a,os,compiled,each,rfl⟩,rfl⟩
      obtain ⟨text,args⟩ := foldl_both a os
      exact ⟨_,⟨_,⟨valued,a,os,compiled,each,rfl⟩,rfl⟩,by simp [whereText,text,args]⟩

def sortText (sort : Expr × Bool) (column : String) : String :=
  quotedName column ++ if sort.2 then "" else " desc"

def sortsText : List String → String
  | [] => ""
  | columns => " order by " ++ ", ".intercalate columns

def pagesText (limit offset : Option UInt64) : String :=
  (match limit with
    | some n => " limit " ++ uint64Text n
    | none => if offset.isSome then " limit -1" else "") ++
  (match offset with
    | some n => " offset " ++ uint64Text n
    | none => "")

theorem pageText_eq (limit offset : Option UInt64) :
    pageText limit offset = pagesText limit offset := by
  cases limit with
  | some limit =>
    cases offset with
    | none => exact String.append_empty.symm
    | some offset => exact String.append_assoc
  | none =>
    cases offset with
    | none => rfl
    | some offset =>
      have start : " limit -1 offset " = " limit -1" ++ " offset " := by decide
      exact (congrArg (· ++ uint64Text offset) start).trans String.append_assoc

theorem orderText_eq {sorts : List (Expr × Bool)} {keys : List SortKey}
    (sorted : List.Forall₂ m.Sorts sorts keys) :
    orderText keys = sortsText (List.zipWith sortText sorts (keys.map SortKey.column)) := by
  have each : keys.map SortKey.text = List.zipWith sortText sorts (keys.map SortKey.column) := by
    induction sorted with
    | nil => rfl
    | cons first _ ih =>
      simp only [List.map_cons,List.zipWith_cons_cons,ih,SortKey.text,sortText,first.2]
  rw [← each]
  cases keys <;> rfl

open QueryCall in
theorem Query.SaidBy.statement_ok {chain : List QueryCall} {st : Statement} (said : q.SaidBy chain) :
    q.statement = .ok st ↔
      ((filters chain).length ≤ 1 ∨ ∀ p ∈ filters chain, ¬ p.IsNull) ∧ ∃ os,
        List.Forall₂ (Compiles q.entity.mapping) (filters chain) os ∧
        st = ⟨"select " ++ q.entity.mapping.selectList ++ " from " ++ quotedName q.table ++
            whereText (os.map Operand.text) ++
            sortsText (List.zipWith sortText (sorts chain) (q.orderings.map SortKey.column)) ++
            pagesText (takes chain).getLast? (skips chain).getLast?,
          os.flatMap Operand.args⟩ := by
  rw [Query.statement,Query.render,return_ok,said.predicate,orderText_eq said.orderings,
    pageText_eq,said.limit,said.offset]
  simp only [Mapping.whereClause_conjunction]
  constructor
  · rintro ⟨_,⟨valued,os,each,rfl⟩,rfl⟩
    exact ⟨valued,os,each,rfl⟩
  · rintro ⟨valued,os,each,rfl⟩
    exact ⟨_,⟨valued,os,each,rfl⟩,rfl⟩

open QueryCall in
-- What a chain of calls is compiled to. Every filter is compiled as if it were alone, the
-- columns stand in the order of the calls, and of the pages the last one counts. So calls of
-- different kinds may change places, as long as no filter comes behind a page.
theorem statement_of_chain {chain : List QueryCall} (built : e.query chain = .ok q) :
    ((∃ st, q.statement = .ok st) ↔ (∀ p ∈ filters chain, ∃ o, Compiles e.mapping p o) ∧
      ((filters chain).length ≤ 1 ∨ ∀ p ∈ filters chain, ¬ p.IsNull)) ∧
    (∀ st, q.statement = .ok st → ∃ (os : List Operand) (columns : List String),
      List.Forall₂ (Compiles e.mapping) (filters chain) os ∧
      List.Forall₂ (fun sort column => e.mapping.orderingColumn sort.1 = .ok column) (sorts chain)
        columns ∧
      st.text = "select " ++ e.mapping.selectList ++ " from " ++ quotedName e.table ++
        whereText (os.map Operand.text) ++ sortsText (List.zipWith sortText (sorts chain) columns) ++
        pagesText (takes chain).getLast? (skips chain).getLast? ∧
      st.args = os.flatMap Operand.args) ∧
    ∀ chain', FiltersFirst chain' → filters chain' = filters chain → sorts chain' = sorts chain →
      takes chain' = takes chain → skips chain' = skips chain →
      ∃ q', e.query chain' = .ok q' ∧ q'.statement = q.statement := by
  obtain ⟨rfl,said⟩ := Entity.query_ok_iff.mp built
  refine ⟨?_,?_,?_⟩
  · simp only [said.statement_ok,← exists_forall₂]
    constructor
    · rintro ⟨_,valued,os,each,_⟩
      exact ⟨⟨os,each⟩,valued⟩
    · rintro ⟨⟨os,each⟩,valued⟩
      exact ⟨_,valued,os,each,rfl⟩
  · intro st stated
    obtain ⟨_,os,each,rfl⟩ := said.statement_ok.mp stated
    refine ⟨os,q.orderings.map SortKey.column,each,?_,rfl,rfl⟩
    exact List.forall₂_map_right_iff.mpr (said.orderings.imp fun _ _ sorts => sorts.1)
  · intro chain' allowed sameFilters sameSorts sameTakes sameSkips
    -- How a query is read is the only part that does not come into its statement.
    let q' : Query ρ := {q with eager := (modes chain').getLast?.getD false}
    have said' : q'.SaidBy chain' := {
      allowed := allowed
      predicate := by rw [sameFilters]; exact said.predicate
      orderings := by rw [sameSorts]; exact said.orderings
      limit := by rw [sameTakes]; exact said.limit
      offset := by rw [sameSkips]; exact said.offset
      eager := rfl }
    exact ⟨q',Entity.query_ok_iff.mpr ⟨rfl,said'⟩,rfl⟩

def adult : Expr := .binary .ge (.field "age") (.value (.int 18))

def unnamed : Expr := .binary .eq (.field "name") (.value .null)

def mixedChain : List QueryCall :=
  [.thenByDescending (.field "name"),.filter adult,.readEagerly,.filter unnamed,.take 1,
    .orderBy (.convert .real (.field "age")),.skip 5,.deferred,.take 3]

def sortedChain : List QueryCall :=
  [.filter adult,.filter unnamed,.orderByDescending (.field "name"),
    .thenBy (.convert .real (.field "age")),.skip 5,.take 1,.take 3]

def unnamedAdults : Statement where
  text := "select \"Id\", \"Name\", \"Age\" from \"Person\"" ++
    " where ((\"Age\" >= ?) and (\"Name\" is ?)) order by \"Name\" desc, \"Age\" limit 3 offset 5"
  args := [.int 18,.null]

theorem statement_of_chain_mixed :
    ∃ q q', person.valuesEntity.query mixedChain = .ok q ∧ q.statement = .ok unnamedAdults ∧
      person.valuesEntity.query sortedChain = .ok q' ∧ q'.statement = .ok unnamedAdults := by
  obtain ⟨q,built,stated⟩ : ∃ q, person.valuesEntity.query mixedChain = .ok q ∧
      q.statement = .ok unnamedAdults := ⟨_,rfl,rfl⟩
  have allowed : QueryCall.FiltersFirst sortedChain := by
    simp [QueryCall.FiltersFirst,sortedChain,QueryCall.pages,QueryCall.filter?,QueryCall.take?,
      QueryCall.skip?]
  obtain ⟨q',built',same⟩ := (statement_of_chain built).2.2 sortedChain allowed rfl rfl rfl rfl
  exact ⟨q,q',built,stated,built',same.trans stated⟩

end TypedRows
