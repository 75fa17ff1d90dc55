import TypedRows.Proofs.Expr.OpenMarks
import TypedRows.Proofs.Query.Refusal

namespace TypedRows

-- Every statement that is sent carries one value for each of its placeholders, and what is
-- refused is refused before anything is sent.

variable {σ ρ α β : Type} {m : Mapping} {e : Entity ρ} {r : Request ρ}

namespace Marks

variable {s t separator : String} {n : Nat}

theorem literal (quiet : s.toList.all (fun c => c ≠ '?' ∧ c ≠ '"') = true) : Marks 0 s := by
  rw [List.all_eq_true] at quiet
  refine plain (fun present => ?_) fun present => ?_
  · simpa using quiet _ present
  · simpa using quiet _ present

theorem after (silent : Marks 0 s) (marks : Marks n t) : Marks n (s ++ t) := by
  simpa using silent.append marks

theorem before (marks : Marks n s) (silent : Marks 0 t) : Marks n (s ++ t) := by
  simpa using marks.append silent

theorem comma : Marks 0 ", " := literal (by decide)

theorem intercalate {text : α → String} (apart : Marks 0 separator) (each : ∀ a, Marks n (text a))
    (xs : List α) : Marks (xs.length * n) (separator.intercalate (xs.map text)) := by
  induction xs with
  | nil => simpa using literal (s := "") (by decide)
  | cons a rest ih =>
    cases rest with
    | nil => simpa using each a
    | cons b rest =>
      rw [List.map_cons,List.map_cons,String.intercalate_cons_cons,← List.map_cons,
        List.length_cons,Nat.succ_mul,Nat.add_comm]
      exact ((each a).before apart).append ih

theorem uint64Text (k : UInt64) : Marks 0 (uint64Text k) := spelling.shownNat k.toNat

theorem orderText (keys : List SortKey) : Marks 0 (orderText keys) := by
  have key (k : SortKey) : Marks 0 k.text := by
    refine (quotedName k.column).before ?_
    split <;> exact literal (by decide)
  cases keys with
  | nil => exact literal (by decide)
  | cons k rest =>
    refine Marks.after (literal (by decide)) ?_
    simpa using comma.intercalate key (k :: rest)

theorem pageText (limit offset : Option UInt64) : Marks 0 (pageText limit offset) := by
  cases limit with
  | none => cases offset with
    | none => exact literal (by decide)
    | some k => exact (literal (by decide)).after (uint64Text k)
  | some n => cases offset with
    | none => exact (literal (by decide)).after (uint64Text n)
    | some k =>
      exact (((literal (by decide)).after (uint64Text n)).before
        (literal (by decide))).after (uint64Text k)

theorem names (names : List String) :
    Marks 0 (", ".intercalate (names.map TypedRows.quotedName)) := by
  simpa using comma.intercalate quotedName names

theorem selectList (m : Mapping) : Marks 0 m.selectList := by
  have columns := names (m.columns.map Column.name)
  rwa [List.map_map] at columns

theorem insertText (table : String) (columns : List String) :
    Marks columns.length (Entity.insertText table columns) := by
  have start : Marks 0 ("insert into " ++ TypedRows.quotedName table) :=
    (literal (by decide)).after (quotedName table)
  unfold Entity.insertText
  split
  · rename_i none
    rw [List.isEmpty_iff.mp none]
    exact start.before (literal (by decide))
  · have values := comma.intercalate (fun _ : String => placeholder) columns
    rw [Nat.mul_one] at values
    exact ((((start.before (literal (by decide))).before (names columns)).before
      (literal (by decide))).after values).before (literal (by decide))

end Marks

def Statement.FullyBound (st : Statement) : Prop := Marks st.args.length st.text

theorem Mapping.condition_bound {predicate : Expr} {st : Statement} (quiet : predicate.NamesQuiet)
    (compiled : m.condition predicate = .ok st) : st.FullyBound := by
  obtain ⟨o,compiles,rfl⟩ := Mapping.condition_ok.mp compiled
  exact compiles.marks quiet

theorem call_part_and {p p' : Expr} {method : Method} {receiver : Option Expr} {args : List Expr}
    (present : .call method receiver args ∈ (Expr.binary .and p p').parts) :
    .call method receiver args ∈ p.parts ∨ .call method receiver args ∈ p'.parts := by
  simpa only [Expr.parts,List.mem_cons,reduceCtorEq,List.mem_append,false_or] using present

theorem namesQuiet_and (p p' : Expr) (first : p.NamesQuiet) (second : p'.NamesQuiet) :
    (Expr.binary .and p p').NamesQuiet := fun name receiver args present =>
  (call_part_and present).elim (first name receiver args) (second name receiver args)

namespace Query

variable {q : Query ρ} {selection : String} {st : Statement}

theorem render_bound (quiet : ∀ p, q.predicate = some p → p.NamesQuiet)
    (silent : Marks 0 selection) (rendered : q.render selection = .ok st) : st.FullyBound := by
  obtain ⟨condition,clause,same⟩ := bind_ok.mp rendered
  cases same
  have start : Marks 0 ("select " ++ selection ++ " from " ++ quotedName q.table) :=
    ((Marks.after (.literal (by decide)) silent).before
      (.literal (by decide))).before (.quotedName _)
  have bound : condition.FullyBound := by
    cases found : q.predicate with
    | none =>
      rw [found] at clause
      cases clause
      exact .literal (by decide)
    | some predicate =>
      rw [found] at clause
      obtain ⟨inner,compiled,same⟩ := bind_ok.mp clause
      cases same
      exact Marks.after (.literal (by decide))
        (Mapping.condition_bound (quiet predicate found) compiled)
  exact ((start.after bound).before (.orderText _)).before (.pageText _ _)

theorem statement_bound (quiet : ∀ p, q.predicate = some p → p.NamesQuiet)
    (rendered : q.statement = .ok st) : st.FullyBound :=
  render_bound quiet (.selectList q.entity.mapping) rendered

theorem narrowedBy_holds {Q : Expr → Prop} (both : ∀ p p', Q p → Q p' → Q (.binary .and p p'))
    {extra : Option Expr} (first : ∀ p, q.predicate = some p → Q p) (second : ∀ p ∈ extra, Q p) :
    ∀ p, (q.narrowedBy extra).predicate = some p → Q p := by
  cases extra with
  | none => exact first
  | some predicate => exact narrowed_holds both first (second predicate rfl)

theorem deletePlan_bound {extra : Option Expr}
    (quiet : ∀ p, (q.narrowedBy extra).predicate = some p → p.NamesQuiet)
    (planned : q.deletePlan extra = .ok (some st)) : st.FullyBound := by
  obtain ⟨predicate,accepted,rest⟩ := bind_ok.mp planned
  obtain ⟨condition,compiled,same⟩ := return_ok.mp rest
  cases same
  have bound := Mapping.condition_bound (quiet predicate (deletion_ok.mp accepted).2) compiled
  have start : Marks 0 ("delete from " ++ quotedName q.table ++ " where ") :=
    (Marks.after (.literal (by decide)) (.quotedName _)).before (.literal (by decide))
  exact start.after bound

end Query

namespace Entity

theorem keyTest_call_free {column : Column} {key : Value} {method : Method} {receiver : Option Expr}
    {args : List Expr} : .call method receiver args ∉ (keyTest column key).parts := by
  simp [keyTest,Expr.field,Expr.value,Expr.parts]

theorem keyTest_namesQuiet (column : Column) (key : Value) : (keyTest column key).NamesQuiet :=
  fun _ _ _ present => (keyTest_call_free present).elim

theorem findPlan_bound {key : Value} {st : Statement}
    (planned : (do return some (← (← e.keyQuery key).single.statement) : Plan) = .ok (some st)) :
    st.FullyBound := by
  obtain ⟨q,built,rest⟩ := bind_ok.mp planned
  obtain ⟨_,rendered,same⟩ := return_ok.mp rest
  cases same
  obtain ⟨column,_,rfl⟩ := keyQuery_ok built
  have quiet := Query.narrowed_holds (q := Query.all e) namesQuiet_and
    (fun _ absurd => by cases absurd) (keyTest_namesQuiet column key)
  exact Query.statement_bound (q := ((Query.all e).narrowed (keyTest column key)).single) quiet
    rendered

theorem insertPlan_bound {record : ρ} {st : Statement}
    (planned : e.insertPlan record = .ok (some st)) : st.FullyBound := by
  obtain ⟨values,_,same⟩ := return_ok.mp planned
  cases same
  have marks := Marks.insertText e.table ((e.written values).map fun entry => entry.1.name)
  rw [List.length_map] at marks
  unfold Statement.FullyBound
  rwa [List.length_map]

theorem updatePlan_bound {record : ρ} {st : Statement}
    (planned : e.updatePlan record = .ok (some st)) : st.FullyBound := by
  obtain ⟨column,_,rest⟩ := bind_ok.mp planned
  obtain ⟨values,_,rest⟩ := bind_ok.mp rest
  dsimp only at rest
  split at rest
  · cases rest
  · cases rest
    have assigned : Marks 1 " = ?" :=
      Marks.after (s := " = ") (.literal (by decide)) .placeholder
    have assignments := Marks.comma.intercalate
      (fun entry : Column × Value => (Marks.quotedName entry.1.name).after assigned)
      (e.plainEntries values)
    have start : Marks 0 ("update " ++ quotedName e.table ++ " set ") :=
      (Marks.after (.literal (by decide)) (.quotedName _)).before (.literal (by decide))
    have all := (((start.after assignments).before (t := " where ")
      (.literal (by decide))).before (.quotedName column.name)).append assigned
    rw [Nat.mul_one] at all
    unfold Statement.FullyBound
    rwa [List.length_append,List.length_map]

theorem deleteRecordPlan_bound {record : ρ} {st : Statement}
    (planned : e.deleteRecordPlan record = .ok (some st)) : st.FullyBound := by
  obtain ⟨column,_,rest⟩ := bind_ok.mp planned
  obtain ⟨values,_,rest⟩ := bind_ok.mp rest
  refine Query.deletePlan_bound
    (Query.narrowedBy_holds namesQuiet_and (fun _ absurd => by cases absurd) ?_) rest
  intro p same
  cases same
  exact keyTest_namesQuiet column _

end Entity

def QueryCall.filters (chain : List QueryCall) : List Expr :=
  chain.filterMap fun call => match call with
    | .filter predicate => some predicate
    | _ => none

theorem QueryCall.mem_filters {chain : List QueryCall} {p : Expr} (present : .filter p ∈ chain) :
    p ∈ QueryCall.filters chain := List.mem_filterMap.mpr ⟨_,present,rfl⟩

namespace Request

def filters : Request ρ → List Expr
  | .toList chain | .first chain | .firstOrDefault chain | .elementAt chain _ | .count chain =>
      QueryCall.filters chain
  | .countWhere chain predicate => QueryCall.filters chain ++ [predicate]
  | .delete chain extra => QueryCall.filters chain ++ extra.toList
  | _ => []

variable {st : Statement}

theorem filters_hold {Q : Expr → Prop} (both : ∀ p p', Q p → Q p' → Q (.binary .and p p'))
    {chain : List QueryCall} {q : Query ρ} (built : e.query chain = .ok q)
    (each : ∀ p ∈ QueryCall.filters chain, Q p) : ∀ p, q.predicate = some p → Q p :=
  Entity.query_predicate both built fun p present => each p (QueryCall.mem_filters present)

theorem plan_bound (quiet : ∀ p ∈ r.filters, p.NamesQuiet) (planned : r.plan e = .ok (some st)) :
    st.FullyBound := by
  -- Requests that read differ only in what they make of the query of their chain.
  have selection {chain : List QueryCall} {text : Query ρ → Except Error Statement}
      (each : ∀ q, (∀ p, q.predicate = some p → p.NamesQuiet) → ∀ st, text q = .ok st →
        st.FullyBound)
      (quiet : ∀ p ∈ QueryCall.filters chain, p.NamesQuiet)
      (planned : (do return some (← text (← e.query chain)) : Plan) = .ok (some st)) :
      st.FullyBound := by
    obtain ⟨q,built,rest⟩ := bind_ok.mp planned
    obtain ⟨_,rendered,same⟩ := return_ok.mp rest
    cases same
    exact each q (filters_hold namesQuiet_and built quiet) st rendered
  cases r with
  | toList chain => exact selection (fun q quiet st => Query.statement_bound quiet) quiet planned
  | first | firstOrDefault =>
    exact selection (fun q quiet st => Query.statement_bound (q := q.single) quiet) quiet planned
  | elementAt chain index =>
    refine selection (fun q quiet st => ?_) quiet planned
    exact Query.statement_bound (q := ((q.skip index).take 1).single) quiet
  | count chain =>
    refine selection (fun q quiet st => ?_) quiet planned
    exact Query.render_bound quiet (.literal (by decide))
  | countWhere chain predicate =>
    obtain ⟨q,built,rest⟩ := bind_ok.mp planned
    obtain ⟨_,filtered,rest⟩ := bind_ok.mp rest
    obtain ⟨_,rendered,same⟩ := return_ok.mp rest
    cases same
    rw [(Query.filter_ok.mp filtered).2] at rendered
    have first := filters_hold namesQuiet_and built fun p present =>
      quiet p (List.mem_append_left _ present)
    have second := quiet predicate (List.mem_append_right _ List.mem_cons_self)
    exact Query.render_bound (Query.narrowed_holds namesQuiet_and first second)
      (.literal (by decide)) rendered
  | delete chain extra =>
    obtain ⟨q,built,rest⟩ := bind_ok.mp planned
    have first := filters_hold namesQuiet_and built fun p present =>
      quiet p (List.mem_append_left _ present)
    have second : ∀ p ∈ extra, p.NamesQuiet := fun p present =>
      quiet p (List.mem_append_right _ (Option.mem_toList.mpr present))
    exact Query.deletePlan_bound (Query.narrowedBy_holds namesQuiet_and first second) rest
  | find | get => exact Entity.findPlan_bound planned
  | insert record => exact Entity.insertPlan_bound planned
  | update record => exact Entity.updatePlan_bound planned
  | deleteRecord record => exact Entity.deleteRecordPlan_bound planned
  | deleteAll =>
    cases planned
    exact Marks.after (.literal (by decide)) (.quotedName _)

-- A request sends one statement at most, the one that it plans, whatever engine it runs on. Each
-- placeholder of the statement has its value. A refused request fails and has sent nothing, and
-- apart from it only an update with nothing to write sends nothing.
theorem run_fullyBound (engine : Engine σ) (e : Entity ρ) (r : Request ρ) (s : σ) :
    ∃ calls, (r.run engine.noting e).runFrom (s,[]) =
        (((r.run engine e).runFrom s).1,((r.run engine e).runFrom s).2,calls) ∧
      (statements calls).length ≤ 1 ∧
      ((∀ p ∈ r.filters, p.NamesQuiet) →
        ∀ st ∈ statements calls, openMarks st.text = st.args.length) ∧
      (r.Refused e → ∃ cause, ((r.run engine e).runFrom s).1 = .error cause) ∧
      (statements calls = [] ↔ r.Refused e ∨ r.Idle e) := by
  obtain ⟨calls,ran,kept⟩ := r.run_follows engine e s []
  refine ⟨calls,ran,?_⟩
  rw [← plan_fails]
  cases planned : r.plan e with
  | error cause =>
    rw [planned] at kept
    obtain ⟨failed,none⟩ := kept
    rw [none]
    exact ⟨Nat.zero_le 1,fun _ _ absurd => (by cases absurd),fun _ => ⟨cause,failed⟩,
      fun _ => .inl ⟨cause,rfl⟩,fun _ => rfl⟩
  | ok sent =>
    rw [planned] at kept
    change statements calls = sent.toList at kept
    rw [kept]
    refine ⟨?_,?_,fun failed => (fails_ok failed).elim,?_⟩
    · cases sent <;> simp
    · intro quiet st present
      rw [Option.mem_toList] at present
      cases present
      exact (plan_bound quiet planned).count
    · rw [Option.toList_eq_nil_iff,plan_none planned]
      exact ⟨.inr,fun either => either.resolve_left fails_ok⟩

def riddlePage : List QueryCall := [.filter riddle,.orderByDescending (.field "age"),.take 3]

def riddlePageText : String :=
  "select \"a?\"\"b\" from \"Riddle?\" where ((\"a?\"\"b\" in (?,?)) and " ++
    "(nullif(\"a?\"\"b\",?) is ?)) order by \"a?\"\"b\" desc limit 3"

def wordless : Engine (List Call) := .scripted ⟨0,.empty,0,none⟩

theorem run_fullyBound_riddlePage :
    (((Request.toList riddlePage).run wordless.noting riddles.valuesEntity).runFrom ([],[])).2.2 =
        [.select riddlePageText [.int 5,.null,.null,.int 7]] ∧
      openMarks riddlePageText = 4 ∧
      (Request.delete riddlePage (some riddle)).Refused riddles.valuesEntity ∧
      statements (((Request.delete riddlePage (some riddle)).run wordless.noting
        riddles.valuesEntity).runFrom ([],[])).2.2 = [] := by
  obtain ⟨calls,ran,_,bound,_⟩ :=
    run_fullyBound wordless riddles.valuesEntity (.toList riddlePage) []
  have read : (((Request.toList riddlePage).run wordless.noting
      riddles.valuesEntity).runFrom ([],[])).2.2 =
        [.select riddlePageText [.int 5,.null,.null,.int 7]] := by rfl
  have same : calls = [.select riddlePageText [.int 5,.null,.null,.int 7]] := by
    rw [← read,ran]
  have quiet : ∀ p ∈ (Request.toList (ρ := List Value) riddlePage).filters, p.NamesQuiet := by
    intro p present
    cases List.mem_singleton.mp present
    exact riddle_namesQuiet
  have counted := bound quiet ⟨riddlePageText,[.int 5,.null,.null,.int 7]⟩
    (by rw [same]; exact List.mem_singleton_self _)
  obtain ⟨calls,ran,_,_,_,silent⟩ :=
    run_fullyBound wordless riddles.valuesEntity (.delete riddlePage (some riddle)) []
  have refused : (Request.delete riddlePage (some riddle)).Refused riddles.valuesEntity := by
    intro q built
    cases built
    exact .inl rfl
  refine ⟨read,counted,refused,?_⟩
  rw [ran]
  exact silent.mpr (.inl refused)

end Request

end TypedRows
