import TypedRows.Proofs.Expr.ColumnNames
import TypedRows.Proofs.Query.Clauses

namespace TypedRows

-- The names of tables and columns in statements, in the order of the text, and how each of them
-- is read back.

variable {σ ρ : Type} {m : Mapping} {e : Entity ρ} {q : Query ρ} {quiet : Prop}
  {xs : List String} {st : Statement}

theorem orderingColumn_names {key : Expr} {column : String}
    (found : m.orderingColumn key = .ok column) : key.columnNames m = [column] := by
  have field {name : String} (found : (m.fieldColumn name).map Column.name = .ok column) :
      (Expr.field name).columnNames m = [column] := by
    cases mapped : m.fieldColumn name with
    | error cause => rw [mapped] at found; cases found
    | ok c =>
      rw [mapped] at found
      cases found
      rw [Expr.field,Expr.columnNames,Mapping.fieldColumn_ok.mp mapped]
      rfl
  unfold Mapping.orderingColumn at found
  split at found
  · exact field found
  · exact field found
  · cases found

theorem sorts_names {sorts : List (Expr × Bool)} {keys : List SortKey}
    (sorted : List.Forall₂ m.Sorts sorts keys) :
    (sorts.map Prod.fst).flatMap (Expr.columnNames m) = keys.map SortKey.column := by
  induction sorted with
  | nil => rfl
  | cons first _ ih => rw [List.map_cons,List.flatMap_cons,orderingColumn_names first.1,ih]; rfl

theorem conjunction_names (filters : List Expr) :
    (conjunction filters).toList.flatMap (Expr.columnNames m) =
      filters.flatMap (Expr.columnNames m) := by
  cases filters with
  | nil => rfl
  | cons first rest =>
    rw [conjunction,Option.toList_some,List.flatMap_singleton,List.flatMap_cons]
    induction rest generalizing first with
    | nil => simp
    | cons next rest ih =>
      rw [List.foldl_cons,ih,List.flatMap_cons,Expr.columnNames,List.append_assoc]

theorem namesUnquoted_and (p p' : Expr) (first : p.NamesUnquoted) (second : p'.NamesUnquoted) :
    (Expr.binary .and p p').NamesUnquoted := fun name receiver args present =>
  (call_part_and present).elim (first name receiver args) (second name receiver args)

theorem Mapping.condition_shows {p : Expr} (unquoted : quiet → p.NamesUnquoted)
    (compiled : m.condition p = .ok st) : Shows quiet (p.columnNames m) st.text := by
  obtain ⟨o,compiles,rfl⟩ := Mapping.condition_ok.mp compiled
  exact compiles.shows unquoted

theorem Mapping.whereClause_shows {p : Option Expr}
    (unquoted : quiet → ∀ predicate, p = some predicate → predicate.NamesUnquoted)
    (written : m.whereClause p = .ok st) :
    Shows quiet (p.toList.flatMap (Expr.columnNames m)) st.text ∧ Detached st.text := by
  cases p with
  | none =>
    cases written
    exact ⟨.literal fun _ => by decide,by decide⟩
  | some predicate =>
    obtain ⟨condition,compiled,rfl⟩ := return_ok.mp written
    have shows := condition_shows (fun holds => unquoted holds predicate rfl) compiled
    rw [Option.toList_some,List.flatMap_singleton]
    exact ⟨shows.after fun _ => by decide,Divider.detached (by decide) _⟩

theorem orderText_shows (keys : List SortKey) :
    Shows quiet (keys.map SortKey.column) (orderText keys) ∧ Detached (orderText keys) := by
  have key (k : SortKey) : Shows quiet [k.column] k.text := by
    unfold SortKey.text
    split
    · simpa using Shows.name k.column
    · exact (Shows.name k.column).before (by decide)
  cases keys with
  | nil => exact ⟨.literal fun _ => by decide,by decide⟩
  | cons k rest =>
    have columns : Shows quiet ((k :: rest).flatMap fun k => [k.column])
        (", ".intercalate ((k :: rest).map SortKey.text)) :=
      .intercalate (by decide) fun k _ => key k
    rw [← List.map_eq_flatMap] at columns
    exact ⟨columns.after fun _ => by decide,Divider.detached (by decide) _⟩

theorem unquoted_pageText (limit offset : Option UInt64) :
    '"' ∉ (pageText limit offset).toList := by
  rw [pageText_eq]
  unfold pagesText
  cases limit <;> cases offset <;> simp [uint64Text,unquoted_shownNat]

theorem names_show (names : List String) :
    Shows quiet names (", ".intercalate (names.map quotedName)) := by
  have each : Shows quiet (names.flatMap fun name => [name])
      (", ".intercalate (names.map quotedName)) :=
    .intercalate (by decide) fun name _ => .name name
  simpa using each

def Mapping.columnNames (m : Mapping) : List String := m.columns.map Column.name

theorem Mapping.selectList_eq (m : Mapping) :
    m.selectList = ", ".intercalate (m.columnNames.map quotedName) := by
  rw [selectList,columnNames,List.map_map]
  rfl

namespace Query

def clauseNames (q : Query ρ) : List String :=
  q.predicate.toList.flatMap (Expr.columnNames q.entity.mapping) ++ q.orderings.map SortKey.column

theorem render_shows {selection : String} (selected : Shows quiet xs selection)
    (unquoted : quiet → ∀ p, q.predicate = some p → p.NamesUnquoted)
    (rendered : q.render selection = .ok st) :
    Shows quiet (xs ++ q.table :: q.clauseNames) st.text := by
  obtain ⟨condition,written,rfl⟩ := return_ok.mp rendered
  obtain ⟨conditioned,behindTable⟩ := Mapping.whereClause_shows unquoted written
  obtain ⟨sorted,behindCondition⟩ := orderText_shows q.orderings
  have paged := unquoted_pageText q.limit q.offset
  have behindSorts := detached_of_unquoted paged
  have behindCondition := behindCondition.append behindSorts
  have clauses := conditioned.append (sorted.append (.literal fun _ => paged) behindSorts)
    behindCondition
  have table := (Shows.name q.table).append clauses (behindTable.append behindCondition)
  have all := (selected.divided (d := " from ") (by decide) table).after (s := "select ")
    fun _ => by decide
  simpa [clauseNames,String.append_assoc] using all

theorem statement_shows (unquoted : quiet → ∀ p, q.predicate = some p → p.NamesUnquoted)
    (rendered : q.statement = .ok st) :
    Shows quiet (q.entity.mapping.columnNames ++ q.table :: q.clauseNames) st.text :=
  render_shows (q.entity.mapping.selectList_eq ▸ names_show _) unquoted rendered

theorem deletePlan_shows {extra : Option Expr}
    (unquoted : quiet → ∀ p, (q.narrowedBy extra).predicate = some p → p.NamesUnquoted)
    (planned : q.deletePlan extra = .ok (some st)) :
    Shows quiet (q.table :: (q.narrowedBy extra).predicate.toList.flatMap
      (Expr.columnNames q.entity.mapping)) st.text := by
  obtain ⟨p,accepted,rest⟩ := bind_ok.mp planned
  obtain ⟨condition,compiled,same⟩ := return_ok.mp rest
  cases same
  have conditioned := (deletion_ok.mp accepted).2
  have shows := Mapping.condition_shows (fun holds => unquoted holds p conditioned) compiled
  have all := ((Shows.name q.table).divided (d := " where ") (by decide) shows).after
    (s := "delete from ") fun _ => by decide
  simpa [conditioned,String.append_assoc] using all

theorem narrowedBy_names (extra : Option Expr) (q : Query ρ) :
    (q.narrowedBy extra).predicate.toList.flatMap (Expr.columnNames m) =
      q.predicate.toList.flatMap (Expr.columnNames m) ++
        extra.toList.flatMap (Expr.columnNames m) := by
  cases extra with
  | none => simp [narrowedBy]
  | some predicate =>
    rw [narrowedBy,narrowed_predicate]
    cases q.predicate <;> simp [Expr.columnNames]

theorem SaidBy.conditionNames {chain : List QueryCall} (said : q.SaidBy chain)
    (extra : Option Expr) : (q.narrowedBy extra).predicate.toList.flatMap (Expr.columnNames m) =
      (QueryCall.filters chain ++ extra.toList).flatMap (Expr.columnNames m) := by
  rw [narrowedBy_names,said.predicate,conjunction_names,List.flatMap_append]

theorem narrowedBy_orderings (extra : Option Expr) (q : Query ρ) :
    (q.narrowedBy extra).orderings = q.orderings := by
  cases extra with
  | none => rfl
  | some predicate => exact (narrowed_rest predicate q).2

theorem SaidBy.clauseNames {chain : List QueryCall} (said : q.SaidBy chain) (extra : Option Expr) :
    (q.narrowedBy extra).clauseNames =
      (QueryCall.filters chain ++ extra.toList ++ (QueryCall.sorts chain).map Prod.fst).flatMap
        (Expr.columnNames q.entity.mapping) := by
  rw [Query.clauseNames,said.conditionNames,narrowedBy_orderings,narrowedBy_entity,
    ← sorts_names said.orderings,← List.flatMap_append]

end Query

namespace Entity

-- The column that a look-up by key goes to is the first one with the property of the key.
def keyNames (e : Entity ρ) : List String :=
  e.mapping.primaryKey?.toList.flatMap fun c => (Expr.field c.property).columnNames e.mapping

theorem keyColumn_eq {action : KeyAction} {column : Column}
    (found : e.keyColumn action = .ok column) : e.mapping.primaryKey? = some column := by
  unfold keyColumn at found
  split at found
  · rename_i first there
    cases found
    exact there
  · cases found

theorem keyTest_names {action : KeyAction} {column : Column}
    (found : e.keyColumn action = .ok column) (key : Value) :
    (keyTest column key).columnNames e.mapping = e.keyNames := by
  rw [keyNames,keyColumn_eq found,Option.toList_some,List.flatMap_singleton]
  exact List.append_nil _

theorem keyTest_namesUnquoted (column : Column) (key : Value) :
    (keyTest column key).NamesUnquoted :=
  fun _ _ _ present => (keyTest_call_free present).elim

theorem findPlan_shows {key : Value}
    (planned : (do return some (← (← e.keyQuery key).single.statement) : Plan) = .ok (some st)) :
    Shows quiet (e.mapping.columnNames ++ e.table :: e.keyNames) st.text := by
  obtain ⟨q,built,rest⟩ := bind_ok.mp planned
  obtain ⟨_,rendered,same⟩ := return_ok.mp rest
  cases same
  obtain ⟨column,found,filtered⟩ := bind_ok.mp built
  obtain rfl := (Query.filter_ok.mp filtered).2
  have unquoted : ∀ p, some (keyTest column key) = some p → p.NamesUnquoted := by
    rintro _ ⟨⟩
    exact keyTest_namesUnquoted column key
  have shows := Query.statement_shows (q := ((Query.all e).narrowed (keyTest column key)).single)
    (fun _ : quiet => unquoted) rendered
  have clauses : ((Query.all e).narrowed (keyTest column key)).single.clauseNames = e.keyNames := by
    rw [← keyTest_names found key]
    exact (List.append_nil _).trans (List.append_nil _)
  rwa [clauses] at shows

theorem insertText_shows (table : String) (names : List String) :
    Shows quiet (table :: names) (insertText table names) := by
  have start : Shows quiet [table] (quotedName table) := .name table
  unfold insertText
  split
  · rename_i none
    rw [List.isEmpty_iff.mp none,String.append_assoc]
    exact (start.before (by decide)).after fun _ => by decide
  · have marks : Shows quiet [] (", ".intercalate (names.map fun _ => "?")) :=
      .intercalate_literal (by decide) fun _ _ => by decide
    have columns := start.divided (d := " (") (by decide)
      ((names_show names).divided (d := ") values (") (by decide)
        (marks.before (t := ")") (by decide)))
    simpa [String.append_assoc] using columns.after (s := "insert into ") fun _ => by decide

theorem insertPlan_shows {record : ρ} (planned : e.insertPlan record = .ok (some st)) :
    Shows quiet (e.table :: e.mapping.insertColumns.map fun entry => entry.2.name) st.text := by
  obtain ⟨values,_,same⟩ := return_ok.mp planned
  cases same
  have names : ((e.written values).map fun entry => entry.1.name) =
      e.mapping.insertColumns.map fun entry => entry.2.name := by
    rw [written,List.map_map]
    rfl
  exact names ▸ insertText_shows e.table _

theorem plainEntries_names {record : ρ} {values : List Value}
    (fits : e.values record = .ok values) :
    (e.plainEntries values).map (fun entry => entry.1.name) =
      (e.mapping.columns.filter fun c => !c.primaryKey).map Column.name := by
  obtain ⟨same,rfl⟩ := values_eq_ok.mp fits
  have columns : (e.mapping.columns.zip (e.encode record)).map Prod.fst = e.mapping.columns :=
    List.map_fst_zip (Nat.le_of_eq same.symm)
  conv_rhs => rw [← columns,List.filter_map,List.map_map]
  rfl

theorem updatePlan_shows {record : ρ} (planned : e.updatePlan record = .ok (some st)) :
    Shows quiet (e.table :: (e.mapping.columns.filter fun c => !c.primaryKey).map Column.name ++
      e.mapping.primaryKey?.toList.map Column.name) st.text := by
  obtain ⟨column,found,rest⟩ := bind_ok.mp planned
  obtain ⟨values,fits,rest⟩ := bind_ok.mp rest
  dsimp only at rest
  split at rest
  · cases rest
  · cases rest
    have assignments : Shows quiet ((e.plainEntries values).flatMap fun entry => [entry.1.name])
        (", ".intercalate
          ((e.plainEntries values).map fun entry => quotedName entry.1.name ++ " = ?")) :=
      .intercalate (by decide) fun entry _ => (Shows.name entry.1.name).before (by decide)
    rw [← List.map_eq_flatMap,plainEntries_names fits] at assignments
    have key : Shows quiet [column.name] (quotedName column.name ++ " = ?") :=
      (Shows.name column.name).before (by decide)
    have all := (Shows.name e.table).divided (d := " set ") (by decide)
      (assignments.divided (d := " where ") (by decide) key)
    rw [keyColumn_eq found]
    simpa [String.append_assoc] using all.after (s := "update ") fun _ => by decide

theorem deleteRecordPlan_shows {record : ρ} (planned : e.deleteRecordPlan record = .ok (some st)) :
    Shows quiet (e.table :: e.keyNames) st.text := by
  obtain ⟨column,found,rest⟩ := bind_ok.mp planned
  obtain ⟨values,_,rest⟩ := bind_ok.mp rest
  have shows := Query.deletePlan_shows (fun _ : quiet => ?_) rest
  · rw [Query.narrowedBy_names,Option.toList_some,List.flatMap_singleton] at shows
    rw [← keyTest_names found]
    exact shows
  · rintro _ ⟨⟩
    exact keyTest_namesUnquoted column _

end Entity

namespace Request

variable {r : Request ρ}

def sortKeys : Request ρ → List Expr
  | .toList chain | .first chain | .firstOrDefault chain | .elementAt chain _ | .count chain
  | .countWhere chain _ => (QueryCall.sorts chain).map Prod.fst
  | _ => []

def names (e : Entity ρ) (r : Request ρ) : List String :=
  let clauses := (r.filters ++ r.sortKeys).flatMap (Expr.columnNames e.mapping)
  match r with
  | .toList _ | .first _ | .firstOrDefault _ | .elementAt _ _ =>
      e.mapping.columnNames ++ e.table :: clauses
  | .count _ | .countWhere _ _ | .delete _ _ => e.table :: clauses
  | .find _ | .get _ => e.mapping.columnNames ++ e.table :: e.keyNames
  | .insert _ => e.table :: e.mapping.insertColumns.map fun entry => entry.2.name
  | .update _ => e.table :: (e.mapping.columns.filter fun c => !c.primaryKey).map Column.name ++
      e.mapping.primaryKey?.toList.map Column.name
  | .deleteRecord _ => e.table :: e.keyNames
  | .deleteAll => [e.table]

theorem narrowedBy_unquoted {chain : List QueryCall} {extra : Option Expr}
    (built : e.query chain = .ok q)
    (unquoted : quiet → ∀ p ∈ QueryCall.filters chain ++ extra.toList, p.NamesUnquoted)
    (holds : quiet) : ∀ p, (q.narrowedBy extra).predicate = some p → p.NamesUnquoted := by
  have first := filters_hold namesUnquoted_and built fun p present =>
    unquoted holds p (List.mem_append_left _ present)
  exact Query.narrowedBy_holds namesUnquoted_and first fun p present =>
    unquoted holds p (List.mem_append_right _ (Option.mem_toList.mpr present))

theorem chain_shows {chain : List QueryCall} {text : Query ρ → Except Error Statement}
    (selected : List String)
    (each : ∀ q, (quiet → ∀ p, q.predicate = some p → p.NamesUnquoted) → ∀ st, text q = .ok st →
      q.entity = e → Shows quiet (selected ++ q.table :: q.clauseNames) st.text)
    (unquoted : quiet → ∀ p ∈ QueryCall.filters chain, p.NamesUnquoted)
    (planned : (do return some (← text (← e.query chain)) : Plan) = .ok (some st)) :
    Shows quiet (selected ++ e.table ::
      (QueryCall.filters chain ++ (QueryCall.sorts chain).map Prod.fst).flatMap
        (Expr.columnNames e.mapping)) st.text := by
  obtain ⟨q,built,rest⟩ := bind_ok.mp planned
  obtain ⟨_,rendered,same⟩ := return_ok.mp rest
  cases same
  have conditioned (holds : quiet) := filters_hold namesUnquoted_and built (unquoted holds)
  obtain ⟨rfl,said⟩ := Entity.query_ok_iff.mp built
  have names := said.clauseNames none
  rw [Option.toList_none,List.append_nil] at names
  rw [← names]
  exact each q conditioned st rendered rfl

theorem plan_shows (unquoted : quiet → ∀ p ∈ r.filters, p.NamesUnquoted)
    (planned : r.plan e = .ok (some st)) : Shows quiet (r.names e) st.text := by
  cases r with
  | toList chain =>
    refine chain_shows _ (fun q unquoted st rendered same => ?_) unquoted planned
    exact same ▸ Query.statement_shows unquoted rendered
  | first | firstOrDefault =>
    refine chain_shows _ (fun q unquoted st rendered same => ?_) unquoted planned
    exact same ▸ Query.statement_shows (q := q.single) unquoted rendered
  | elementAt chain index =>
    refine chain_shows _ (fun q unquoted st rendered same => ?_) unquoted planned
    exact same ▸ Query.statement_shows (q := ((q.skip index).take 1).single) unquoted rendered
  | count chain =>
    refine chain_shows [] (fun q unquoted st rendered _ => ?_) unquoted planned
    exact Query.render_shows (.literal fun _ => by decide) unquoted rendered
  | countWhere chain predicate =>
    obtain ⟨q,built,rest⟩ := bind_ok.mp planned
    obtain ⟨_,filtered,rest⟩ := bind_ok.mp rest
    obtain ⟨_,rendered,same⟩ := return_ok.mp rest
    cases same
    obtain rfl := (Query.filter_ok.mp filtered).2
    have shows := Query.render_shows (q := q.narrowedBy (some predicate))
      (.literal fun _ => by decide) (narrowedBy_unquoted built unquoted) rendered
    obtain ⟨rfl,said⟩ := Entity.query_ok_iff.mp built
    rw [said.clauseNames,Query.table,Query.narrowedBy_entity] at shows
    exact shows
  | delete chain extra =>
    obtain ⟨q,built,rest⟩ := bind_ok.mp planned
    have shows := Query.deletePlan_shows (narrowedBy_unquoted built unquoted) rest
    obtain ⟨rfl,said⟩ := Entity.query_ok_iff.mp built
    rw [said.conditionNames,Query.table] at shows
    simpa [names,sortKeys,filters] using shows
  | find | get => exact Entity.findPlan_shows planned
  | insert record => exact Entity.insertPlan_shows planned
  | update record => exact Entity.updatePlan_shows planned
  | deleteRecord record => exact Entity.deleteRecordPlan_shows planned
  | deleteAll =>
    cases planned
    exact (Shows.name e.table).after fun _ => by decide

theorem sent_readsBack (engine : Engine σ) (e : Entity ρ) (r : Request ρ) (s : σ) :
    ∀ st ∈ statements ((r.run engine.noting e).runFrom (s,[])).2.2,
      ReadsBack (∀ p ∈ r.filters, p.NamesUnquoted) (r.names e) st.text := by
  intro st present
  obtain ⟨calls,ran,kept⟩ := r.run_follows engine e s []
  rw [ran] at present
  change st ∈ statements calls at present
  cases planned : r.plan e with
  | error cause =>
    rw [planned] at kept
    rw [kept.2] at present
    cases present
  | ok sent =>
    rw [planned] at kept
    change statements calls = sent.toList at kept
    rw [kept,Option.mem_toList] at present
    cases present
    exact (plan_shows id planned).readsBack

end Request

-- The select list is read back as the names of the columns, with a comma and a blank between
-- them. A name in quotes ends where it was closed, whatever it says and whatever stands behind
-- it but a quote; so the names of every statement, sent or shown, are read as they were given.
theorem quoted_names_read_back (e : Entity ρ) :
    (∀ m : Mapping, lexemes m.selectList = some (commaSeparated m.columnNames)) ∧
    (∀ (name : String) (rest : List Char), rest.head? ≠ some '"' →
      openingName ((quotedName name).toList ++ rest) = some (name,rest)) ∧
    (∀ (r : Request ρ) (engine : Engine σ) (s : σ),
      ∀ st ∈ statements ((r.run engine.noting e).runFrom (s,[])).2.2,
        ReadsBack (∀ p ∈ r.filters, p.NamesUnquoted) (r.names e) st.text) ∧
    (∀ chain q st, e.query chain = .ok q → q.statement = .ok st →
      ReadsBack (∀ p ∈ QueryCall.filters chain, p.NamesUnquoted)
        ((Request.toList (ρ := ρ) chain).names e) st.text) := by
  refine ⟨fun m => ?_,fun name rest => openingName_quotedName name,
    fun r engine => r.sent_readsBack engine e,fun chain q st built rendered => ?_⟩
  · rw [m.selectList_eq]
    exact lexemes_names m.columnNames
  · have planned : (Request.toList chain).plan e = .ok (some st) :=
      bind_ok.mpr ⟨q,built,return_ok.mpr ⟨st,rendered,rfl⟩⟩
    exact (Request.plan_shows id planned).readsBack

def thorny : Mapping where
  table := "\""
  columns := [(Column.new "empty" .text).named "",(Column.new "quote" .text).named "\"",
    (Column.new "pair" .text).named "a\"\"b",(Column.new "list" .text).named "x, \"y",
    (Column.new "mark" .text).named "?"]

def thornyPage : List QueryCall :=
  [.filter ((Expr.field "quote").startsWith (.apply (.field "list") "Trim" []) .ordinal),
    .orderBy (.field "empty"),.thenByDescending (.field "pair"),.take 3]

def thornyText : String :=
  "select \"\", \"\"\"\", \"a\"\"\"\"b\", \"x, \"\"y\", \"?\" from \"\"\"\" where " ++
    "(substr(\"\"\"\", 1, length(trim(\"x, \"\"y\"))) = trim(\"x, \"\"y\")) " ++
    "order by \"\", \"a\"\"\"\"b\" desc limit 3"

def thornyNames : List String :=
  ["","\"","a\"\"b","x, \"y","?","\"","\"","x, \"y","x, \"y","","a\"\"b"]

theorem quoted_names_read_back_thorny :
    lexemes thorny.selectList = some [.name "",.plain ',',.plain ' ',.name "\"",.plain ',',
      .plain ' ',.name "a\"\"b",.plain ',',.plain ' ',.name "x, \"y",.plain ',',.plain ' ',.name "?"] ∧
    openingName "\"a\"\"\", \"b\"".toList = some ("a\"",", \"b\"".toList) ∧
    statements (((Request.toList thornyPage).run Request.wordless.noting
      thorny.valuesEntity).runFrom ([],[])).2.2 = [⟨thornyText,[]⟩] ∧
    (lexemes thornyText).map namesOf = some thornyNames ∧
    ∃ q, thorny.valuesEntity.query thornyPage = .ok q ∧ q.statement = .ok ⟨thornyText,[]⟩ ∧
      ReadsBack (∀ p ∈ QueryCall.filters thornyPage, p.NamesUnquoted) thornyNames thornyText := by
  obtain ⟨listed,opened,sent,shown⟩ := quoted_names_read_back thorny.valuesEntity
  have read : statements (((Request.toList thornyPage).run Request.wordless.noting
      thorny.valuesEntity).runFrom ([],[])).2.2 = [⟨thornyText,[]⟩] := by rfl
  have unquoted : ∀ p ∈ (Request.toList (ρ := List Value) thornyPage).filters, p.NamesUnquoted := by
    intro p present name receiver args inside
    cases List.mem_singleton.mp present
    simp [Expr.startsWith,Expr.apply,Expr.field,Expr.parts,Expr.receiverParts,
      Expr.argsParts] at inside
    obtain ⟨rfl,_,_⟩ := inside
    decide
  obtain ⟨xs,_,names,_,whole⟩ := sent (.toList thornyPage) Request.wordless [] ⟨thornyText,[]⟩
    (by rw [read]; exact List.mem_singleton_self _)
  refine ⟨listed thorny,opened "a\"" ", \"b\"".toList (by decide),read,?_,_,rfl,rfl,
    shown thornyPage _ ⟨thornyText,[]⟩ rfl rfl⟩
  rw [whole unquoted,Option.map_some,names]
  rfl

end TypedRows
