import TypedRows.Proofs.Query.Request

namespace TypedRows

-- When a request is refused, in terms of its query, its record and its mapping; and which
-- requests are accepted with nothing to send.

variable {ρ α β : Type} {m : Mapping} {e : Entity ρ} {r : Request ρ}

def Fails (outcome : Except Error α) : Prop := ∃ cause, outcome = .error cause

theorem fails_bind {first : Except Error α} {next : α → Except Error β} :
    Fails (first >>= next) ↔ ∀ a, first = .ok a → Fails (next a) := by
  cases first with
  | error cause => exact ⟨fun _ _ absurd => (by cases absurd),fun _ => ⟨cause,rfl⟩⟩
  | ok a => exact ⟨fun failed _ same => (by cases same; exact failed),fun each => each a rfl⟩

theorem fails_ok {a : α} : ¬ Fails (.ok a) := fun ⟨_,absurd⟩ => by cases absurd

theorem fails_bind_or {first : Except Error α} {next : α → Except Error β} {P : Prop}
    (rest : ∀ a, first = .ok a → (Fails (next a) ↔ P)) :
    Fails (first >>= next) ↔ Fails first ∨ P := by
  cases first with
  | error cause => exact ⟨fun _ => .inl ⟨cause,rfl⟩,fun _ => ⟨cause,rfl⟩⟩
  | ok a =>
    refine (rest a rfl).trans ⟨.inr,?_⟩
    rintro (failed | holds)
    · exact (fails_ok failed).elim
    · exact holds

theorem fails_return {outcome : Except Error α} {f : α → β} :
    Fails (do return f (← outcome)) ↔ Fails outcome := by
  cases outcome with
  | error cause => exact ⟨fun _ => ⟨cause,rfl⟩,fun _ => ⟨cause,rfl⟩⟩
  | ok a => exact ⟨fun failed => (fails_ok failed).elim,fun failed => (fails_ok failed).elim⟩

theorem Mapping.condition_ok {predicate : Expr} {st : Statement} :
    m.condition predicate = .ok st ↔ ∃ o, Compiles m predicate o ∧ st = ⟨o.text,o.args⟩ := by
  unfold Mapping.condition Compiles
  rcases (predicate.compile m).runFrom [] with ⟨cause | fragment,args⟩
  · exact ⟨fun absurd => (by cases absurd),fun ⟨_,absurd,_⟩ => (by cases absurd)⟩
  · exact ⟨fun same => ⟨⟨fragment,args⟩,rfl,(by cases same; rfl)⟩,
      fun ⟨_,same,found⟩ => (by cases same; rw [found]; rfl)⟩

theorem Mapping.condition_fails {predicate : Expr} :
    Fails (m.condition predicate) ↔ ∀ o, ¬ Compiles m predicate o := by
  unfold Fails Mapping.condition Compiles
  rcases (predicate.compile m).runFrom [] with ⟨cause | fragment,args⟩
  · exact ⟨fun _ _ absurd => (by cases absurd),fun _ => ⟨cause,rfl⟩⟩
  · exact ⟨fun ⟨_,absurd⟩ => (by cases absurd),fun never => (never ⟨fragment,args⟩ rfl).elim⟩

namespace Query

variable {q : Query ρ} {selection : String}

def Uncompilable (q : Query ρ) : Prop :=
  ∃ p, q.predicate = some p ∧ ∀ o, ¬ Compiles q.entity.mapping p o

theorem render_fails : Fails (q.render selection) ↔ q.Uncompilable := by
  refine fails_return.trans ?_
  unfold Uncompilable
  cases q.predicate with
  | none => exact ⟨fun failed => (fails_ok failed).elim,fun ⟨_,absurd,_⟩ => (by cases absurd)⟩
  | some predicate =>
    refine fails_return.trans (Mapping.condition_fails.trans ?_)
    exact ⟨fun never => ⟨predicate,rfl,never⟩,fun ⟨_,same,never⟩ => (by cases same; exact never)⟩

theorem filter_fails {predicate : Expr} : Fails (q.filter predicate) ↔ q.isPaged = true := by
  unfold filter
  split
  · rename_i paged
    exact ⟨fun _ => paged,fun _ => ⟨_,rfl⟩⟩
  · rename_i whole
    exact ⟨fun failed => (fails_ok failed).elim,fun paged => (whole paged).elim⟩

def narrowedBy (extra : Option Expr) (q : Query ρ) : Query ρ :=
  match extra with
  | some predicate => q.narrowed predicate
  | none => q

theorem deletion_eq (extra : Option Expr) (q : Query ρ) : q.deletion extra =
    if q.isPaged then .error (.unsupported (.pagedDelete q.table))
    else match (q.narrowedBy extra).predicate with
      | some predicate => .ok predicate
      | none => .error (.unsupported (.deleteWithoutPredicate q.table)) := by
  unfold deletion
  by_cases paged : q.isPaged = true
  · simp only [paged,if_true]
    rfl
  · simp only [paged]
    cases extra with
    | none => cases found : q.predicate <;> simp [narrowedBy,found,bind,Except.bind] <;> rfl
    | some predicate =>
      have unpaged : q.filter predicate = .ok (q.narrowed predicate) := filter_ok.mpr ⟨paged,rfl⟩
      simp [narrowedBy,unpaged,bind,Except.bind,narrowed_predicate]
      rfl

theorem deletion_ok {extra : Option Expr} {p : Expr} :
    q.deletion extra = .ok p ↔ ¬ q.isPaged = true ∧ (q.narrowedBy extra).predicate = some p := by
  rw [deletion_eq]
  by_cases paged : q.isPaged = true
  · simp [paged]
  · cases found : (q.narrowedBy extra).predicate <;> simp [paged]

theorem narrowedBy_predicate_none {extra : Option Expr} :
    (q.narrowedBy extra).predicate = none ↔ q.predicate = none ∧ extra = none := by
  cases extra <;> simp [narrowedBy,narrowed_predicate]

theorem narrowedBy_entity (extra : Option Expr) : (q.narrowedBy extra).entity = q.entity := by
  cases extra with
  | none => rfl
  | some predicate => exact narrowed_entity predicate q

theorem deletePlan_fails {extra : Option Expr} : Fails (q.deletePlan extra) ↔
    q.isPaged = true ∨ (q.predicate = none ∧ extra = none) ∨ (q.narrowedBy extra).Uncompilable := by
  rw [deletePlan,fails_bind,← narrowedBy_predicate_none]
  simp only [fails_return,Mapping.condition_fails,deletion_ok]
  unfold Uncompilable
  by_cases paged : q.isPaged = true
  · simp [paged]
  · cases found : (q.narrowedBy extra).predicate <;> simp [paged,narrowedBy_entity]

end Query

namespace Entity

def keyCondition (name : String) (key : Value) : Statement :=
  ⟨"(" ++ quotedName name ++ (if key.isNull then " is ?" else " = ?") ++ ")",[key]⟩

theorem condition_keyTest {column first : Column}
    (found : m.fieldColumn column.property = .ok first) (key : Value) :
    m.condition (keyTest column key) = .ok (keyCondition first.name key) := by
  have field : Compiles m (.field column.property) ⟨.plain (quotedName first.name),[]⟩ :=
    compiles_field.mpr ⟨first,found,rfl⟩
  have value : Compiles m (.value key) ⟨⟨"?",some (.scalar key)⟩,[key]⟩ :=
    compiles_constant.mpr ⟨.scalar key,rfl⟩
  have named : (Fragment.plain (quotedName first.name)).isNullPlaceholder = false := by
    have quoted : quotedName first.name ≠ "?" := fun same => by
      have chars := congrArg String.toList same
      simp [quotedName] at chars
    simp [Fragment.isNullPlaceholder,Fragment.plain,quoted]
  have joined : Operator.eq.join (.plain (quotedName first.name)) ⟨"?",some (.scalar key)⟩ =
      .ok (keyCondition first.name key).text := by
    have null : Fragment.isNullPlaceholder ⟨"?",some (.scalar key)⟩ = key.isNull := rfl
    rw [Operator.join,named,null,keyCondition]
    cases key.isNull <;>
      simp [nullComparison,Operator.sql,Fragment.plain,String.append_assoc]
  exact Mapping.condition_ok.mpr
    ⟨_,compiles_binary.mpr ⟨_,_,_,field,value,joined,rfl⟩,rfl⟩

theorem keyTest_compiles {column : Column} (present : column ∈ m.columns) (key : Value) :
    ∃ o, Compiles m (keyTest column key) o := by
  obtain ⟨first,found⟩ : ∃ first, m.fieldColumn column.property = .ok first := by
    unfold Mapping.fieldColumn Mapping.byProperty?
    cases found : m.columns.find? fun c => c.property = column.property with
    | some first => exact ⟨first,rfl⟩
    | none => exact absurd (List.find?_eq_none.mp found column present) (by simp)
  obtain ⟨o,compiles,_⟩ := Mapping.condition_ok.mp (condition_keyTest found key)
  exact ⟨o,compiles⟩

theorem keyColumn_fails {action : KeyAction} :
    Fails (e.keyColumn action) ↔ e.mapping.primaryKey? = none := by
  unfold Fails keyColumn
  cases e.mapping.primaryKey? <;> simp

theorem keyColumn_mem {action : KeyAction} {column : Column}
    (found : e.keyColumn action = .ok column) : column ∈ e.mapping.columns := by
  unfold keyColumn at found
  split at found
  · rename_i first there
    cases found
    exact List.mem_of_find?_eq_some there
  · cases found

theorem values_eq_ok {record : ρ} {values : List Value} : e.values record = .ok values ↔
    (e.encode record).length = e.mapping.columns.length ∧ e.encode record = values := by
  by_cases same : (e.encode record).length = e.mapping.columns.length <;>
    simp [Entity.values,same]

theorem values_ok (e : Entity ρ) {record : ρ}
    (fits : (e.encode record).length = e.mapping.columns.length) :
    e.values record = .ok (e.encode record) := values_eq_ok.mpr ⟨fits,rfl⟩

theorem values_error (e : Entity ρ) {record : ρ}
    (unfit : (e.encode record).length ≠ e.mapping.columns.length) : e.values record = .error
      (.conversion (.recordLength e.table e.mapping.columns.length (e.encode record).length)) :=
  if_neg unfit

theorem values_fails {record : ρ} :
    Fails (e.values record) ↔ (e.encode record).length ≠ e.mapping.columns.length := by
  by_cases same : (e.encode record).length = e.mapping.columns.length <;>
    simp [Fails,values,same]

theorem keyQuery_ok {key : Value} {q : Query ρ} (built : e.keyQuery key = .ok q) :
    ∃ column ∈ e.mapping.columns, q = (Query.all e).narrowed (keyTest column key) := by
  obtain ⟨column,found,filtered⟩ := bind_ok.mp built
  exact ⟨column,keyColumn_mem found,(Query.filter_ok.mp filtered).2⟩

theorem keyQuery_fails {key : Value} : Fails (e.keyQuery key) ↔ e.mapping.primaryKey? = none := by
  rw [← keyColumn_fails,← or_false (Fails (e.keyColumn .find))]
  refine fails_bind_or fun column _ => ?_
  simp [Query.filter_fails,Query.isPaged,Query.all]

theorem keyTest_compilable {column : Column} (present : column ∈ e.mapping.columns) (key : Value) :
    ¬ ((Query.all e).narrowed (keyTest column key)).Uncompilable := by
  rintro ⟨p,same,never⟩
  rw [Query.narrowed_predicate] at same
  cases same
  rw [Query.narrowed_entity] at never
  obtain ⟨o,compiles⟩ := keyTest_compiles present key
  exact never o compiles

theorem findPlan_fails {key : Value} :
    Fails (do return some (← (← e.keyQuery key).single.statement) : Plan) ↔
      e.mapping.primaryKey? = none := by
  rw [← keyQuery_fails,← or_false (Fails (e.keyQuery key))]
  refine fails_bind_or fun q built => ?_
  obtain ⟨column,present,rfl⟩ := keyQuery_ok built
  rw [iff_false,fails_return,Query.statement,Query.render_fails]
  exact keyTest_compilable present key

theorem updatePlan_fails {record : ρ} : Fails (e.updatePlan record) ↔
    e.mapping.primaryKey? = none ∨ (e.encode record).length ≠ e.mapping.columns.length := by
  refine (fails_bind_or fun column _ => ?_).trans (or_congr keyColumn_fails values_fails)
  refine (fails_bind_or (P := False) fun values _ => ?_).trans (or_false _).to_iff
  rw [iff_false]
  dsimp only
  split <;> exact fails_ok

theorem deleteRecordPlan_fails {record : ρ} : Fails (e.deleteRecordPlan record) ↔
    e.mapping.primaryKey? = none ∨ (e.encode record).length ≠ e.mapping.columns.length := by
  refine (fails_bind_or fun column found => ?_).trans (or_congr keyColumn_fails values_fails)
  refine (fails_bind_or (P := False) fun values _ => ?_).trans (or_false _).to_iff
  rw [iff_false,Query.deletePlan_fails]
  rintro (paged | ⟨_,absurd⟩ | uncompilable)
  · cases paged
  · cases absurd
  · exact keyTest_compilable (keyColumn_mem found) _ uncompilable

theorem plainEntries_isEmpty {record : ρ} {values : List Value}
    (fits : e.values record = .ok values) :
    (e.plainEntries values).isEmpty = true ↔ ∀ c ∈ e.mapping.columns, c.primaryKey = true := by
  obtain ⟨same,rfl⟩ := values_eq_ok.mp fits
  have columns : (e.mapping.columns.zip (e.encode record)).map Prod.fst = e.mapping.columns :=
    List.map_fst_zip (Nat.le_of_eq same.symm)
  conv_rhs => rw [← columns]
  simp [plainEntries]

end Entity

namespace Request

-- What a request is refused for: a condition after paging or a paged delete, a delete without
-- any condition, a condition that does not compile, a mapping without a key, and a record that
-- does not fit the columns. A chain that breaks off itself leaves no query.
def Refused (e : Entity ρ) : Request ρ → Prop
  | .toList chain | .first chain | .firstOrDefault chain | .elementAt chain _ | .count chain =>
      ∀ q, e.query chain = .ok q → q.Uncompilable
  | .countWhere chain predicate =>
      ∀ q, e.query chain = .ok q → q.isPaged = true ∨ (q.narrowed predicate).Uncompilable
  | .delete chain extra =>
      ∀ q, e.query chain = .ok q → q.isPaged = true ∨ (q.predicate = none ∧ extra = none) ∨
        (q.narrowedBy extra).Uncompilable
  | .find _ | .get _ => e.mapping.primaryKey? = none
  | .insert record => (e.encode record).length ≠ e.mapping.columns.length
  | .update record | .deleteRecord record => e.mapping.primaryKey? = none ∨
      (e.encode record).length ≠ e.mapping.columns.length
  | .deleteAll => False

def Idle (e : Entity ρ) : Request ρ → Prop
  | .update _ => ∀ c ∈ e.mapping.columns, c.primaryKey = true
  | _ => False

theorem plan_fails : Fails (r.plan e) ↔ r.Refused e := by
  cases r with
  | toList | first | firstOrDefault | elementAt | count =>
    exact fails_bind.trans (forall₂_congr fun q _ => fails_return.trans Query.render_fails)
  | countWhere chain predicate =>
    refine fails_bind.trans (forall₂_congr fun q _ => fails_bind.trans ?_)
    simp only [fails_return,Query.render_fails,Query.filter_ok]
    by_cases paged : q.isPaged = true <;> simp [paged]
  | delete chain extra => exact fails_bind.trans (forall₂_congr fun q _ => Query.deletePlan_fails)
  | find | get => exact Entity.findPlan_fails
  | insert record => exact fails_return.trans Entity.values_fails
  | update record => exact Entity.updatePlan_fails
  | deleteRecord record => exact Entity.deleteRecordPlan_fails
  | deleteAll => exact ⟨fun failed => fails_ok failed,fun absurd => absurd.elim⟩

theorem plan_none {sent : Option Statement} (planned : r.plan e = .ok sent) :
    sent = none ↔ r.Idle e := by
  have busy {γ : Type} {first : Except Error γ} {next : γ → Plan}
      (rest : ∀ a, next a ≠ .ok none) : first >>= next ≠ .ok none := by
    intro silent
    obtain ⟨a,_,later⟩ := bind_ok.mp silent
    exact rest a later
  have never (loud : r.plan e ≠ .ok none) : ¬ sent = none := fun none => loud (none ▸ planned)
  cases r with
  | update record =>
    obtain ⟨column,_,rest⟩ := bind_ok.mp planned
    obtain ⟨values,fits,rest⟩ := bind_ok.mp rest
    have empty := Entity.plainEntries_isEmpty fits
    dsimp only at rest
    split at rest
    · rename_i none
      cases rest
      exact ⟨fun _ => empty.mp none,fun _ => rfl⟩
    · rename_i some
      cases rest
      exact ⟨fun absurd => (by cases absurd),fun idle => (some (empty.mpr idle)).elim⟩
  | countWhere | delete =>
    exact iff_of_false (never (busy fun _ => busy fun _ => busy fun _ => nofun)) id
  | deleteRecord =>
    exact iff_of_false (never (busy fun _ => busy fun _ => busy fun _ => busy fun _ => nofun)) id
  | insert => exact iff_of_false (never (busy fun _ => nofun)) id
  | deleteAll => exact iff_of_false (never nofun) id
  | _ => exact iff_of_false (never (busy fun _ => busy fun _ => nofun)) id

end Request

end TypedRows
