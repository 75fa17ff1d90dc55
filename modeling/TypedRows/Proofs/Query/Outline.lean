import TypedRows.Proofs.Expr.OpenMarks
import TypedRows.Proofs.Expr.Outline
import TypedRows.Proofs.Query.Refusal

namespace TypedRows

-- Queries whose conditions differ in captured scalars alone have the same text.

variable {ρ : Type} {m : Mapping}

def QueryCall.outline : QueryCall → QueryCall
  | .filter predicate => .filter predicate.outline
  | call => call

def Query.outline (q : Query ρ) : Query ρ := {q with predicate := q.predicate.map Expr.outline}

theorem Query.outline_narrowed (predicate : Expr) (q : Query ρ) :
    q.outline.narrowed predicate.outline = (q.narrowed predicate).outline := by
  unfold Query.narrowed Query.outline
  cases q.predicate <;> rfl

theorem Query.outline_sorted (key : Expr) (ascending : Bool) (q : Query ρ) :
    q.outline.sorted key ascending = (q.sorted key ascending).map Query.outline := by
  unfold Query.sorted
  change (q.entity.mapping.orderingColumn key >>= _) = _
  cases q.entity.mapping.orderingColumn key <;> rfl

theorem QueryCall.apply_outline (call : QueryCall) (q : Query ρ) :
    call.outline.apply q.outline = (call.apply q).map Query.outline := by
  cases call with
  | filter predicate =>
    change (if q.isPaged then _ else Except.ok (q.outline.narrowed predicate.outline)) =
      (if q.isPaged then _ else _ : Except Error (Query ρ)).map Query.outline
    rw [Query.outline_narrowed]
    split <;> rfl
  | orderBy key | thenBy key => exact q.outline_sorted key true
  | orderByDescending key | thenByDescending key => exact q.outline_sorted key false
  | skip | take | readEagerly | deferred => rfl

theorem Query.extended_outline (chain : List QueryCall) (q : Query ρ) :
    q.outline.extended (chain.map QueryCall.outline) = (q.extended chain).map Query.outline := by
  induction chain generalizing q with
  | nil => rfl
  | cons call rest ih =>
    rw [List.map_cons,Query.extended,Query.extended,QueryCall.apply_outline]
    cases call.apply q with
    | error cause => rfl
    | ok next => exact ih next

theorem Mapping.whereClause_alike {p p' : Option Expr} {st st' : Statement}
    (same : p.map Expr.outline = p'.map Expr.outline) (written : m.whereClause p = .ok st)
    (written' : m.whereClause p' = .ok st') :
    st.text = st'.text ∧ st.args.length = st'.args.length := by
  cases p with
  | none =>
    cases p' with
    | none =>
      cases written
      cases written'
      exact ⟨rfl,rfl⟩
    | some predicate' => cases same
  | some predicate =>
    cases p' with
    | none => cases same
    | some predicate' =>
      obtain ⟨condition,compiled,rfl⟩ := return_ok.mp written
      obtain ⟨condition',compiled',rfl⟩ := return_ok.mp written'
      obtain ⟨o,compiles,rfl⟩ := Mapping.condition_ok.mp compiled
      obtain ⟨o',compiles',rfl⟩ := Mapping.condition_ok.mp compiled'
      have alike := compiles.alike (Option.some.inj same) compiles'
      exact ⟨congrArg (" where " ++ ·) alike.text,alike.length⟩

theorem Query.render_alike {q q' : Query ρ} {selection : String} {st st' : Statement}
    (same : q.outline = q'.outline) (rendered : q.render selection = .ok st)
    (rendered' : q'.render selection = .ok st') :
    st.text = st'.text ∧ st.args.length = st'.args.length := by
  obtain ⟨entity,predicates,orderings,limit,offset,_⟩ := Query.mk.inj same
  have table : q.table = q'.table := congrArg Entity.table entity
  obtain ⟨clause,written,rfl⟩ := return_ok.mp rendered
  obtain ⟨clause',written',rfl⟩ := return_ok.mp rendered'
  rw [← entity] at written'
  obtain ⟨text,length⟩ := Mapping.whereClause_alike predicates written written'
  exact ⟨by simp only [table,text,orderings,limit,offset],length⟩

-- A captured scalar comes into the text as a placeholder and in no other way: two conditions
-- that differ in nothing but such scalars have one text and bind as many arguments, and so do
-- two queries built with them by the same calls.
theorem text_ignores_captured (m : Mapping) (e : Entity ρ) :
    (∀ (x y : Expr) (f g : Fragment) (pre pre' xs ys : List Value), x.outline = y.outline →
      (x.compile m).runFrom pre = (.ok f,pre ++ xs) → (y.compile m).runFrom pre' = (.ok g,pre' ++ ys) →
      f.text = g.text ∧ xs.length = ys.length) ∧
    ∀ (chain chain' : List QueryCall) (q q' : Query ρ) (selection : String) (st st' : Statement),
      chain.map QueryCall.outline = chain'.map QueryCall.outline →
      e.query chain = .ok q → e.query chain' = .ok q' →
      q.render selection = .ok st → q'.render selection = .ok st' →
      st.text = st'.text ∧ st.args.length = st'.args.length := by
  constructor
  · intro x y f g pre pre' xs ys same compiled compiled'
    have alone {x : Expr} {f : Fragment} {pre xs : List Value}
        (compiled : (x.compile m).runFrom pre = (.ok f,pre ++ xs)) : Compiles m x ⟨f,xs⟩ := by
      obtain ⟨args,alone,same⟩ := compiles_of_runFrom compiled
      rwa [List.append_cancel_left same]
    have alike := (alone compiled).alike same (alone compiled')
    exact ⟨alike.text,alike.length⟩
  · intro chain chain' q q' selection st st' same built built' rendered rendered'
    have outlined (chain : List QueryCall) :
        e.query (chain.map QueryCall.outline) = (e.query chain).map Query.outline :=
      Query.extended_outline chain (Query.all e)
    have outlines : (e.query chain).map Query.outline = (e.query chain').map Query.outline := by
      rw [← outlined,same,outlined]
    rw [built,built'] at outlines
    exact Query.render_alike (Except.ok.inj outlines) rendered rendered'

def probe (item truth name : Value) : Expr :=
  .binary .or
    (.binary .and (.isIn (.field "age") (.convert .integer (.values [.scalar item,.scalar .null])))
      (.not (.value truth)))
    (.startsWith (.member (.constant (.object [("name",.scalar name)])) "name") (.value (.text "Ab"))
      .ordinal)

def plainProbe : Expr := probe (.text "5") (.bool true) (.text "Abe")

def slyProbe : Expr := probe (.bool true) (.int 7) (.text "' or 1 = 1 --")

def probeText : String := "(((\"a?\"\"b\" in (?,?)) and NOT(?)) or (substr(?, 1, 2) = ?))"

theorem text_ignores_captured_probes :
    plainProbe.outline = slyProbe.outline ∧
      (plainProbe.compile riddles).runFrom [] =
        (.ok ⟨probeText,none⟩,[.int 5,.null,.bool true,.text "Abe",.text "Ab"]) ∧
      (∃ f ys, (slyProbe.compile riddles).runFrom [] = (.ok f,ys) ∧ probeText = f.text ∧ 5 = ys.length) ∧
      ∃ q q' st st', riddles.valuesEntity.query [.filter plainProbe,.take 3] = .ok q ∧
        riddles.valuesEntity.query [.filter slyProbe,.take 3] = .ok q' ∧
        q.statement = .ok st ∧ q'.statement = .ok st' ∧
        st.text = st'.text ∧ st.args.length = st'.args.length := by
  obtain ⟨conditions,queries⟩ := text_ignores_captured riddles riddles.valuesEntity
  have same : plainProbe.outline = slyProbe.outline := by rfl
  have compiled : (plainProbe.compile riddles).runFrom [] =
      (.ok ⟨probeText,none⟩,[.int 5,.null,.bool true,.text "Abe",.text "Ab"]) := by rfl
  exact ⟨same,compiled,⟨_,_,rfl,conditions plainProbe slyProbe _ _ [] [] _ _ same compiled rfl⟩,
    _,_,_,_,rfl,rfl,rfl,rfl,queries [.filter plainProbe,.take 3] [.filter slyProbe,.take 3] _ _ _ _ _
      rfl rfl rfl rfl rfl⟩

end TypedRows
