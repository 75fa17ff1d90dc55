import TypedRows.Proofs.Expr.Marks

namespace TypedRows

-- The n-th placeholder of a compiled condition and the n-th argument.

variable {m : Mapping}

def Rendered (m : Mapping) (e : Expr) : Prop :=
  ∀ o, Compiles m e o → ∃ r, e.render m = some r ∧ Agrees m e r o

theorem rendered_args {args : List Expr} {os : List Operand} (each : ∀ e ∈ args, Rendered m e)
    (compiled : List.Forall₂ (Compiles m) args os) :
    ∃ rs, Expr.renderArgs m args = some rs ∧ Matched m args rs os := by
  induction compiled with
  | nil => exact ⟨[],rfl,.nil⟩
  | cons first _ ih =>
    obtain ⟨r,rendered,agrees⟩ := each _ List.mem_cons_self _ first
    obtain ⟨rs,later,matched⟩ := ih fun e present => each e (List.mem_cons_of_mem _ present)
    exact ⟨r :: rs,by rw [Expr.renderArgs,rendered,later]; rfl,.cons agrees matched⟩

theorem rendered_receiver {receiver : Option Expr} {o : Option Operand}
    (each : ∀ e ∈ receiver.toList, Rendered m e)
    (compiled : List.Forall₂ (Compiles m) receiver.toList o.toList) :
    ∃ whole, Expr.renderReceiver m receiver = some whole ∧
      Matched m receiver.toList whole.toList o.toList := by
  cases receiver with
  | none =>
    cases o with
    | none => exact ⟨none,rfl,.nil⟩
    | some o => cases compiled
  | some e =>
    cases o with
    | none => cases compiled
    | some o =>
      obtain ⟨r,rendered,agrees⟩ := each e (by simp) o (by simpa using compiled)
      exact ⟨some r,by rw [Expr.renderReceiver,rendered]; rfl,.cons agrees .nil⟩

theorem two_le_length_quotedName (name : String) : 2 ≤ (quotedName name).toList.length := by
  simp [quotedName]

theorem Expr.rendered (e : Expr) : Rendered m e := by
  induction e using Expr.induct with
  | binary op left right first second =>
    rintro o compiled
    obtain ⟨p,q,text,compiledLeft,compiledRight,accepted,rfl⟩ := compiles_binary.mp compiled
    obtain ⟨a,renderedLeft,agreesLeft⟩ := first p compiledLeft
    obtain ⟨b,renderedRight,agreesRight⟩ := second q compiledRight
    obtain ⟨c,joined,agrees⟩ :=
      Agrees.joined renderedLeft renderedRight agreesLeft agreesRight accepted
    exact ⟨c,by rw [Expr.render,renderedLeft,renderedRight]; exact joined,agrees⟩
  | not operand ih =>
    rintro o compiled
    obtain ⟨p,inner,rfl⟩ := compiles_not.mp compiled
    obtain ⟨r,rendered,agrees⟩ := ih p inner
    exact ⟨r.negated,by rw [Expr.render,rendered]; rfl,agrees.negated⟩
  | call method receiver args first second =>
    rintro o compiled
    obtain ⟨p,os,ps,compiledReceiver,compiledArgs,laid,rfl⟩ := compiles_call.mp compiled
    obtain ⟨whole,renderedReceiver,matchedReceiver⟩ := rendered_receiver first compiledReceiver
    obtain ⟨rs,renderedArgs,matchedArgs⟩ := rendered_args second compiledArgs
    obtain ⟨c,rendered,agrees⟩ := Agrees.method matchedReceiver matchedArgs laid
    exact ⟨c,by rw [Expr.render,renderedReceiver,renderedArgs]; exact rendered,agrees⟩
  | constant value =>
    rintro o compiled
    obtain ⟨bindable,fragment⟩ := compiles_constant.mp compiled
    exact ⟨_,by rw [Expr.render,bindable.rendered],.leaf bindable fragment keepsOrder_constant⟩
  | convert target operand ih =>
    rintro o compiled
    -- Where no value is carried, a conversion leaves tokens and arguments alone.
    obtain ⟨p,inner,⟨unvalued,rfl⟩ | ⟨v,w,valued,coerced,rfl⟩⟩ := compiles_convert.mp compiled
    · obtain ⟨r,rendered,agrees⟩ := ih o inner
      obtain ⟨same,agrees⟩ := agrees.unconverted target unvalued
      exact ⟨r,by rw [Expr.render,rendered]; exact same,agrees⟩
    · obtain ⟨r,rendered,agrees⟩ := ih p inner
      obtain ⟨c,converted,agrees⟩ := agrees.converted valued coerced
      exact ⟨c,by rw [Expr.render,rendered]; exact converted,agrees⟩
  | member receiver field ih =>
    rintro o compiled
    by_cases record : receiver = .parameter
    · subst record
      obtain ⟨column,found,rfl⟩ := compiles_field.mp compiled
      have mapped : m.byProperty? field = some column := Mapping.fieldColumn_ok.mp found
      refine ⟨.plain [spelled (quotedName column.name)],by rw [Expr.render,mapped]; rfl,?_⟩
      exact .unvalued (by simp [spelled]) (two_le_length_quotedName _) (.refl [])
        (by simp [spelled,keepsOrder_member])
    · obtain ⟨owner,value,evaluated,read,bindable,fragment⟩ := (compiles_member record).mp compiled
      refine ⟨_,?_,.leaf bindable fragment keepsOrder_member⟩
      obtain ⟨fields,rfl,found⟩ := Captured.readField_ok.mp read
      rw [render_member record,evaluated]
      simp [found,bindable.rendered]
  | parameter => exact fun o compiled => absurd compiled compiles_parameter

structure Expr.NamesUnmarked (m : Mapping) (e : Expr) : Prop where
  columns : ∀ c ∈ m.columns, '?' ∉ c.name.toList
  methods : ∀ name receiver args, .call (.other name) receiver args ∈ e.parts →
    '?' ∉ (Text.lowercase name).toList

theorem Expr.render_unmarked {e : Expr} (names : e.NamesUnmarked m) {r : Rendering}
    (rendered : e.render m = some r) : Unmarked r.tokens :=
  unmarked_spelling.render
    ⟨fun c present => mark_mem_quotedName.not.mpr (names.columns c present),names.methods⟩ rendered

-- The text of a condition has as many placeholders as the condition appends arguments, and
-- its tokens give the value of each. Exactly when no comparison has null on its left beside
-- another value, the arguments stand in the order of the placeholders.
theorem compile_placeholder_order {e : Expr} {pre after : List Value} {f : Fragment}
    (names : e.NamesUnmarked m) (compiled : (e.compile m).runFrom pre = (.ok f,after)) :
    ∃ r args, e.render m = some r ∧ flattened r.tokens = f.text ∧ after = pre ++ args ∧
      args.length = f.text.toList.count '?' ∧
      (args = boundValues r.tokens ↔ e.KeepsOrder m) ∧
      (MarksBound r.tokens args ↔ e.KeepsOrder m) := by
  rw [compile_framed m e pre] at compiled
  rcases ran : (e.compile m).runFrom [] with ⟨outcome,args⟩
  rw [ran] at compiled
  simp only [Prod.mk.injEq] at compiled
  obtain ⟨rfl,rfl⟩ := compiled
  obtain ⟨r,rendered,agrees⟩ := e.rendered ⟨f,args⟩ ran
  have clean := e.render_unmarked names rendered
  have text : flattened r.tokens = f.text := agrees.text
  have long : args.length = (boundValues r.tokens).length := agrees.delayed.length
  refine ⟨r,args,rendered,text,rfl,?_,agrees.order,?_⟩
  · rw [long,← clean.count,text]
  · exact (clean.marksBound_iff long).trans agrees.order

def person : Mapping where
  table := "Person"
  columns := [(Column.new "id" .integer).named "Id" |>.key |>.counted,
    (Column.new "name" .text).named "Name",(Column.new "age" .integer).named "Age"]

def listedOrUnnamed : Expr :=
  .binary .or (.isIn (.field "age") (.convert .integer (.values [.scalar (.text "5"),.scalar .null])))
    (.binary .eq (.apply (.field "name") "NullIf" [.value (.text "?")]) (.value .null))

theorem listedOrUnnamed_namesUnmarked : listedOrUnnamed.NamesUnmarked person where
  columns := by decide
  methods := by
    intro name receiver args present
    simp [listedOrUnnamed,Expr.isIn,Expr.apply,Expr.field,Expr.value,Expr.values,Expr.parts,
      Expr.receiverParts,Expr.argsParts] at present
    obtain ⟨rfl,_,_⟩ := present
    decide

theorem compile_placeholder_order_listedOrUnnamed :
    (listedOrUnnamed.compile person).runFrom [.int 1] =
      (.ok ⟨"((\"Age\" in (?,?)) or (nullif(\"Name\",?) is ?))",none⟩,
        [.int 1,.int 5,.null,.text "?",.null]) ∧
    listedOrUnnamed.KeepsOrder person ∧
    ∃ r, listedOrUnnamed.render person = some r ∧
      MarksBound r.tokens [.int 5,.null,.text "?",.null] := by
  have compiled : (listedOrUnnamed.compile person).runFrom [.int 1] =
      (.ok ⟨"((\"Age\" in (?,?)) or (nullif(\"Name\",?) is ?))",none⟩,
        [.int 1,.int 5,.null,.text "?",.null]) := by rfl
  obtain ⟨r,args,rendered,_,appended,_,order,marks⟩ :=
    compile_placeholder_order listedOrUnnamed_namesUnmarked compiled
  obtain rfl : [.int 5,.null,.text "?",.null] = args := by simpa using appended
  have same : [.int 5,.null,.text "?",.null] = boundValues r.tokens := by
    cases rendered
    rfl
  exact ⟨compiled,order.mp same,r,rendered,marks.mpr (order.mp same)⟩

-- Null on the left is bound first, and its placeholder is written last.
def nullBeforeMasked : Expr :=
  .binary .eq (.value .null) (.binary .bitAnd (.field "age") (.value (.int 5)))

theorem nullBeforeMasked_namesUnmarked : nullBeforeMasked.NamesUnmarked person where
  columns := by decide
  methods := by
    simp [nullBeforeMasked,Expr.field,Expr.value,Expr.parts]

theorem compile_turns_leading_null :
    ¬ ∀ (m : Mapping) (e : Expr) (pre after : List Value) (f : Fragment), e.NamesUnmarked m →
      (e.compile m).runFrom pre = (.ok f,after) →
      ∃ r, e.render m = some r ∧ flattened r.tokens = f.text ∧
        after = pre ++ boundValues r.tokens := by
  intro ordered
  have compiled : (nullBeforeMasked.compile person).runFrom [] =
      (.ok ⟨"((\"Age\" & ?) is ?)",none⟩,[.null,.int 5]) := by rfl
  obtain ⟨r,rendered,_,same⟩ := ordered person nullBeforeMasked [] _ _
    nullBeforeMasked_namesUnmarked compiled
  cases rendered
  cases same

end TypedRows
