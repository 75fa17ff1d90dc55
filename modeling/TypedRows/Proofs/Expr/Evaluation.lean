import TypedRows.Proofs.Expr.PlaceholderOrder

namespace TypedRows

-- Conditions with a value that is known without a record. They are read twice, once as a value
-- and once as placeholders with their arguments, and both readings agree.

variable {m : Mapping}

inductive Expr.Captures : Expr → Prop where
  | constant (value : Captured) : Captures (.constant value)
  | member {receiver : Expr} (field : String) : Captures receiver → Captures (.member receiver field)
  | convert (target : ValueType) {operand : Expr} : Captures operand →
      Captures (.convert target operand)

theorem Expr.Captures.ne_parameter {e : Expr} (captures : e.Captures) : e ≠ .parameter := by
  cases captures <;> simp

theorem Expr.captures_of_evaluate {e : Expr} {v : Captured} (read : e.evaluate = .ok v) :
    e.Captures := by
  induction e using Expr.induct generalizing v with
  | binary | not | call | parameter => cases read
  | constant value => exact .constant value
  | convert target operand ih =>
    obtain ⟨w,found,_⟩ := bind_ok.mp read
    exact .convert target (ih found)
  | member receiver field ih =>
    by_cases record : receiver = .parameter
    · subst record
      cases read
    · rw [evaluate_member record] at read
      obtain ⟨owner,found,_⟩ := bind_ok.mp read
      exact .member field (ih found)

theorem compiles_evaluated {receiver : Expr} {field : String} {o : Operand}
    (captured : receiver ≠ .parameter) :
    Compiles m (.member receiver field) o ↔ ∃ v, (Expr.member receiver field).evaluate = .ok v ∧
      v.Bindable o.args ∧ o.fragment = ⟨v.placeholder,some v⟩ := by
  rw [compiles_member captured,evaluate_member captured]
  simp only [bind_ok]
  constructor
  · rintro ⟨owner,v,found,read,bound⟩
    exact ⟨v,⟨owner,found,read⟩,bound⟩
  · rintro ⟨v,⟨owner,found,read⟩,bound⟩
    exact ⟨owner,v,found,read,bound⟩

theorem Expr.Captures.compiles_iff {e : Expr} {o : Operand} (captures : e.Captures) :
    Compiles m e o ↔ ∃ v, e.evaluate = .ok v ∧ v.Bindable o.args ∧
      o.fragment = ⟨v.placeholder,some v⟩ := by
  induction captures generalizing o with
  | constant value =>
    rw [compiles_constant]
    constructor
    · exact fun bound => ⟨value,rfl,bound⟩
    · rintro ⟨v,read,bound⟩
      cases read
      exact bound
  | member field inner => exact compiles_evaluated inner.ne_parameter
  | @convert target operand _ ih =>
    simp only [compiles_convert,ih,Expr.evaluate,bind_ok]
    constructor
    · rintro ⟨a,⟨v,read,bindable,fragment⟩,⟨none,_⟩ | ⟨v',w,valued,coerced,rfl⟩⟩
      · rw [fragment] at none
        cases none
      · rw [fragment] at valued
        cases valued
        obtain ⟨taken,same⟩ := bindable.coerce coerced
        have form : isPlaceholderForm a.text.toList = true := by
          rw [Operand.text,fragment]
          exact bindable.isPlaceholderForm
        refine ⟨w,⟨v,read,coerced⟩,?_,?_⟩
        · rwa [if_pos form]
        · rw [fragment,same]
    · rintro ⟨w,⟨v,read,coerced⟩,bindable,fragment⟩
      obtain ⟨xs,before,_⟩ := Captured.coerce_bindable.mp ⟨w,coerced,bindable⟩
      obtain ⟨taken,same⟩ := before.coerce coerced
      refine ⟨⟨⟨v.placeholder,some v⟩,xs⟩,⟨v,read,before,rfl⟩,.inr ⟨v,w,rfl,coerced,?_⟩⟩
      obtain ⟨f,args⟩ := o
      cases fragment
      simp only [Operand.text,before.isPlaceholderForm,if_true,same,taken.unique bindable]

-- A value beside nothing but placeholders is one that was bound as it is.
theorem Compiles.captures {e : Expr} {o : Operand} (compiled : Compiles m e o)
    (valued : o.fragment.value ≠ none) (form : isPlaceholderForm o.text.toList = true) :
    e.Captures := by
  induction e using Expr.induct generalizing o with
  | binary op left right =>
    obtain ⟨_,_,text,_,_,_,rfl⟩ := compiles_binary.mp compiled
    exact absurd rfl valued
  | not operand =>
    obtain ⟨a,_,rfl⟩ := compiles_not.mp compiled
    simp [Operand.text,Fragment.negated,isPlaceholderForm] at form
  | call method receiver args =>
    obtain ⟨_,_,pieces,_,_,_,rfl⟩ := compiles_call.mp compiled
    exact absurd rfl valued
  | constant value => exact .constant value
  | convert target operand ih =>
    obtain ⟨a,inner,⟨none,rfl⟩ | ⟨v,w,before,_,rfl⟩⟩ := compiles_convert.mp compiled
    · exact absurd none valued
    · exact .convert target (ih inner (by simp [before]) form)
  | member receiver field =>
    by_cases record : receiver = .parameter
    · subst record
      obtain ⟨column,_,rfl⟩ := compiles_field.mp compiled
      exact absurd rfl valued
    · obtain ⟨v,read,_⟩ := (compiles_evaluated record).mp compiled
      exact Expr.captures_of_evaluate read
  | parameter => exact (compiles_parameter compiled).elim

theorem Compiles.bindable {e : Expr} {o : Operand} {v : Captured} (compiled : Compiles m e o)
    (valued : o.fragment.value = some v) (form : isPlaceholderForm o.text.toList = true) :
    v.Bindable o.args := by
  have captures := compiled.captures (by simp [valued]) form
  obtain ⟨v',_,bindable,fragment⟩ := captures.compiles_iff.mp compiled
  rw [fragment] at valued
  cases valued
  exact bindable

theorem Compiles.valued_of_lone {p : Expr} {o : Operand} (compiled : Compiles m p o)
    (lone : o.text = "?") : o.fragment.value ≠ none := by
  obtain ⟨r,_,agrees⟩ := p.rendered o compiled
  intro none
  cases bare : r.bare with
  | true =>
    obtain ⟨v,found,_⟩ := agrees.bare bare
    cases found.symm.trans (agrees.value.trans none)
  | false => exact absurd (lone ▸ agrees.long bare) (by decide)

theorem Compiles.isNullPlaceholder_iff {p : Expr} {o : Operand} (compiled : Compiles m p o) :
    o.fragment.isNullPlaceholder = true ↔ o.text = "?" ∧ o.fragment.value = some (.scalar .null) := by
  unfold Fragment.isNullPlaceholder
  rw [Bool.and_eq_true,beq_iff_eq]
  refine and_congr_right fun lone => ?_
  cases found : o.fragment.value with
  | none => exact absurd found (compiled.valued_of_lone lone)
  | some v => cases v <;> simp [Captured.isNull,Value.isNull]; split <;> simp_all

def Expr.IsNull (p : Expr) : Prop := p.evaluate = .ok (.scalar .null)

theorem Compiles.null_iff {p : Expr} {o : Operand} (compiled : Compiles m p o) :
    o.fragment.isNullPlaceholder = true ↔ p.IsNull := by
  rw [compiled.isNullPlaceholder_iff]
  constructor
  · rintro ⟨lone,valued⟩
    have captures := compiled.captures (by simp [valued]) (by rw [lone]; rfl)
    obtain ⟨v,read,_,fragment⟩ := captures.compiles_iff.mp compiled
    rw [fragment] at valued
    cases valued
    exact read
  · intro null
    obtain ⟨v,read,_,fragment⟩ := (Expr.captures_of_evaluate null).compiles_iff.mp compiled
    cases read.symm.trans null
    rw [Operand.text,fragment]
    exact ⟨rfl,rfl⟩

-- A condition on a known value compiles exactly when the value can be bound, to its placeholders
-- and its scalars; and no other condition has a value beside nothing but placeholders.
theorem compile_agrees_evaluate (m : Mapping) (e : Expr) :
    (e.Captures → ∀ pre f after, (e.compile m).runFrom pre = (.ok f,after) ↔
      ∃ v args, e.evaluate = .ok v ∧ v.Bindable args ∧ f = ⟨v.placeholder,some v⟩ ∧
        after = pre ++ args) ∧
    ∀ pre f after, (e.compile m).runFrom pre = (.ok f,after) → f.value ≠ none →
      isPlaceholderForm f.text.toList = true → e.Captures := by
  constructor
  · intro captures pre f after
    constructor
    · intro compiled
      obtain ⟨args,compiled,appended⟩ := compiles_of_runFrom compiled
      obtain ⟨v,read,bindable,fragment⟩ := captures.compiles_iff.mp compiled
      exact ⟨v,args,read,bindable,fragment,appended⟩
    · rintro ⟨v,args,read,bindable,rfl,rfl⟩
      have compiled : Compiles m e ⟨⟨v.placeholder,some v⟩,args⟩ :=
        captures.compiles_iff.mpr ⟨v,read,bindable,rfl⟩
      exact compiled.runFrom pre
  · intro pre f after compiled valued form
    obtain ⟨args,compiled,_⟩ := compiles_of_runFrom compiled
    exact compiled.captures valued form

def filteredIds : Expr :=
  .convert .integer (.member
    (.member (.constant (.object [("filter",.object [("ids",.list [.scalar (.text "5"),.scalar .null])])]))
      "filter") "ids")

theorem compile_agrees_evaluate_filteredIds : filteredIds.Captures ∧
    filteredIds.evaluate = .ok (.list [.scalar (.int 5),.scalar .null]) ∧
    (filteredIds.compile person).runFrom [.int 1] =
      (.ok ⟨"(?,?)",some (.list [.scalar (.int 5),.scalar .null])⟩,[.int 1,.int 5,.null]) := by
  obtain ⟨agrees,captures⟩ := compile_agrees_evaluate person filteredIds
  have compiled : (filteredIds.compile person).runFrom [] =
      (.ok ⟨"(?,?)",some (.list [.scalar (.int 5),.scalar .null])⟩,[.int 5,.null]) := by rfl
  have known : filteredIds.Captures := captures _ _ _ compiled (by simp) (by decide)
  have read : filteredIds.evaluate = .ok (.list [.scalar (.int 5),.scalar .null]) := by rfl
  exact ⟨known,read,(agrees known _ _ _).mpr ⟨_,[.int 5,.null],read,.list [.int 5,.null],rfl,rfl⟩⟩

end TypedRows
