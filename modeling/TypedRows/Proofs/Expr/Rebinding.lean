import TypedRows.Proofs.Expr.Evaluation

namespace TypedRows

-- What a conversion changes in the condition that it converts: values that were bound as they
-- are, and nothing that is computed from bound values.

variable {m : Mapping} {target : ValueType} {operand : Expr}

-- What a conversion makes of an operand, its text and the arguments that it binds. Text around
-- the placeholders computes from the arguments that it was written for.
inductive Operand.Converts (target : ValueType) (a : Operand) : Operand → Prop where
  | unvalued : a.fragment.value = none → Converts target a a
  | wrapped {v w : Captured} : a.fragment.value = some v →
      isPlaceholderForm a.text.toList = false → v.coerce target = .ok w →
      Converts target a ⟨{a.fragment with value := some w},a.args⟩
  | bare {v w : Captured} {bound : List Value} : a.fragment.value = some v →
      isPlaceholderForm a.text.toList = true → v.coerce target = .ok w →
      v.Bindable a.args → w.Bindable bound →
      List.Forall₂ (fun x y => x.coerce target = .ok y) a.args bound →
      Converts target a ⟨{a.fragment with value := some w},bound⟩

theorem coerced_nulls {xs ys : List Value}
    (each : List.Forall₂ (fun x y => x.coerce target = .ok y) xs ys) :
    ys.map Value.isNull = xs.map Value.isNull := by
  induction each with
  | nil => rfl
  | cons first _ ih => rw [List.map_cons,List.map_cons,Value.coerce_isNull first,ih]

namespace Operand.Converts

variable {a o : Operand}

theorem text (converts : a.Converts target o) : o.text = a.text := by
  cases converts <;> rfl

theorem length (converts : a.Converts target o) : o.args.length = a.args.length := by
  cases converts with
  | unvalued | wrapped => rfl
  | bare _ _ _ _ _ each => exact each.length_eq.symm

theorem nulls (converts : a.Converts target o) :
    o.args.map Value.isNull = a.args.map Value.isNull := by
  cases converts with
  | unvalued | wrapped => rfl
  | bare _ _ _ _ _ each => exact coerced_nulls each

end Operand.Converts

theorem Compiles.converts {o : Operand} (compiled : Compiles m (.convert target operand) o) :
    ∃ a, Compiles m operand a ∧ a.Converts target o := by
  obtain ⟨a,inner,⟨none,rfl⟩ | ⟨v,w,valued,coerced,rfl⟩⟩ := compiles_convert.mp compiled
  · exact ⟨o,inner,.unvalued none⟩
  · refine ⟨a,inner,?_⟩
    cases form : isPlaceholderForm a.text.toList with
    | false => exact .wrapped valued form coerced
    | true =>
      have bindable := inner.bindable valued form
      obtain ⟨taken,_⟩ := bindable.coerce coerced
      obtain ⟨xs,before,each⟩ := Captured.coerce_bindable.mp ⟨w,coerced,taken⟩
      rw [before.unique bindable] at each
      exact .bare valued form coerced bindable taken each

theorem Compiles.settled {o : Operand} (compiled : Compiles m (.convert target operand) o) :
    (o.fragment.converted target 0).runFrom o.args = (.ok o.fragment,o.args) := by
  obtain ⟨a,_,⟨none,rfl⟩ | ⟨v,w,_,coerced,rfl⟩⟩ := compiles_convert.mp compiled
  · simp [Fragment.converted,none]
  · have again := Captured.coerce_coerced coerced
    cases form : isPlaceholderForm a.text.toList <;>
      simp_all [Fragment.converted,Operand.text,rebound_rebound,Except.map]

theorem compile_convert_again (pre : List Value) :
    ((Expr.convert target (.convert target operand)).compile m).runFrom pre =
      ((Expr.convert target operand).compile m).runFrom pre := by
  rw [compile_framed m _ pre,compile_framed m (.convert target operand) pre]
  have unfolded : ((Expr.convert target (.convert target operand)).compile m).runFrom [] =
      ((do (← (Expr.convert target operand).compile m).converted target 0).runFrom []) := by
    rw [Expr.compile]
    rfl
  rcases ran : ((Expr.convert target operand).compile m).runFrom [] with ⟨cause | f,args⟩
  · rw [unfolded,Step.runFrom_bind_error ran]
  · have settled := Compiles.settled (show Compiles m (.convert target operand) ⟨f,args⟩ from ran)
    rw [unfolded,Step.runFrom_bind_ok ran,settled]

-- Where a conversion compiles, its operand does: to the same text, and of the arguments only those
-- change that stand for the value itself. Done twice, a conversion does no more.
theorem convert_keeps_computed (m : Mapping) (target : ValueType) (operand : Expr) :
    (∀ pre f after, ((Expr.convert target operand).compile m).runFrom pre = (.ok f,after) →
      ∃ g before bound, (operand.compile m).runFrom pre = (.ok g,pre ++ before) ∧
        after = pre ++ bound ∧ f.text = g.text ∧ bound.length = before.length ∧
        bound.map Value.isNull = before.map Value.isNull ∧
        Operand.Converts target ⟨g,before⟩ ⟨f,bound⟩) ∧
    ∀ pre, ((Expr.convert target (.convert target operand)).compile m).runFrom pre =
      ((Expr.convert target operand).compile m).runFrom pre := by
  constructor
  · intro pre f after compiled
    obtain ⟨bound,compiled,appended⟩ := compiles_of_runFrom compiled
    obtain ⟨⟨g,before⟩,inner,converts⟩ := compiled.converts
    exact ⟨g,before,bound,inner.runFrom pre,appended,converts.text,converts.length,converts.nulls,
      converts⟩
  · exact compile_convert_again

def negatedFlag : Expr := .not (.value (.bool true))

theorem convert_keeps_computed_negatedFlag :
    ((Expr.convert .integer negatedFlag).compile person).runFrom [.null] =
      (.ok ⟨"NOT(?)",some (.scalar (.int 0))⟩,[.null,.bool true]) ∧
    ∃ g before, (negatedFlag.compile person).runFrom [.null] = (.ok g,.null :: before) ∧
      Operand.Converts .integer ⟨g,before⟩ ⟨⟨"NOT(?)",some (.scalar (.int 0))⟩,[.bool true]⟩ := by
  have compiled : ((Expr.convert .integer negatedFlag).compile person).runFrom [.null] =
      (.ok ⟨"NOT(?)",some (.scalar (.int 0))⟩,[.null,.bool true]) := by rfl
  obtain ⟨g,before,bound,inner,appended,_,_,_,converts⟩ :=
    (convert_keeps_computed person .integer negatedFlag).1 _ _ _ compiled
  obtain rfl : [.bool true] = bound := by simpa using appended
  exact ⟨compiled,g,before,inner,converts⟩

end TypedRows
