import TypedRows.Proofs.Expr.Carried

namespace TypedRows

-- The conditions that compile, told by what they say and not by the text that becomes of them.

variable {m : Mapping}

def Method.Takes (method : Method) (receiver : Bool) (count : Nat) : Prop :=
  match method with
  | .like | .contains => count = if receiver then 1 else 2
  | .startsWith _ | .endsWith _ | .equals => receiver = true ∧ count = 1
  | .toLower | .toUpper => receiver = true ∧ count = 0
  | .replace => receiver = true ∧ count = 2
  | .other _ => True

def Expr.Measurable (m : Mapping) (e : Expr) : Prop :=
  (∃ s, e.carried = some (.scalar (.text s))) ∨ (e.carried = none ∧ ¬ e.Marked m)

inductive Expr.Accepted (m : Mapping) : Expr → Prop where
  | constant {value : Captured} {args : List Value} : value.Bindable args →
      Accepted m (.constant value)
  | field {field : String} {column : Column} : m.byProperty? field = some column →
      Accepted m (.member .parameter field)
  | captured {receiver : Expr} {field : String} {fields : List (String × Captured)}
      {value : Captured} {args : List Value} : receiver.evaluate = .ok (.object fields) →
      Fields.get? field fields = some value → value.Bindable args →
      Accepted m (.member receiver field)
  | not {operand : Expr} : Accepted m operand → Accepted m (.not operand)
  | convert {target : ValueType} {operand : Expr} : Accepted m operand →
      (∀ value, operand.carried = some value → ∃ w, value.coerce target = .ok w) →
      Accepted m (.convert target operand)
  | operation {op : Operator} {left right : Expr} : Accepted m left → Accepted m right →
      ¬ left.IsNull → ¬ right.IsNull → op ∉ [.multiply,.divide,.modulo,.coalesce] →
      Accepted m (.binary op left right)
  | nullTest {op : Operator} {left right : Expr} : Accepted m left → Accepted m right →
      left.IsNull ∨ right.IsNull → op = .eq ∨ op = .ne → Accepted m (.binary op left right)
  | call {method : Method} {receiver : Option Expr} {args : List Expr} :
      (∀ e ∈ receiver.toList, Accepted m e) → (∀ e ∈ args, Accepted m e) →
      method.Takes receiver.isSome args.length →
      (method.measures = true → ∀ e ∈ args, e.Measurable m) →
      Accepted m (.call method receiver args)

theorem join_ok_iff {op : Operator} {a b : Fragment} : (∃ text, op.join a b = .ok text) ↔
    (¬ a.isNullPlaceholder = true ∧ ¬ b.isNullPlaceholder = true ∧
      op ∉ [.multiply,.divide,.modulo,.coalesce]) ∨
    ((a.isNullPlaceholder = true ∨ b.isNullPlaceholder = true) ∧ (op = .eq ∨ op = .ne)) := by
  unfold Operator.join
  cases a.isNullPlaceholder <;> cases b.isNullPlaceholder <;> cases op <;>
    simp [nullComparison,Operator.sql]

theorem join_accepted {op : Operator} {left right : Expr} {a b : Operand}
    (first : Compiles m left a) (second : Compiles m right b) :
    (∃ text, op.join a.fragment b.fragment = .ok text) ↔
      (¬ left.IsNull ∧ ¬ right.IsNull ∧ op ∉ [.multiply,.divide,.modulo,.coalesce]) ∨
      ((left.IsNull ∨ right.IsNull) ∧ (op = .eq ∨ op = .ne)) := by
  rw [join_ok_iff,first.null_iff,second.null_iff]

section Calls

variable {collation : Collation} {subject o : Operand}

def Operand.Measured (o : Operand) : Prop :=
  (∃ s, o.fragment.value = some (.scalar (.text s))) ∨
    (o.fragment.value = none ∧ '?' ∉ o.text.toList)

theorem Operand.measured_iff (o : Operand) (collation : Collation) :
    (∃ s, o.lengthText collation = .ok s) ↔ o.Measured := by
  constructor
  · rintro ⟨s,measured⟩
    rcases Operand.lengthText_ok measured with ⟨text,valued,_⟩ | ⟨unvalued,absent,_⟩
    · exact .inl ⟨text,valued⟩
    · exact .inr ⟨unvalued,absent⟩
  · rintro (⟨text,valued⟩ | ⟨unvalued,absent⟩)
    · exact ⟨_,by rw [Operand.lengthText,valued]⟩
    · exact ⟨"length(" ++ o.text ++ ")",by simp [Operand.lengthText,unvalued,absent]⟩

theorem Compiles.measured_iff {e : Expr} (compiled : Compiles m e o) :
    o.Measured ↔ e.Measurable m := by
  rw [Operand.Measured,Expr.Measurable,compiled.carried,compiled.mark_iff]

theorem startTest_ok_iff : (∃ ps, startTest collation subject o = .ok ps) ↔
    (collation.ignoresCase = false → o.Measured) := by
  rw [← o.measured_iff collation,startTest]
  cases collation.ignoresCase <;> simp [bind_ok]

theorem endTest_ok_iff : (∃ ps, endTest collation subject o = .ok ps) ↔
    (collation.ignoresCase = false → o.Measured) := by
  rw [← o.measured_iff collation,endTest]
  cases collation.ignoresCase <;> simp [bind_ok]

theorem pieces_ok_iff {method : Method} {whole : Option Operand} {rest : List Operand} :
    (∃ ps, method.pieces whole rest = .ok ps) ↔ method.Takes whole.isSome rest.length ∧
      (method.measures = true → ∀ o ∈ rest, o.Measured) := by
  rcases whole with _ | whole <;> rcases rest with _ | ⟨a,_ | ⟨b,_ | ⟨c,rest⟩⟩⟩ <;> cases method <;>
    simp [Method.pieces,Method.Takes,Method.measures,startTest_ok_iff,endTest_ok_iff]
  -- A list is searched in another way than a text, and neither can fail.
  split <;> exact ⟨_,rfl⟩

end Calls

theorem isSome_of_forall₂ {α β : Type} {R : α → β → Prop} {x : Option α} {y : Option β}
    (each : List.Forall₂ R x.toList y.toList) : y.isSome = x.isSome := by
  cases x <;> cases y <;> first | rfl | cases each

theorem measured_all {args : List Expr} {os : List Operand}
    (compiled : List.Forall₂ (Compiles m) args os) :
    (∀ o ∈ os, o.Measured) ↔ ∀ e ∈ args, e.Measurable m := by
  have some := exists_mem_iff compiled fun e _ o single => not_congr (Compiles.measured_iff single)
  simpa only [not_exists,not_and,not_not] using not_congr some

theorem call_accepted {method : Method} {receiver : Option Expr} {args : List Expr}
    {whole : Option Operand} {rest : List Operand}
    (first : List.Forall₂ (Compiles m) receiver.toList whole.toList)
    (second : List.Forall₂ (Compiles m) args rest) :
    (∃ ps, method.pieces whole rest = .ok ps) ↔ method.Takes receiver.isSome args.length ∧
      (method.measures = true → ∀ e ∈ args, e.Measurable m) := by
  rw [pieces_ok_iff,isSome_of_forall₂ first,second.length_eq,measured_all second]

theorem Compiles.accepted {e : Expr} {o : Operand} (compiled : Compiles m e o) : e.Accepted m := by
  induction e using Expr.induct generalizing o with
  | binary op left right first second =>
    obtain ⟨a,b,text,compiledLeft,compiledRight,joined,rfl⟩ := compiles_binary.mp compiled
    rcases (join_accepted compiledLeft compiledRight).mp ⟨text,joined⟩ with
      ⟨valuedLeft,valuedRight,spelled⟩ | ⟨null,equality⟩
    · exact .operation (first compiledLeft) (second compiledRight) valuedLeft valuedRight spelled
    · exact .nullTest (first compiledLeft) (second compiledRight) null equality
  | not operand ih =>
    obtain ⟨a,inner,_⟩ := compiles_not.mp compiled
    exact .not (ih inner)
  | call method receiver args first second =>
    obtain ⟨whole,rest,ps,compiledReceiver,compiledArgs,laid,_⟩ := compiles_call.mp compiled
    obtain ⟨takes,measured⟩ := (call_accepted compiledReceiver compiledArgs).mp ⟨ps,laid⟩
    refine .call (fun e present => ?_) (fun e present => ?_) takes measured
    · obtain ⟨o,single⟩ := exists_forall₂.mp ⟨_,compiledReceiver⟩ e present
      exact first e present single
    · obtain ⟨o,single⟩ := exists_forall₂.mp ⟨_,compiledArgs⟩ e present
      exact second e present single
  | constant value => exact .constant (compiles_constant.mp compiled).1
  | convert target operand ih =>
    obtain ⟨a,inner,outcome⟩ := compiles_convert.mp compiled
    refine .convert (ih inner) fun value carried => ?_
    have valued := inner.carried.trans carried
    obtain ⟨none,_⟩ | ⟨v,w,found,coerced,_⟩ := outcome
    · exact absurd (none.symm.trans valued) (by simp)
    · cases found.symm.trans valued
      exact ⟨w,coerced⟩
  | member receiver field =>
    by_cases record : receiver = .parameter
    · subst record
      obtain ⟨column,found,_⟩ := compiles_field.mp compiled
      exact .field (Mapping.fieldColumn_ok.mp found)
    · obtain ⟨owner,value,evaluated,read,bindable,_⟩ := (compiles_member record).mp compiled
      obtain ⟨fields,rfl,found⟩ := Captured.readField_ok.mp read
      exact .captured evaluated found bindable
  | parameter => exact (compiles_parameter compiled).elim

theorem Expr.Accepted.compiles {e : Expr} (accepted : e.Accepted m) : ∃ o, Compiles m e o := by
  induction accepted with
  | constant bindable => exact ⟨⟨⟨_,_⟩,_⟩,compiles_constant.mpr ⟨bindable,rfl⟩⟩
  | field found => exact ⟨_,compiles_field.mpr ⟨_,Mapping.fieldColumn_ok.mpr found,rfl⟩⟩
  | @captured receiver field fields value args evaluated found bindable =>
    have record : receiver ≠ .parameter := (Expr.captures_of_evaluate evaluated).ne_parameter
    exact ⟨⟨⟨_,_⟩,_⟩,(compiles_member record).mpr
      ⟨_,value,evaluated,Captured.readField_ok.mpr ⟨fields,rfl,found⟩,bindable,rfl⟩⟩
  | not _ ih =>
    obtain ⟨a,inner⟩ := ih
    exact ⟨_,compiles_not.mpr ⟨a,inner,rfl⟩⟩
  | convert _ coercible ih =>
    obtain ⟨a,inner⟩ := ih
    cases valued : a.fragment.value with
    | none => exact ⟨a,compiles_convert.mpr ⟨a,inner,.inl ⟨valued,rfl⟩⟩⟩
    | some v =>
      obtain ⟨w,coerced⟩ := coercible v (inner.carried.symm.trans valued)
      exact ⟨_,compiles_convert.mpr ⟨a,inner,.inr ⟨v,w,valued,coerced,rfl⟩⟩⟩
  | @operation op left right _ _ valuedLeft valuedRight spelled first second =>
    obtain ⟨a,compiledLeft⟩ := first
    obtain ⟨b,compiledRight⟩ := second
    obtain ⟨text,joined⟩ := (join_accepted compiledLeft compiledRight).mpr
      (.inl ⟨valuedLeft,valuedRight,spelled⟩)
    exact ⟨_,compiles_binary.mpr ⟨a,b,text,compiledLeft,compiledRight,joined,rfl⟩⟩
  | @nullTest op left right _ _ null equality first second =>
    obtain ⟨a,compiledLeft⟩ := first
    obtain ⟨b,compiledRight⟩ := second
    obtain ⟨text,joined⟩ := (join_accepted compiledLeft compiledRight).mpr (.inr ⟨null,equality⟩)
    exact ⟨_,compiles_binary.mpr ⟨a,b,text,compiledLeft,compiledRight,joined,rfl⟩⟩
  | @call method receiver args _ _ takes measured first second =>
    obtain ⟨whole,compiledReceiver⟩ : ∃ whole : Option Operand,
        List.Forall₂ (Compiles m) receiver.toList whole.toList := by
      cases receiver with
      | none => exact ⟨none,.nil⟩
      | some e =>
        obtain ⟨o,single⟩ := first e (by simp)
        exact ⟨some o,.cons single .nil⟩
    obtain ⟨rest,compiledArgs⟩ := exists_forall₂.mpr second
    obtain ⟨ps,laid⟩ := (call_accepted compiledReceiver compiledArgs).mpr ⟨takes,measured⟩
    exact ⟨_,compiles_call.mpr ⟨whole,rest,ps,compiledReceiver,compiledArgs,laid,rfl⟩⟩

-- A condition compiles exactly when it is of the accepted kinds; and then the value that it
-- stands for, whether it is null, and the marks in its text are those that it shows itself.
theorem compile_accepts (m : Mapping) (e : Expr) (pre : List Value) :
    ((∃ f after, (e.compile m).runFrom pre = (.ok f,after)) ↔ e.Accepted m) ∧
    ∀ f after, (e.compile m).runFrom pre = (.ok f,after) → f.value = e.carried ∧
      (f.isNullPlaceholder = true ↔ e.IsNull) ∧ ('?' ∈ f.text.toList ↔ e.Marked m) := by
  refine ⟨⟨?_,?_⟩,?_⟩
  · rintro ⟨f,after,compiled⟩
    obtain ⟨args,compiled,_⟩ := compiles_of_runFrom compiled
    exact compiled.accepted
  · intro accepted
    obtain ⟨o,compiled⟩ := accepted.compiles
    exact ⟨o.fragment,pre ++ o.args,compiled.runFrom pre⟩
  · intro f after compiled
    obtain ⟨args,compiled,_⟩ := compiles_of_runFrom compiled
    exact ⟨compiled.carried,compiled.null_iff,compiled.mark_iff⟩

def agelessOrAlike : Expr :=
  .binary .or (.binary .eq (.convert .integer (.member (.constant (.object [("age",.scalar .null)])) "age"))
    (.field "age")) (.startsWith (.field "name") (.toLower (.field "name")) .ordinal)

theorem compile_accepts_agelessOrAlike : agelessOrAlike.Accepted person ∧
    agelessOrAlike.carried = none ∧ ¬ agelessOrAlike.IsNull ∧ agelessOrAlike.Marked person := by
  have compiled : (agelessOrAlike.compile person).runFrom [.int 1] =
      (.ok ⟨"((\"Age\" is ?) or (substr(\"Name\", 1, length((lower(\"Name\")))) = (lower(\"Name\"))))",
        none⟩,[.int 1,.null]) := by rfl
  obtain ⟨accepts,told⟩ := compile_accepts person agelessOrAlike [.int 1]
  obtain ⟨value,null,mark⟩ := told _ _ compiled
  exact ⟨accepts.mp ⟨_,_,compiled⟩,value.symm,null.not.mp (by decide),mark.mp (by decide)⟩

end TypedRows
