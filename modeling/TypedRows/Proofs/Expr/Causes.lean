import TypedRows.Proofs.Expr.Nodes

namespace TypedRows

-- What a condition is refused for: something that it says, or a value that has no form in the
-- type it is converted to. All other causes belong to queries, records and databases.

inductive Error.OfCondition : Error → Prop where
  | compile (cause : CompileError) : OfCondition (.compile cause)
  | conversion (cause : ConversionError) : OfCondition (.conversion cause)

variable {m : Mapping} {α γ : Type}

def Explained (outcome : Except Error α) : Prop := ∀ cause, outcome = .error cause → cause.OfCondition

namespace Explained

theorem ok (a : α) : Explained (.ok a) := fun _ absurd => by cases absurd

theorem error {cause : Error} (told : cause.OfCondition) :
    Explained (.error cause : Except Error α) := by
  rintro _ ⟨⟩
  exact told

theorem of_compile {outcome : Except Error α}
    (told : ∀ cause, outcome = .error cause → ∃ said, cause = .compile said) :
    Explained outcome := by
  intro cause refused
  obtain ⟨said,rfl⟩ := told cause refused
  exact .compile said

theorem bind {first : Except Error α} {next : α → Except Error γ} (explained : Explained first)
    (rest : ∀ a, Explained (next a)) : Explained (first >>= next) := by
  cases first with
  | error cause => exact error (explained cause rfl)
  | ok a => exact rest a

theorem map {first : Except Error α} (f : α → γ) (explained : Explained first) :
    Explained (first.map f) := by
  cases first with
  | error cause => exact error (explained cause rfl)
  | ok a => exact ok (f a)

end Explained

-- Steps that are refused for nothing else, whatever is bound already.
def Step.Explained (b : Binding α) : Prop := ∀ pre, TypedRows.Explained (b.runFrom pre).1

namespace Step.Explained

theorem pure (a : α) : Step.Explained (pure a) := fun _ => .ok a

theorem ofExcept {outcome : Except Error α} (explained : TypedRows.Explained outcome) :
    Step.Explained (Step.ofExcept outcome) := fun _ => explained

theorem append (vs : List Value) : Step.Explained (TypedRows.append vs) := fun _ => .ok ()

theorem throw (cause : CompileError) : Step.Explained (throw (.compile cause) : Binding α) :=
  fun _ => .error (.compile cause)

theorem cause {b : Binding α} {pre after : List Value} {e : Error} (explained : Step.Explained b)
    (ran : b.runFrom pre = (.error e,after)) : e.OfCondition := explained pre e (by rw [ran])

theorem bind {b : Binding α} {next : α → Binding γ} (first : Step.Explained b)
    (rest : ∀ a, Step.Explained (next a)) : Step.Explained (b >>= next) := by
  intro pre
  rw [Step.runFrom_bind]
  rcases ran : b.runFrom pre with ⟨cause | a,after⟩
  · exact .error (first.cause ran)
  · exact rest a after

end Step.Explained

theorem Value.coerce_explained (v : Value) (target : ValueType) : Explained (v.coerce target) := by
  unfold Value.coerce
  split
  · exact .ok _
  · exact .error (.conversion _)

namespace Captured

mutual

theorem coerce_explained (target : ValueType) : ∀ value : Captured,
    Explained (value.coerce target)
  | .scalar v => (v.coerce_explained target).map _
  | .list items => (coerceItems_explained target items).map _
  | .object _ => .error (.conversion _)

theorem coerceItems_explained (target : ValueType) : ∀ items : List Captured,
    Explained (coerceItems target items)
  | [] => .ok []
  | item :: rest =>
      .bind (coerce_explained target item) fun _ => .bind (coerceItems_explained target rest)
        fun _ => .ok _

end

-- Reading a field and binding a value never convert anything.

theorem readField_error {owner : Captured} {field : String} {cause : Error}
    (refused : owner.readField field = .error cause) : ∃ said, cause = .compile said := by
  unfold readField at refused
  split at refused
  · split at refused <;> cases refused
    exact ⟨_,rfl⟩
  · cases refused
    exact ⟨_,rfl⟩

theorem bindItems_error {items : List Captured} {pre : List Value} {cause : Error}
    (refused : ((bindItems items).runFrom pre).1 = .error cause) : ∃ said, cause = .compile said := by
  induction items generalizing pre with
  | nil => cases refused
  | cons item rest ih =>
    cases item with
    | scalar v =>
      have first : (append [v]).runFrom pre = (.ok (),pre ++ [v]) := rfl
      rw [bindItems,Step.runFrom_bind_ok first] at refused
      exact ih refused
    | list items => cases refused; exact ⟨_,rfl⟩
    | object fields => cases refused; exact ⟨_,rfl⟩

theorem bound_error {value : Captured} {pre : List Value} {cause : Error}
    (refused : (value.bound.runFrom pre).1 = .error cause) : ∃ said, cause = .compile said := by
  cases value with
  | scalar v => cases refused
  | object fields => cases refused; exact ⟨_,rfl⟩
  | list items =>
    simp only [Captured.bound,Step.runFrom_bind] at refused
    rcases ran : (bindItems items).runFrom pre with ⟨e | _,xs⟩
    · rw [ran] at refused
      cases refused
      exact bindItems_error (congrArg Prod.fst ran)
    · simp [ran] at refused

theorem readField_explained (owner : Captured) (field : String) :
    Explained (owner.readField field) := .of_compile fun _ => readField_error

theorem bound_explained (value : Captured) : Step.Explained value.bound :=
  fun _ => .of_compile fun _ => bound_error

end Captured

theorem Expr.evaluate_explained (e : Expr) : Explained e.evaluate := by
  induction e using Expr.induct with
  | constant value => exact .ok value
  | convert target operand ih => exact ih.bind fun value => value.coerce_explained target
  | member receiver field ih =>
    by_cases record : receiver = .parameter
    · subst record
      exact .error (.compile _)
    · rw [evaluate_member record]
      exact ih.bind fun owner => owner.readField_explained field
  | _ => exact .error (.compile _)

theorem Fragment.converted_explained (target : ValueType) (start : Nat) (f : Fragment) :
    Step.Explained (f.converted target start) := by
  unfold Fragment.converted
  split
  · exact .pure f
  · rename_i value _
    refine (Step.Explained.ofExcept (value.coerce_explained target)).bind fun value => ?_
    split
    · exact fun _ => .ok _
    · exact .pure _

theorem Mapping.fieldColumn_explained (m : Mapping) (field : String) :
    Explained (m.fieldColumn field) := by
  unfold Mapping.fieldColumn
  split
  · exact .ok _
  · exact .error (.compile _)

theorem Operator.join_explained (op : Operator) (left right : Fragment) :
    Explained (op.join left right) := by
  have nullComparison (other : Fragment) : Explained (nullComparison op other) := by
    unfold TypedRows.nullComparison
    split <;> first | exact .ok _ | exact .error (.compile _)
  unfold Operator.join
  split
  · exact nullComparison right
  · split
    · exact nullComparison left
    · split
      · exact .ok _
      · exact .error (.compile _)

theorem Operand.lengthText_explained (o : Operand) (collation : Collation) :
    Explained (o.lengthText collation) := by
  unfold Operand.lengthText
  split
  · exact .ok _
  · split
    · exact .error (.compile _)
    · exact .ok _
  · exact .error (.compile _)

theorem Method.pieces_explained (method : Method) (whole : Option Operand) (rest : List Operand) :
    Explained (method.pieces whole rest) := by
  unfold Method.pieces
  split
  case h_4 => split <;> exact .ok _
  case h_5 =>
    unfold startTest
    split
    · exact .ok _
    · exact (Operand.lengthText_explained _ _).bind fun _ => .ok _
  case h_6 =>
    unfold endTest
    split
    · exact .ok _
    · exact (Operand.lengthText_explained _ _).bind fun _ => .ok _
  all_goals first | exact .ok _ | exact .error (.compile _)

theorem Expr.operands_explained {args : List Expr}
    (each : ∀ e ∈ args, Step.Explained (e.compile m)) : Explained (Expr.operands m args) := by
  induction args with
  | nil => exact .ok []
  | cons e rest ih =>
    unfold Expr.operands
    split
    · exact (ih fun e present => each e (List.mem_cons_of_mem _ present)).map _
    · rename_i cause _ ran
      exact .error ((each e List.mem_cons_self).cause ran)

theorem Expr.receiverOperand_explained {receiver : Option Expr}
    (each : ∀ e ∈ receiver.toList, Step.Explained (e.compile m)) :
    Explained (Expr.receiverOperand m receiver) := by
  cases receiver with
  | none => exact .ok none
  | some e =>
    unfold Expr.receiverOperand
    split
    · exact .ok _
    · rename_i cause _ ran
      exact .error ((each e (by simp)).cause ran)

theorem Expr.compile_explained (e : Expr) : Step.Explained (e.compile m) := by
  induction e using Expr.induct with
  | binary op left right first second =>
    exact first.bind fun _ => second.bind fun _ =>
      (Step.Explained.ofExcept (op.join_explained _ _)).bind fun _ => .pure _
  | not operand ih => exact ih.bind fun _ => .pure _
  | call method receiver args first second =>
    exact (Step.Explained.ofExcept (Expr.receiverOperand_explained first)).bind fun _ =>
      (Step.Explained.ofExcept (Expr.operands_explained second)).bind fun _ =>
      (Step.Explained.ofExcept (method.pieces_explained _ _)).bind fun _ =>
      (Step.Explained.append _).bind fun _ => .pure _
  | constant value => exact value.bound_explained
  | convert target operand ih =>
    exact Step.Explained.bind (fun _ => .ok _) fun _ => ih.bind fun f => f.converted_explained target _
  | member receiver field =>
    cases receiver with
    | parameter =>
      exact (Step.Explained.ofExcept (m.fieldColumn_explained field)).bind fun _ => .pure _
    | _ =>
      exact (Step.Explained.ofExcept (Expr.evaluate_explained _)).bind fun owner =>
        (Step.Explained.ofExcept (owner.readField_explained field)).bind fun value =>
          value.bound_explained
  | parameter => exact .throw _

end TypedRows
