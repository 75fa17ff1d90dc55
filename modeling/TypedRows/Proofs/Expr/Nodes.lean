import Mathlib.Data.List.Forall2
import TypedRows.Expr.Compile
import TypedRows.Proofs.Steps

namespace TypedRows

-- What the compilation of a condition does at each kind of node, from an empty list of
-- arguments; and why the arguments bound before do not matter.

theorem Expr.induct {P : Expr → Prop}
    (binary : ∀ op left right, P left → P right → P (.binary op left right))
    (not : ∀ operand, P operand → P (.not operand))
    (call : ∀ method receiver args, (∀ e ∈ receiver.toList, P e) → (∀ e ∈ args, P e) →
      P (.call method receiver args))
    (constant : ∀ value, P (.constant value))
    (convert : ∀ target operand, P operand → P (.convert target operand))
    (member : ∀ receiver field, P receiver → P (.member receiver field))
    (parameter : P .parameter) (e : Expr) : P e := by
  refine @Expr.rec P (fun receiver => ∀ e ∈ receiver.toList, P e) (fun args => ∀ e ∈ args, P e)
    binary not ?_ constant convert ?_ parameter ?_ ?_ ?_ ?_ e
  · exact fun method receiver args first rest => call method receiver args first rest
  · exact fun receiver field ih => member receiver field ih
  · simp
  · intro receiver ih e present
    simp only [Option.toList_some,List.mem_singleton] at present
    exact present ▸ ih
  · simp
  · intro head tail first rest e present
    rcases List.mem_cons.mp present with rfl | later
    · exact first
    · exact rest e later

-- The fragment of a condition with the arguments that it binds, where none are bound before.
def Compiles (m : Mapping) (e : Expr) (o : Operand) : Prop :=
  (e.compile m).runFrom [] = (.ok o.fragment,o.args)

theorem exists_forall₂ {α β : Type} {R : α → β → Prop} {xs : List α} :
    (∃ ys, List.Forall₂ R xs ys) ↔ ∀ x ∈ xs, ∃ y, R x y := by
  induction xs with
  | nil => simp
  | cons x rest ih =>
    rw [List.forall_mem_cons,← ih]
    constructor
    · rintro ⟨_,each⟩
      cases each with
      | cons first later => exact ⟨⟨_,first⟩,_,later⟩
    · rintro ⟨⟨y,first⟩,ys,later⟩
      exact ⟨y :: ys,.cons first later⟩

-- What matches the receiver and the arguments of a call one for one.
section

variable {α β : Type} {R : α → β → Prop} {x x' : α} {y : Option β} {ys : List β}

theorem none_of_forall₂ (each : List.Forall₂ R (none : Option α).toList y.toList) : y = none := by
  cases y with
  | none => rfl
  | some b => cases each

theorem some_of_forall₂ (each : List.Forall₂ R (some x).toList y.toList) :
    ∃ b, y = some b ∧ R x b := by
  cases y with
  | none => cases each
  | some b => exact ⟨b,rfl,(List.forall₂_cons.mp each).1⟩

theorem one_of_forall₂ (each : List.Forall₂ R [x] ys) : ∃ b, ys = [b] ∧ R x b := by
  obtain ⟨b,_,first,rest,rfl⟩ := List.forall₂_cons_left_iff.mp each
  cases rest
  exact ⟨b,rfl,first⟩

theorem two_of_forall₂ (each : List.Forall₂ R [x,x'] ys) :
    ∃ b b', ys = [b,b'] ∧ R x b ∧ R x' b' := by
  obtain ⟨b,_,first,rest,rfl⟩ := List.forall₂_cons_left_iff.mp each
  obtain ⟨b',rfl,second⟩ := one_of_forall₂ rest
  exact ⟨b,b',rfl,first,second⟩

end

theorem operands_ok {m : Mapping} {args : List Expr} {os : List Operand} :
    Expr.operands m args = .ok os ↔ List.Forall₂ (Compiles m) args os := by
  induction args generalizing os with
  | nil => simp [Expr.operands,eq_comm]
  | cons e rest ih =>
    rw [List.forall₂_cons_left_iff]
    simp only [Expr.operands,Compiles,← ih]
    rcases (e.compile m).runFrom [] with ⟨cause | fragment,args⟩
    · simp
    · cases Expr.operands m rest with
      | error cause => simp [Except.map]
      | ok others =>
        constructor
        · intro same
          cases same
          exact ⟨⟨fragment,args⟩,others,rfl,rfl,rfl⟩
        · rintro ⟨⟨f,xs⟩,tail,first,same,rfl⟩
          cases first
          cases same
          rfl

theorem receiverOperand_ok {m : Mapping} {receiver : Option Expr} {o : Option Operand} :
    Expr.receiverOperand m receiver = .ok o ↔
      List.Forall₂ (Compiles m) receiver.toList o.toList := by
  cases receiver with
  | none => cases o <;> simp [Expr.receiverOperand]
  | some e =>
    simp only [Expr.receiverOperand,Option.toList_some,List.forall₂_cons_left_iff,
      List.forall₂_nil_left_iff,Compiles]
    rcases (e.compile m).runFrom [] with ⟨cause | fragment,args⟩
    · simp
    · cases o with
      | none => simp
      | some o => obtain ⟨f,xs⟩ := o; simp

-- Steps that only ever append to the arguments, whatever is bound already.
def Framed {α : Type} (b : Binding α) : Prop :=
  ∀ pre, b.runFrom pre = ((b.runFrom []).1,pre ++ (b.runFrom []).2)

namespace Framed

variable {α γ : Type}

theorem pure (a : α) : Framed (pure a) := fun pre => by simp

theorem throw (e : Error) : Framed (throw e : Binding α) := fun pre => by simp

theorem ofExcept (outcome : Except Error α) : Framed (Step.ofExcept outcome) := fun pre => by simp

theorem append (vs : List Value) : Framed (append vs) := fun pre => by
  simp [TypedRows.append]

theorem bind {b : Binding α} {next : α → Binding γ} (first : Framed b)
    (rest : ∀ a, Framed (next a)) : Framed (b >>= next) := by
  intro pre
  rw [Step.runFrom_bind,Step.runFrom_bind,first pre]
  rcases b.runFrom [] with ⟨e | a,xs⟩
  · rfl
  · simp only [rest a (pre ++ xs),rest a xs,List.append_assoc]

end Framed

theorem bindItems_framed (items : List Captured) : Framed (bindItems items) := by
  induction items with
  | nil => exact .pure ()
  | cons item rest ih =>
    cases item with
    | scalar v => exact (Framed.append [v]).bind fun _ => ih
    | list items => exact .throw _
    | object fields => exact .throw _

theorem bound_framed (value : Captured) : Framed value.bound := by
  cases value with
  | scalar v => exact (Framed.append [v]).bind fun _ => .pure _
  | list items => exact (bindItems_framed items).bind fun _ => .pure _
  | object fields => exact .throw _

theorem converted_framed (target : ValueType) (f : Fragment) (pre xs : List Value) :
    (f.converted target pre.length).runFrom (pre ++ xs) =
      (((f.converted target 0).runFrom xs).1,pre ++ ((f.converted target 0).runFrom xs).2) := by
  unfold Fragment.converted
  cases f.value with
  | none => simp
  | some value =>
    simp only [Step.runFrom_bind,Step.runFrom_ofExcept]
    cases value.coerce target with
    | error cause => rfl
    | ok value =>
      by_cases bare : isPlaceholderForm f.text.toList = true
      · simp [bare,Except.map]
      · simp [bare]

theorem compile_framed (m : Mapping) (e : Expr) : Framed (e.compile m) := by
  induction e using Expr.induct with
  | binary op left right first second =>
    exact first.bind fun _ => second.bind fun _ => (Framed.ofExcept _).bind fun _ => .pure _
  | not operand ih => exact ih.bind fun _ => .pure _
  | call method receiver args =>
    exact (Framed.ofExcept _).bind fun _ => (Framed.ofExcept _).bind fun _ =>
      (Framed.ofExcept _).bind fun _ => (Framed.append _).bind fun _ => .pure _
  | constant value => exact bound_framed value
  | convert target operand ih =>
    intro pre
    simp only [Expr.compile,Step.runFrom_bind,Step.runFrom_get,ih pre]
    rcases (operand.compile m).runFrom [] with ⟨cause | fragment,xs⟩
    · rfl
    · exact converted_framed target fragment pre xs
  | member receiver field =>
    cases receiver with
    | parameter => exact (Framed.ofExcept _).bind fun _ => .pure _
    | _ => exact (Framed.ofExcept _).bind fun _ => (Framed.ofExcept _).bind fun _ => bound_framed _
  | parameter => exact .throw _

theorem compiles_of_runFrom {m : Mapping} {e : Expr} {pre after : List Value} {f : Fragment}
    (compiled : (e.compile m).runFrom pre = (.ok f,after)) :
    ∃ args, Compiles m e ⟨f,args⟩ ∧ after = pre ++ args := by
  rw [compile_framed m e pre,Prod.mk.injEq] at compiled
  exact ⟨_,Prod.ext compiled.1 rfl,compiled.2.symm⟩

theorem Compiles.runFrom {m : Mapping} {e : Expr} {o : Operand} (compiled : Compiles m e o)
    (pre : List Value) : (e.compile m).runFrom pre = (.ok o.fragment,pre ++ o.args) := by
  rw [compile_framed m e pre,compiled]

inductive Captured.Bindable : Captured → List Value → Prop where
  | scalar (v : Value) : Bindable (.scalar v) [v]
  | list (vs : List Value) : Bindable (.list (vs.map .scalar)) vs

def Captured.placeholder : Captured → String
  | .list items => placeholders items.length
  | _ => "?"

theorem bindItems_ok {items : List Captured} {xs : List Value} :
    (bindItems items).runFrom [] = (.ok (),xs) ↔ items = xs.map .scalar := by
  induction items generalizing xs with
  | nil => cases xs <;> simp [bindItems]
  | cons item rest ih =>
    cases item with
    | scalar v =>
      have first : (append [v]).runFrom [] = (.ok (),[v]) := rfl
      rw [bindItems,Step.runFrom_bind_ok first,bindItems_framed rest [v]]
      cases xs with
      | nil => simp
      | cons x xs =>
        simp only [List.singleton_append,List.cons.injEq,List.map_cons,
          Captured.scalar.injEq,← ih,Prod.ext_iff]
        tauto
    | list items => cases xs <;> simp [bindItems]
    | object fields => cases xs <;> simp [bindItems]

theorem bound_ok {value : Captured} {o : Operand} :
    value.bound.runFrom [] = (.ok o.fragment,o.args) ↔
      value.Bindable o.args ∧ o.fragment = ⟨value.placeholder,some value⟩ := by
  obtain ⟨f,xs⟩ := o
  cases value with
  | scalar v =>
    constructor
    · intro same
      cases same
      exact ⟨.scalar v,rfl⟩
    · rintro ⟨⟨⟩,rfl⟩
      rfl
  | list items =>
    simp only [Captured.bound,Step.runFrom_bind,Captured.placeholder]
    constructor
    · intro ran
      cases found : (bindItems items).runFrom [] with
      | mk outcome ys =>
        cases outcome with
        | error e => simp [found] at ran
        | ok u =>
          simp only [found,Step.runFrom_pure,Prod.mk.injEq,Except.ok.injEq] at ran
          obtain ⟨rfl,rfl⟩ := ran
          cases bindItems_ok.mp found
          exact ⟨.list ys,rfl⟩
    · rintro ⟨bindable,rfl⟩
      cases bindable with
      | list => rw [bindItems_ok.mpr rfl]; rfl
  | object fields => simp [Captured.bound]; rintro ⟨⟩

theorem compiles_binary {m : Mapping} {op : Operator} {left right : Expr} {o : Operand} :
    Compiles m (.binary op left right) o ↔ ∃ a b text, Compiles m left a ∧ Compiles m right b ∧
      op.join a.fragment b.fragment = .ok text ∧ o = ⟨.plain text,a.args ++ b.args⟩ := by
  obtain ⟨f,xs⟩ := o
  simp only [Compiles,Expr.compile,Step.runFrom_bind,Step.runFrom_ofExcept]
  constructor
  · intro ran
    rcases first : (left.compile m).runFrom [] with ⟨cause | a,as⟩
    · simp [first] at ran
    · rw [first] at ran
      simp only [compile_framed m right as] at ran
      rcases second : (right.compile m).runFrom [] with ⟨cause | b,bs⟩
      · simp [second] at ran
      · simp only [second] at ran
        cases joined : op.join a b with
        | error cause => simp [joined] at ran
        | ok text =>
          simp only [joined,Step.runFrom_pure,Prod.mk.injEq,Except.ok.injEq] at ran
          exact ⟨⟨a,as⟩,⟨b,bs⟩,text,rfl,rfl,joined,by rw [← ran.1,← ran.2]⟩
  · rintro ⟨⟨a,as⟩,⟨b,bs⟩,text,first,second,joined,same⟩
    cases same
    simp [first,compile_framed m right as,second,joined]

theorem compiles_not {m : Mapping} {operand : Expr} {o : Operand} :
    Compiles m (.not operand) o ↔
      ∃ a, Compiles m operand a ∧ o = ⟨a.fragment.negated,a.args⟩ := by
  obtain ⟨f,xs⟩ := o
  simp only [Compiles,Expr.compile,Step.runFrom_bind]
  constructor
  · intro ran
    rcases first : (operand.compile m).runFrom [] with ⟨cause | a,as⟩
    · simp [first] at ran
    · simp only [first,Step.runFrom_pure,Prod.mk.injEq,Except.ok.injEq] at ran
      exact ⟨⟨a,as⟩,rfl,by rw [← ran.1,← ran.2]⟩
  · rintro ⟨⟨a,as⟩,first,same⟩
    cases same
    simp [first]

theorem compiles_call {m : Mapping} {method : Method} {receiver : Option Expr} {args : List Expr}
    {o : Operand} :
    Compiles m (.call method receiver args) o ↔ ∃ whole rest pieces,
      List.Forall₂ (Compiles m) receiver.toList whole.toList ∧
      List.Forall₂ (Compiles m) args rest ∧ method.pieces whole rest = .ok pieces ∧
      o = ⟨.plain (Piece.joined pieces),Piece.allArgs pieces⟩ := by
  obtain ⟨f,xs⟩ := o
  simp only [Compiles,Expr.compile,Step.runFrom_bind,Step.runFrom_ofExcept,append]
  constructor
  · intro ran
    cases first : Expr.receiverOperand m receiver with
    | error cause => simp [first] at ran
    | ok whole =>
      cases second : Expr.operands m args with
      | error cause => simp [first,second] at ran
      | ok rest =>
        cases laid : method.pieces whole rest with
        | error cause => simp [first,second,laid] at ran
        | ok pieces =>
          simp only [first,second,laid,Step.runFrom_modify,Step.runFrom_pure,List.nil_append,
            Prod.mk.injEq,Except.ok.injEq] at ran
          exact ⟨whole,rest,pieces,receiverOperand_ok.mp first,operands_ok.mp second,laid,
            by rw [← ran.1,← ran.2]⟩
  · rintro ⟨whole,rest,pieces,first,second,laid,same⟩
    cases same
    simp [receiverOperand_ok.mpr first,operands_ok.mpr second,laid]

theorem compiles_constant {m : Mapping} {value : Captured} {o : Operand} :
    Compiles m (.constant value) o ↔
      value.Bindable o.args ∧ o.fragment = ⟨value.placeholder,some value⟩ := bound_ok

-- An operand with a value has that value converted; its arguments are rewritten where it is
-- nothing but placeholders.
theorem compiles_convert {m : Mapping} {target : ValueType} {operand : Expr} {o : Operand} :
    Compiles m (.convert target operand) o ↔ ∃ a, Compiles m operand a ∧
      ((a.fragment.value = none ∧ o = a) ∨ ∃ v w, a.fragment.value = some v ∧
        v.coerce target = .ok w ∧ o = ⟨{a.fragment with value := some w},
          if isPlaceholderForm a.text.toList then rebound w a.args else a.args⟩) := by
  obtain ⟨f,xs⟩ := o
  simp only [Compiles,Expr.compile,Step.runFrom_bind,Step.runFrom_get,List.length_nil]
  constructor
  · intro ran
    rcases first : (operand.compile m).runFrom [] with ⟨cause | a,as⟩
    · simp [first] at ran
    · refine ⟨⟨a,as⟩,rfl,?_⟩
      simp only [first,Fragment.converted] at ran
      cases valued : a.value with
      | none => simp only [valued,Step.runFrom_pure,Prod.mk.injEq,Except.ok.injEq] at ran; simp [ran]
      | some v =>
        simp only [valued,Step.runFrom_bind,Step.runFrom_ofExcept] at ran
        cases coerced : v.coerce target with
        | error cause => simp [coerced] at ran
        | ok w =>
          refine .inr ⟨v,w,rfl,coerced,?_⟩
          by_cases bare : isPlaceholderForm a.text.toList = true <;>
            simp_all [Operand.text,Except.map]
  · rintro ⟨⟨a,as⟩,first,⟨absent,same⟩ | ⟨v,w,valued,coerced,same⟩⟩
    · cases same
      simp_all [Fragment.converted]
    · cases same
      by_cases bare : isPlaceholderForm a.text.toList = true <;>
        simp_all [Fragment.converted,Operand.text,Except.map]

theorem Mapping.fieldColumn_ok {m : Mapping} {field : String} {column : Column} :
    m.fieldColumn field = .ok column ↔ m.byProperty? field = some column := by
  unfold Mapping.fieldColumn
  cases m.byProperty? field <;> simp

theorem Captured.readField_ok {owner value : Captured} {field : String} :
    owner.readField field = .ok value ↔
      ∃ fields, owner = .object fields ∧ Fields.get? field fields = some value := by
  cases owner with
  | object fields =>
    simp only [Captured.readField]
    cases found : Fields.get? field fields <;> simp [found]
  | _ => simp [Captured.readField]

theorem compiles_field {m : Mapping} {field : String} {o : Operand} :
    Compiles m (.member .parameter field) o ↔ ∃ column, m.fieldColumn field = .ok column ∧
      o = ⟨.plain (quotedName column.name),[]⟩ := by
  obtain ⟨f,xs⟩ := o
  simp only [Compiles,Expr.compile,Step.runFrom_bind,Step.runFrom_ofExcept]
  cases m.fieldColumn field with
  | error cause => simp
  | ok column => simp [eq_comm]

theorem evaluate_member {receiver : Expr} {field : String} (captured : receiver ≠ .parameter) :
    (Expr.member receiver field).evaluate = (do (← receiver.evaluate).readField field) := by
  cases receiver with
  | parameter => exact absurd rfl captured
  | _ => rfl

theorem compile_member {m : Mapping} {receiver : Expr} {field : String}
    (captured : receiver ≠ .parameter) :
    (Expr.member receiver field).compile m = (do
      let owner ← Step.ofExcept receiver.evaluate
      (← Step.ofExcept (owner.readField field)).bound) := by
  cases receiver with
  | parameter => exact absurd rfl captured
  | _ => rfl

theorem compiles_member {m : Mapping} {receiver : Expr} {field : String} {o : Operand}
    (captured : receiver ≠ .parameter) :
    Compiles m (.member receiver field) o ↔ ∃ owner value, receiver.evaluate = .ok owner ∧
      owner.readField field = .ok value ∧ value.Bindable o.args ∧
      o.fragment = ⟨value.placeholder,some value⟩ := by
  simp only [Compiles,compile_member captured,Step.runFrom_bind,Step.runFrom_ofExcept]
  cases receiver.evaluate with
  | error cause => simp
  | ok owner =>
    cases read : owner.readField field with
    | error cause => simp [read]
    | ok value => simp [read,bound_ok]

theorem compiles_parameter {m : Mapping} {o : Operand} : ¬ Compiles m .parameter o := by
  simp [Compiles,Expr.compile]

end TypedRows
