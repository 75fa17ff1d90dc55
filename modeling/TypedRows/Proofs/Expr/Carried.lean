import TypedRows.Proofs.Expr.Evaluation

namespace TypedRows

-- What can be told of a compiled condition from the condition alone: the value that it stands
-- for, and whether there is a `?` in its text.

variable {m : Mapping}

def Captured.negated : Captured → Captured
  | .scalar (.bool b) => .scalar (.bool !b)
  | value => value

theorem Fragment.negated_value (f : Fragment) : f.negated.value = f.value.map Captured.negated := by
  obtain ⟨text,value⟩ := f
  unfold negated Captured.negated
  rcases value with _ | (v | items | fields)
  · rfl
  · cases v <;> rfl
  · rfl
  · rfl

-- A negation stands for a value too, where its operand does. Comparisons and calls do not.
def Expr.carried : Expr → Option Captured
  | .constant value => some value
  | .member receiver field => (Expr.member receiver field).evaluate.toOption
  | .not operand => operand.carried.map Captured.negated
  | .convert target operand => operand.carried.bind fun value => (value.coerce target).toOption
  | _ => none

theorem Compiles.carried {e : Expr} {o : Operand} (compiled : Compiles m e o) :
    o.fragment.value = e.carried := by
  induction e using Expr.induct generalizing o with
  | binary op left right =>
    obtain ⟨_,_,text,_,_,_,rfl⟩ := compiles_binary.mp compiled
    rfl
  | not operand ih =>
    obtain ⟨a,inner,rfl⟩ := compiles_not.mp compiled
    rw [Fragment.negated_value,ih inner,Expr.carried]
  | call method receiver args =>
    obtain ⟨_,_,pieces,_,_,_,rfl⟩ := compiles_call.mp compiled
    rfl
  | constant value => rw [(compiles_constant.mp compiled).2,Expr.carried]
  | convert target operand ih =>
    obtain ⟨a,inner,⟨none,rfl⟩ | ⟨v,w,valued,coerced,rfl⟩⟩ := compiles_convert.mp compiled
    · rw [Expr.carried,← ih inner,none]
      rfl
    · rw [Expr.carried,← ih inner,valued,Option.bind_some,coerced]
      rfl
  | member receiver field =>
    by_cases record : receiver = .parameter
    · subst record
      obtain ⟨column,_,rfl⟩ := compiles_field.mp compiled
      rfl
    · obtain ⟨value,read,_,fragment⟩ := (compiles_evaluated record).mp compiled
      rw [fragment,Expr.carried,read]
      rfl
  | parameter => exact (compiles_parameter compiled).elim

-- A `?` comes into a text with a value that is bound, and with names that hold one.
inductive Expr.WritesMark (m : Mapping) : Expr → Prop where
  | value {e : Expr} {v : Captured} : e.evaluate = .ok v → v ≠ .list [] → WritesMark m e
  | column {field : String} {column : Column} : m.byProperty? field = some column →
      '?' ∈ column.name.toList → WritesMark m (.member .parameter field)
  | method {name : String} {receiver : Option Expr} {args : List Expr} :
      '?' ∈ (Text.lowercase name).toList → WritesMark m (.call (.other name) receiver args)

def Expr.Marked (m : Mapping) (e : Expr) : Prop := ∃ part ∈ e.parts, part.WritesMark m

section Nodes

variable {op : Operator} {left right operand receiver : Expr} {target : ValueType}
  {value : Captured} {field : String}

theorem Expr.mem_parts (e : Expr) : e ∈ e.parts := by
  cases e <;> simp [Expr.parts]

theorem marked_of_evaluate {e : Expr} (read : e.evaluate = .ok value) (held : value ≠ .list []) :
    e.Marked m :=
  ⟨e,e.mem_parts,.value read held⟩

theorem marked_binary : (Expr.binary op left right).Marked m ↔ left.Marked m ∨ right.Marked m := by
  have silent : ¬ (Expr.binary op left right).WritesMark m := by
    rintro ⟨⟨⟩⟩
  simp only [Expr.Marked,Expr.parts,List.mem_cons,List.mem_append,or_and_right,exists_or,
    exists_eq_left,silent,false_or]

theorem marked_not : (Expr.not operand).Marked m ↔ operand.Marked m := by
  have silent : ¬ (Expr.not operand).WritesMark m := by
    rintro ⟨⟨⟩⟩
  simp only [Expr.Marked,Expr.parts,List.mem_cons,or_and_right,exists_or,exists_eq_left,silent,
    false_or]

theorem marked_call {method : Method} {receiver : Option Expr} {args : List Expr} :
    (Expr.call method receiver args).Marked m ↔
      (∃ name, method = .other name ∧ '?' ∈ (Text.lowercase name).toList) ∨
      ∃ e ∈ receiver.toList ++ args, e.Marked m := by
  have self : (Expr.call method receiver args).WritesMark m ↔
      ∃ name, method = .other name ∧ '?' ∈ (Text.lowercase name).toList := by
    constructor
    · rintro (⟨⟨⟩⟩ | _ | held)
      exact ⟨_,rfl,held⟩
    · rintro ⟨name,rfl,held⟩
      exact .method held
  simp only [Expr.Marked,mem_callParts,or_and_right,exists_or,exists_eq_left,self]
  refine or_congr_right ⟨?_,?_⟩
  · rintro ⟨part,⟨e,present,inner⟩,writes⟩
    exact ⟨e,present,part,inner,writes⟩
  · rintro ⟨e,present,part,inner,writes⟩
    exact ⟨part,⟨e,present,inner⟩,writes⟩

theorem marked_convert : (Expr.convert target operand).Marked m ↔ operand.Marked m := by
  constructor
  · rintro ⟨part,present,writes⟩
    rcases List.mem_cons.mp present with rfl | inner
    · cases writes with
      | value read held =>
        obtain ⟨v,found,coerced⟩ := bind_ok.mp read
        refine marked_of_evaluate found fun empty => held ?_
        subst empty
        obtain ⟨ws,rfl,each⟩ := Captured.coerce_list.mp coerced
        rw [List.forall₂_nil_left_iff.mp each]
    · exact ⟨part,inner,writes⟩
  · rintro ⟨part,present,writes⟩
    exact ⟨part,List.mem_cons_of_mem _ present,writes⟩

theorem marked_constant : (Expr.constant value).Marked m ↔ value ≠ .list [] := by
  constructor
  · rintro ⟨part,present,writes⟩
    obtain rfl := List.mem_singleton.mp present
    cases writes with
    | value read held =>
      cases read
      exact held
  · exact marked_of_evaluate rfl

theorem marked_field : (Expr.member .parameter field).Marked m ↔
    ∃ column, m.byProperty? field = some column ∧ '?' ∈ column.name.toList := by
  constructor
  · rintro ⟨part,present,writes⟩
    obtain rfl := List.mem_singleton.mp present
    cases writes with
    | value read _ => cases read
    | column found held => exact ⟨_,found,held⟩
  · rintro ⟨column,found,held⟩
    exact ⟨_,Expr.mem_parts _,.column found held⟩

theorem marked_member (captured : receiver ≠ .parameter)
    (read : (Expr.member receiver field).evaluate = .ok value) :
    (Expr.member receiver field).Marked m ↔ value ≠ .list [] := by
  constructor
  · rintro ⟨part,present,writes⟩
    obtain rfl := List.mem_singleton.mp present
    cases writes with
    | value read' held =>
      cases read.symm.trans read'
      exact held
    | column => exact absurd rfl captured
  · exact marked_of_evaluate read

end Nodes

theorem mark_mem_placeholder {value : Captured} {xs : List Value} (bindable : value.Bindable xs) :
    '?' ∈ value.placeholder.toList ↔ value ≠ .list [] := by
  cases bindable with
  | scalar v => simp [Captured.placeholder]
  | list =>
    cases xs with
    | nil => simp [Captured.placeholder,placeholders]
    | cons x rest =>
      cases rest with
      | nil => simp [Captured.placeholder,placeholders]
      | cons y rest =>
        simp [Captured.placeholder,placeholders,List.replicate_succ,String.intercalate_cons_cons]

theorem mark_mem_join {op : Operator} {a b : Fragment} {text : String}
    (joined : op.join a b = .ok text) :
    '?' ∈ text.toList ↔ '?' ∈ a.text.toList ∨ '?' ∈ b.text.toList := by
  have lone (f : Fragment) (null : f.isNullPlaceholder = true) : '?' ∈ f.text.toList := by
    rw [Fragment.isNullPlaceholder,Bool.and_eq_true,beq_iff_eq] at null
    rw [null.1]
    decide
  unfold Operator.join at joined
  split at joined
  · rename_i null
    cases op <;> cases joined <;> simp [lone a null]
  · split at joined
    · rename_i null
      cases op <;> cases joined <;> simp [lone b null]
    · cases op <;> cases joined <;> simp

@[simp] theorem Piece.string_text (s : String) : (Piece.text s).string = s := rfl

@[simp] theorem Piece.string_operand (o : Operand) : (Piece.operand o).string = o.text := rfl

theorem mark_mem_joined {ps : List Piece} :
    '?' ∈ (Piece.joined ps).toList ↔ ∃ p ∈ ps, '?' ∈ p.string.toList := by
  induction ps with
  | nil => simp [Piece.joined]
  | cons p rest ih =>
    have split : Piece.joined (p :: rest) = p.string ++ Piece.joined rest := by
      simp [Piece.joined,String.join_cons]
    simp [split,ih]

theorem mark_mem_separated {os : List Operand} :
    (∃ p ∈ separated os, '?' ∈ p.string.toList) ↔ ∃ o ∈ os, '?' ∈ o.text.toList := by
  induction os with
  | nil => simp [separated]
  | cons o rest ih =>
    cases rest with
    | nil => simp [separated]
    | cons o' rest => simp_all [separated]

theorem Operand.lengthText_unmarked {o : Operand} {collation : Collation} {s : String}
    (measured : o.lengthText collation = .ok s) : '?' ∉ s.toList := by
  rcases Operand.lengthText_ok measured with ⟨text,_,rfl⟩ | ⟨_,absent,rfl⟩
  · exact unmarked_spelling.shownNat _
  · simp [absent]

theorem mark_mem_pieces {method : Method} {whole : Option Operand} {rest : List Operand}
    {ps : List Piece} (laid : method.pieces whole rest = .ok ps) :
    '?' ∈ (Piece.joined ps).toList ↔
      (∃ name, method = .other name ∧ '?' ∈ (Text.lowercase name).toList) ∨
      ∃ o ∈ whole.toList ++ rest, '?' ∈ o.text.toList := by
  rw [mark_mem_joined]
  unfold Method.pieces at laid
  split at laid
  · cases laid
    simp [likeTest]
  · cases laid
    simp [likeTest]
  · cases laid
    simp [membership,or_comm]
  · split at laid <;> cases laid <;> simp [membership,or_comm]
  · rcases startTest_ok laid with ⟨_,rfl⟩ | ⟨_,length,measured,rfl⟩
    · simp
    · simp [Piece.string,Operand.lengthText_unmarked measured]
  · rcases endTest_ok laid with ⟨_,rfl⟩ | ⟨_,length,measured,rfl⟩
    · simp
    · simp [Piece.string,Operand.lengthText_unmarked measured]
  · cases laid
    simp
  · cases laid
    simp
  · cases laid
    simp
  · cases laid
    simp
  · cases laid
    simp [mark_mem_separated]
  · cases laid

theorem exists_mem_iff {α β : Type} {R : α → β → Prop} {p : α → Prop} {q : β → Prop} {xs : List α}
    {ys : List β} (each : List.Forall₂ R xs ys) (agree : ∀ x ∈ xs, ∀ y, R x y → (q y ↔ p x)) :
    (∃ y ∈ ys, q y) ↔ ∃ x ∈ xs, p x := by
  induction each with
  | nil => simp
  | cons first _ ih =>
    rw [List.exists_mem_cons_iff,List.exists_mem_cons_iff,agree _ List.mem_cons_self _ first,
      ih fun x present => agree x (List.mem_cons_of_mem _ present)]

theorem Compiles.mark_iff {e : Expr} {o : Operand} (compiled : Compiles m e o) :
    '?' ∈ o.text.toList ↔ e.Marked m := by
  induction e using Expr.induct generalizing o with
  | binary op left right first second =>
    obtain ⟨a,b,text,compiledLeft,compiledRight,joined,rfl⟩ := compiles_binary.mp compiled
    rw [marked_binary,← first compiledLeft,← second compiledRight]
    exact mark_mem_join joined
  | not operand ih =>
    obtain ⟨a,inner,rfl⟩ := compiles_not.mp compiled
    rw [marked_not,← ih inner]
    simp [Operand.text,Fragment.negated]
  | call method receiver args first second =>
    obtain ⟨whole,rest,ps,compiledReceiver,compiledArgs,laid,rfl⟩ := compiles_call.mp compiled
    have operands := List.rel_append compiledReceiver compiledArgs
    rw [marked_call]
    refine (mark_mem_pieces laid).trans (or_congr_right (exists_mem_iff operands ?_))
    intro e present o compiled
    rcases List.mem_append.mp present with inReceiver | inArgs
    · exact first e inReceiver compiled
    · exact second e inArgs compiled
  | constant value =>
    obtain ⟨bindable,fragment⟩ := compiles_constant.mp compiled
    rw [marked_constant,← mark_mem_placeholder bindable,Operand.text,fragment]
  | convert target operand ih =>
    obtain ⟨a,inner,⟨_,rfl⟩ | ⟨v,w,_,_,rfl⟩⟩ := compiles_convert.mp compiled
    · rw [marked_convert,ih inner]
    · rw [marked_convert,← ih inner]
      rfl
  | member receiver field =>
    by_cases record : receiver = .parameter
    · subst record
      obtain ⟨column,found,rfl⟩ := compiles_field.mp compiled
      have mapped : m.byProperty? field = some column := Mapping.fieldColumn_ok.mp found
      rw [marked_field]
      simp [Operand.text,Fragment.plain,mark_mem_quotedName,mapped]
    · obtain ⟨value,read,bindable,fragment⟩ := (compiles_evaluated record).mp compiled
      rw [marked_member record read,← mark_mem_placeholder bindable,Operand.text,fragment]
  | parameter => exact (compiles_parameter compiled).elim

end TypedRows
