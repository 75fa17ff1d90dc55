import TypedRows.Proofs.Expr.Calls

namespace TypedRows

-- What is left of a condition when every captured scalar is forgotten, apart from whether it
-- is null; and that the text of a condition depends on no more than that.

variable {m : Mapping}

def Value.outline (v : Value) : Value := if v.isNull then .null else .bool true

mutual

def Captured.outline : Captured → Captured
  | .scalar v => .scalar v.outline
  | .list items => .list (Captured.outlines items)
  | .object fields => .object (Captured.fieldOutlines fields)

def Captured.outlines : List Captured → List Captured
  | [] => []
  | item :: rest => item.outline :: Captured.outlines rest

def Captured.fieldOutlines : List (String × Captured) → List (String × Captured)
  | [] => []
  | (name,value) :: rest => (name,value.outline) :: Captured.fieldOutlines rest

end

mutual

-- A test that minds case writes the length of what it compares, so that stays as it is.
def Expr.outline : Expr → Expr
  | .binary op left right => .binary op left.outline right.outline
  | .not operand => .not operand.outline
  | .call method receiver args =>
      .call method (Expr.receiverOutline receiver)
        (if method.measures then args else Expr.argsOutline args)
  | .constant value => .constant value.outline
  | .convert target operand => .convert target operand.outline
  | .member receiver field => .member receiver.outline field
  | .parameter => .parameter

def Expr.receiverOutline : Option Expr → Option Expr
  | none => none
  | some receiver => some receiver.outline

def Expr.argsOutline : List Expr → List Expr
  | [] => []
  | arg :: rest => arg.outline :: Expr.argsOutline rest

end

namespace Value

theorem outline_isNull {v w : Value} : v.outline = w.outline ↔ v.isNull = w.isNull := by
  unfold outline
  cases v.isNull <;> cases w.isNull <;> simp

theorem coerce_outline {v w : Value} {target : ValueType} (coerced : v.coerce target = .ok w) :
    w.outline = v.outline :=
  outline_isNull.mpr (coerce_isNull coerced)

end Value

namespace Captured

theorem outlines_eq_map (items : List Captured) : outlines items = items.map outline := by
  induction items with
  | nil => rfl
  | cons item rest ih => rw [outlines,ih,List.map_cons]

mutual

theorem coerce_outline {target : ValueType} : ∀ {value w : Captured},
    value.coerce target = .ok w → w.outline = value.outline
  | .scalar v, w, coerced => by
    obtain ⟨y,rfl,single⟩ := coerce_scalar.mp coerced
    exact congrArg scalar (Value.coerce_outline single)
  | .list items, w, coerced => by
    obtain ⟨ws,rfl,each⟩ := coerce_list.mp coerced
    exact congrArg list (coerceItems_outlines (coerceItems_ok.mpr each))
  | .object fields, w, coerced => by cases coerced

theorem coerceItems_outlines {target : ValueType} : ∀ {items ws : List Captured},
    coerceItems target items = .ok ws → outlines ws = outlines items
  | [], ws, coerced => by
    cases coerced
    rfl
  | item :: rest, ws, coerced => by
    obtain ⟨w,first,later⟩ := bind_ok.mp coerced
    obtain ⟨ws,found,rfl⟩ := return_ok.mp later
    rw [outlines,outlines,coerce_outline first,coerceItems_outlines found]

end

theorem fieldOutlines_eq_map (fields : List (String × Captured)) :
    fieldOutlines fields = fields.map fun entry => (entry.1,entry.2.outline) := by
  induction fields with
  | nil => rfl
  | cons entry rest ih => rw [fieldOutlines,ih,List.map_cons]

theorem readField_outline (owner : Captured) (field : String) :
    owner.outline.readField field = (owner.readField field).map outline := by
  cases owner with
  | scalar v => rfl
  | list items => rfl
  | object fields =>
    simp only [outline,readField,fieldOutlines_eq_map,Fields.get?_map]
    cases Fields.get? field fields <;> rfl

theorem readField_alike {owner owner' v v' : Captured} {field : String}
    (same : owner.outline = owner'.outline) (read : owner.readField field = .ok v)
    (read' : owner'.readField field = .ok v') : v.outline = v'.outline := by
  have outlines : (owner.readField field).map outline = (owner'.readField field).map outline := by
    rw [← readField_outline,← readField_outline,same]
  rw [read,read'] at outlines
  exact Except.ok.inj outlines

theorem outline_isNull (value : Captured) : value.outline.isNull = value.isNull := by
  cases value with
  | scalar v =>
    change v.outline.isNull = v.isNull
    unfold Value.outline
    cases null : v.isNull <;> rfl
  | list items => rfl
  | object fields => rfl

theorem outline_isList (value : Captured) : value.outline.isList = value.isList := by
  cases value <;> rfl

theorem outline_placeholder (value : Captured) : value.outline.placeholder = value.placeholder := by
  cases value with
  | scalar v => rfl
  | list items => simp [outline,placeholder,outlines_eq_map]
  | object fields => rfl

end Captured

theorem parameter_outline {e : Expr} (same : Expr.parameter.outline = e.outline) :
    e = .parameter := by
  cases e <;> first | rfl | cases same

theorem evaluate_outline {e e' : Expr} {v v' : Captured} (same : e.outline = e'.outline)
    (read : e.evaluate = .ok v) (read' : e'.evaluate = .ok v') : v.outline = v'.outline := by
  induction e using Expr.induct generalizing e' v v' with
  | binary | not | call | parameter => cases read
  | constant value =>
    cases e' with
    | constant value' =>
      cases read
      cases read'
      exact Expr.constant.inj same
    | _ => cases same
  | convert target operand ih =>
    cases e' with
    | convert target' operand' =>
      obtain ⟨w,found,coerced⟩ := bind_ok.mp read
      obtain ⟨w',found',coerced'⟩ := bind_ok.mp read'
      rw [Captured.coerce_outline coerced,Captured.coerce_outline coerced']
      exact ih (Expr.convert.inj same).2 found found'
    | _ => cases same
  | member receiver field ih =>
    cases e' with
    | member receiver' field' =>
      obtain ⟨sameReceiver,rfl⟩ := Expr.member.inj same
      by_cases record : receiver = .parameter
      · subst receiver
        cases read
      · have record' : receiver' ≠ .parameter := fun absurd => by
          subst receiver'
          exact record (parameter_outline sameReceiver.symm)
        rw [evaluate_member record] at read
        rw [evaluate_member record'] at read'
        obtain ⟨owner,found,field⟩ := bind_ok.mp read
        obtain ⟨owner',found',field'⟩ := bind_ok.mp read'
        exact Captured.readField_alike (ih sameReceiver found found') field field'
    | _ => cases same

def Captured.count : Captured → Nat
  | .list items => items.length
  | _ => 1

theorem Captured.Bindable.outline_length {v : Captured} {xs : List Value} (bindable : v.Bindable xs) :
    xs.length = v.outline.count := by
  cases bindable with
  | scalar v => rfl
  | list => simp [outline,count,outlines_eq_map]

structure Operand.Alike (o o' : Operand) : Prop where
  text : o.text = o'.text
  value : o.fragment.value.map Captured.outline = o'.fragment.value.map Captured.outline
  length : o.args.length = o'.args.length

namespace Operand.Alike

variable {o o' : Operand}

theorem refl (o : Operand) : o.Alike o := ⟨rfl,rfl,rfl⟩

theorem isNullPlaceholder (alike : o.Alike o') :
    o.fragment.isNullPlaceholder = o'.fragment.isNullPlaceholder := by
  have text : o.fragment.text = o'.fragment.text := alike.text
  have null : o.fragment.value.map Captured.isNull = o'.fragment.value.map Captured.isNull := by
    simpa [Function.comp_def,Captured.outline_isNull] using
      congrArg (Option.map Captured.isNull) alike.value
  unfold Fragment.isNullPlaceholder
  rw [text,null]

theorem join {op : Operator} {q q' : Operand} (first : o.Alike o') (second : q.Alike q') :
    op.join o.fragment q.fragment = op.join o'.fragment q'.fragment := by
  have text : o.fragment.text = o'.fragment.text := first.text
  have text' : q.fragment.text = q'.fragment.text := second.text
  simp only [Operator.join,nullComparison,first.isNullPlaceholder,second.isNullPlaceholder,text,text']

theorem negated (alike : o.Alike o') :
    Operand.Alike ⟨o.fragment.negated,o.args⟩ ⟨o'.fragment.negated,o'.args⟩ where
  text := by
    have text : o.fragment.text = o'.fragment.text := alike.text
    simp only [Operand.text,Fragment.negated,text]
  value := by
    have kept (f : Fragment) : f.negated.value.map Captured.outline = f.value.map Captured.outline := by
      unfold Fragment.negated
      dsimp only
      split
      · rename_i valued
        rw [valued]
        rfl
      · rfl
    exact (kept o.fragment).trans (alike.value.trans (kept o'.fragment).symm)
  length := alike.length

theorem converted {v v' w w' : Captured} {target : ValueType} (alike : o.Alike o')
    (valued : o.fragment.value = some v) (valued' : o'.fragment.value = some v')
    (coerced : v.coerce target = .ok w) (coerced' : v'.coerce target = .ok w') :
    Operand.Alike
      ⟨{o.fragment with value := some w},
        if isPlaceholderForm o.text.toList then rebound w o.args else o.args⟩
      ⟨{o'.fragment with value := some w'},
        if isPlaceholderForm o'.text.toList then rebound w' o'.args else o'.args⟩ where
  text := alike.text
  value := by
    have same := alike.value
    rw [valued,valued'] at same
    change some w.outline = some w'.outline
    rw [Captured.coerce_outline coerced,Captured.coerce_outline coerced']
    exact same
  length := by
    dsimp only
    rw [alike.text]
    split
    · rw [rebound_length,rebound_length]
      exact alike.length
    · exact alike.length

theorem bound {v v' : Captured} (same : v.outline = v'.outline)
    (bindable : v.Bindable o.args) (bindable' : v'.Bindable o'.args)
    (fragment : o.fragment = ⟨v.placeholder,some v⟩)
    (fragment' : o'.fragment = ⟨v'.placeholder,some v'⟩) :
    o.Alike o' where
  text := by
    rw [Operand.text,Operand.text,fragment,fragment']
    change v.placeholder = v'.placeholder
    rw [← v.outline_placeholder,same,v'.outline_placeholder]
  value := by
    rw [fragment,fragment']
    exact congrArg some same
  length := by
    rw [bindable.outline_length,bindable'.outline_length,same]

theorem isList (alike : o.Alike o') : o.fragment.isList = o'.fragment.isList := by
  have list : o.fragment.value.map Captured.isList = o'.fragment.value.map Captured.isList := by
    simpa [Function.comp_def,Captured.outline_isList] using
      congrArg (Option.map Captured.isList) alike.value
  unfold Fragment.isList
  rw [list]

end Operand.Alike

inductive Piece.Alike : List Piece → List Piece → Prop where
  | nil : Alike [] []
  | text (s : String) {ps ps' : List Piece} : Alike ps ps' → Alike (.text s :: ps) (.text s :: ps')
  | operand {o o' : Operand} {ps ps' : List Piece} : o.Alike o' → Alike ps ps' →
      Alike (.operand o :: ps) (.operand o' :: ps')

namespace Piece.Alike

variable {ps ps' qs qs' : List Piece} {os os' : List Operand}

theorem joined (alike : Alike ps ps') : Piece.joined ps = Piece.joined ps' := by
  induction alike with
  | nil => rfl
  | text s _ ih => simpa [Piece.joined,Piece.string,String.join_cons] using ih
  | operand first _ ih =>
    unfold Piece.joined at ih ⊢
    rw [List.map_cons,List.map_cons,String.join_cons,String.join_cons,ih]
    exact congrArg (· ++ _) first.text

theorem length (alike : Alike ps ps') :
    (Piece.allArgs ps).length = (Piece.allArgs ps').length := by
  induction alike with
  | nil => rfl
  | text s _ ih => exact ih
  | operand first _ ih =>
    unfold Piece.allArgs at ih ⊢
    rw [List.flatMap_cons,List.flatMap_cons,List.length_append,List.length_append,ih]
    exact congrArg (· + _) first.length

theorem append (first : Alike ps ps') (second : Alike qs qs') : Alike (ps ++ qs) (ps' ++ qs') := by
  induction first with
  | nil => exact second
  | text s _ ih => exact .text s ih
  | operand alike _ ih => exact .operand alike ih

theorem separated (each : List.Forall₂ Operand.Alike os os') :
    Alike (separated os) (separated os') := by
  induction each with
  | nil => exact .nil
  | cons first rest ih =>
    cases rest with
    | nil => exact .operand first .nil
    | cons second rest => exact .operand first (.text "," ih)

theorem between {o o' q q' : Operand} (first : o.Alike o') (second : q.Alike q') (s t u : String) :
    Alike [.text s,.operand o,.text t,.operand q,.text u]
      [.text s,.operand o',.text t,.operand q',.text u] :=
  .text s (.operand first (.text t (.operand second (.text u .nil))))

theorem within {o o' : Operand} (alike : o.Alike o') (s u : String) :
    Alike [.text s,.operand o,.text u] [.text s,.operand o',.text u] :=
  .text s (.operand alike (.text u .nil))

-- A method looks at the length of a text that it compares, and else only at whether an
-- operand is a list.
theorem pieces {method : Method} {whole whole' : Option Operand}
    (first : List.Forall₂ Operand.Alike whole.toList whole'.toList)
    (second : List.Forall₂ Operand.Alike os os') (measured : method.measures = true → os = os')
    (laid : method.pieces whole os = .ok ps) (laid' : method.pieces whole' os' = .ok ps') :
    Alike ps ps' := by
  unfold Method.pieces at laid
  split at laid
  · obtain rfl := none_of_forall₂ first
    obtain ⟨_,_,rfl,subject,pattern⟩ := two_of_forall₂ second
    cases laid
    cases laid'
    exact between subject pattern _ _ _
  · obtain ⟨_,rfl,subject⟩ := some_of_forall₂ first
    obtain ⟨_,rfl,pattern⟩ := one_of_forall₂ second
    cases laid
    cases laid'
    exact between subject pattern _ _ _
  · obtain rfl := none_of_forall₂ first
    obtain ⟨_,_,rfl,collection,item⟩ := two_of_forall₂ second
    cases laid
    cases laid'
    exact between item collection _ _ _
  · obtain ⟨whole',rfl,whole⟩ := some_of_forall₂ first
    obtain ⟨_,rfl,part⟩ := one_of_forall₂ second
    simp only [Method.pieces,← whole.isList] at laid'
    split at laid
    · rename_i list
      rw [if_pos list] at laid'
      cases laid
      cases laid'
      exact between part whole _ _ _
    · rename_i text
      rw [if_neg text] at laid'
      cases laid
      cases laid'
      exact between whole part _ _ _
  · rename_i collation _ _
    obtain ⟨_,rfl,subject⟩ := some_of_forall₂ first
    obtain ⟨_,rfl,start⟩ := one_of_forall₂ second
    change startTest collation _ _ = _ at laid'
    rcases startTest_ok laid with ⟨ignores,rfl⟩ | ⟨minds,length,known,rfl⟩
    · rcases startTest_ok laid' with ⟨_,rfl⟩ | ⟨minds,_⟩
      · exact between subject start _ _ _
      · exact (minds ignores).elim
    · rcases startTest_ok laid' with ⟨ignores,_⟩ | ⟨_,length',known',rfl⟩
      · exact (minds ignores).elim
      · cases measured (by simp [Method.measures,minds])
        cases known.symm.trans known'
        exact between subject start _ _ _
  · rename_i collation _ _
    obtain ⟨_,rfl,subject⟩ := some_of_forall₂ first
    obtain ⟨_,rfl,ending⟩ := one_of_forall₂ second
    change endTest collation _ _ = _ at laid'
    rcases endTest_ok laid with ⟨ignores,rfl⟩ | ⟨minds,length,known,rfl⟩
    · rcases endTest_ok laid' with ⟨_,rfl⟩ | ⟨minds,_⟩
      · exact between subject ending _ _ _
      · exact (minds ignores).elim
    · rcases endTest_ok laid' with ⟨ignores,_⟩ | ⟨_,length',known',rfl⟩
      · exact (minds ignores).elim
      · cases measured (by simp [Method.measures,minds])
        cases known.symm.trans known'
        exact between subject ending _ _ _
  · obtain ⟨_,rfl,left⟩ := some_of_forall₂ first
    obtain ⟨_,rfl,right⟩ := one_of_forall₂ second
    cases laid
    cases laid'
    exact between left right _ _ _
  · obtain ⟨_,rfl,subject⟩ := some_of_forall₂ first
    cases second
    cases laid
    cases laid'
    exact within subject _ _
  · obtain ⟨_,rfl,subject⟩ := some_of_forall₂ first
    cases second
    cases laid
    cases laid'
    exact within subject _ _
  · obtain ⟨_,rfl,subject⟩ := some_of_forall₂ first
    obtain ⟨_,_,rfl,old,new⟩ := two_of_forall₂ second
    cases laid
    cases laid'
    exact .text _ (.operand subject (.text _ (.operand old (.text _ (.operand new (.text _ .nil))))))
  · cases laid
    cases laid'
    exact .text _ ((separated (List.rel_append first second)).append (.text _ .nil))
  · cases laid

end Piece.Alike

theorem Compiles.unique {e : Expr} {o o' : Operand} (compiled : Compiles m e o)
    (compiled' : Compiles m e o') : o = o' := by
  have same := compiled.symm.trans compiled'
  obtain ⟨f,xs⟩ := o
  obtain ⟨f',xs'⟩ := o'
  cases same
  rfl

theorem Operand.Alike.all {es es' : List Expr} {os os' : List Operand}
    (ih : ∀ e ∈ es, ∀ e' o o', e.outline = e'.outline → Compiles m e o → Compiles m e' o' → o.Alike o')
    (same : es.map Expr.outline = es'.map Expr.outline) (each : List.Forall₂ (Compiles m) es os)
    (each' : List.Forall₂ (Compiles m) es' os') : List.Forall₂ Operand.Alike os os' := by
  induction each generalizing es' os' with
  | nil =>
    cases es' with
    | nil => cases each'; exact .nil
    | cons e' rest' => cases same
  | cons compiled _ later =>
    cases es' with
    | nil => cases same
    | cons e' rest' =>
      obtain ⟨first,rest⟩ := List.cons.inj same
      obtain ⟨o',os',compiled',later',rfl⟩ := List.forall₂_cons_left_iff.mp each'
      exact .cons (ih _ List.mem_cons_self e' _ o' first compiled compiled')
        (later (fun e present => ih e (List.mem_cons_of_mem _ present)) rest later')

theorem argsOutline_eq_map (args : List Expr) : Expr.argsOutline args = args.map Expr.outline := by
  induction args with
  | nil => rfl
  | cons arg rest ih => rw [Expr.argsOutline,ih,List.map_cons]

theorem receiverOutline_toList (receiver : Option Expr) :
    (Expr.receiverOutline receiver).toList = receiver.toList.map Expr.outline := by
  cases receiver <;> rfl

theorem Compiles.alike {e e' : Expr} {o o' : Operand} (same : e.outline = e'.outline)
    (compiled : Compiles m e o) (compiled' : Compiles m e' o') : o.Alike o' := by
  induction e using Expr.induct generalizing e' o o' with
  | binary op left right first second =>
    cases e' with
    | binary op' left' right' =>
      obtain ⟨rfl,sameLeft,sameRight⟩ := Expr.binary.inj same
      obtain ⟨a,b,text,compiledLeft,compiledRight,joined,rfl⟩ := compiles_binary.mp compiled
      obtain ⟨a',b',text',compiledLeft',compiledRight',joined',rfl⟩ := compiles_binary.mp compiled'
      have alikeLeft := first sameLeft compiledLeft compiledLeft'
      have alikeRight := second sameRight compiledRight compiledRight'
      rw [alikeLeft.join alikeRight,joined'] at joined
      cases joined
      exact ⟨rfl,rfl,by simp [alikeLeft.length,alikeRight.length]⟩
    | _ => cases same
  | not operand ih =>
    cases e' with
    | not operand' =>
      obtain ⟨a,inner,rfl⟩ := compiles_not.mp compiled
      obtain ⟨a',inner',rfl⟩ := compiles_not.mp compiled'
      exact (ih (Expr.not.inj same) inner inner').negated
    | _ => cases same
  | call method receiver args first second =>
    cases e' with
    | call method' receiver' args' =>
      obtain ⟨rfl,sameReceiver,sameArgs⟩ := Expr.call.inj same
      obtain ⟨whole,rest,ps,compiledWhole,compiledRest,laid,rfl⟩ := compiles_call.mp compiled
      obtain ⟨whole',rest',ps',compiledWhole',compiledRest',laid',rfl⟩ := compiles_call.mp compiled'
      have receivers : receiver.toList.map Expr.outline = receiver'.toList.map Expr.outline := by
        rw [← receiverOutline_toList,sameReceiver,receiverOutline_toList]
      have alikeWhole := Operand.Alike.all (fun e present e' o o' => first e present)
        receivers compiledWhole compiledWhole'
      have alikeRest : List.Forall₂ Operand.Alike rest rest' ∧
          (method.measures = true → rest = rest') := by
        -- Where lengths are written the arguments are the same, else only their outlines are.
        by_cases measures : method.measures = true
        · rw [if_pos measures,if_pos measures] at sameArgs
          subst args'
          have equal := List.right_unique_forall₂'
            (show Relator.RightUnique (Compiles m) from fun _ _ _ => Compiles.unique)
            compiledRest compiledRest'
          subst rest'
          exact ⟨List.forall₂_same.mpr fun o _ => .refl o,fun _ => rfl⟩
        · rw [if_neg measures,if_neg measures,argsOutline_eq_map,argsOutline_eq_map] at sameArgs
          exact ⟨Operand.Alike.all (fun e present e' o o' => second e present) sameArgs compiledRest
            compiledRest',
            fun absurd => (measures absurd).elim⟩
      have alike := Piece.Alike.pieces alikeWhole alikeRest.1 alikeRest.2 laid laid'
      exact ⟨alike.joined,rfl,alike.length⟩
    | _ => cases same
  | constant value =>
    cases e' with
    | constant value' =>
      obtain ⟨bindable,fragment⟩ := compiles_constant.mp compiled
      obtain ⟨bindable',fragment'⟩ := compiles_constant.mp compiled'
      exact .bound (Expr.constant.inj same) bindable bindable' fragment fragment'
    | _ => cases same
  | convert target operand ih =>
    cases e' with
    | convert target' operand' =>
      obtain ⟨rfl,sameOperand⟩ := Expr.convert.inj same
      obtain ⟨a,inner,kept⟩ := compiles_convert.mp compiled
      obtain ⟨a',inner',kept'⟩ := compiles_convert.mp compiled'
      have alike := ih sameOperand inner inner'
      have values := alike.value
      rcases kept with ⟨unvalued,rfl⟩ | ⟨v,w,valued,coerced,rfl⟩
      · rcases kept' with ⟨_,rfl⟩ | ⟨v',w',valued',_⟩
        · exact alike
        · rw [unvalued,valued'] at values
          cases values
      · rcases kept' with ⟨unvalued',_⟩ | ⟨v',w',valued',coerced',rfl⟩
        · rw [valued,unvalued'] at values
          cases values
        · exact alike.converted valued valued' coerced coerced'
    | _ => cases same
  | member receiver field ih =>
    cases e' with
    | member receiver' field' =>
      obtain ⟨sameReceiver,rfl⟩ := Expr.member.inj same
      by_cases record : receiver = .parameter
      · subst receiver
        have record' := parameter_outline sameReceiver
        subst receiver'
        cases compiled.unique compiled'
        exact .refl o
      · have record' : receiver' ≠ .parameter := fun absurd => by
          subst receiver'
          exact record (parameter_outline sameReceiver.symm)
        obtain ⟨owner,value,found,read,bindable,fragment⟩ := (compiles_member record).mp compiled
        obtain ⟨owner',value',found',read',bindable',fragment'⟩ :=
          (compiles_member record').mp compiled'
        have outlines := Captured.readField_alike (evaluate_outline sameReceiver found found') read read'
        exact .bound outlines bindable bindable' fragment fragment'
    | _ => cases same
  | parameter => exact (compiles_parameter compiled).elim

end TypedRows
