import TypedRows.Proofs.Expr.Conversion
import TypedRows.Proofs.Expr.NullDelay

namespace TypedRows

-- The compiled text and arguments of a condition against its tokens, node by node.

variable {m : Mapping}

theorem mem_receiverParts {part : Expr} {receiver : Option Expr} :
    part ∈ Expr.receiverParts receiver ↔ ∃ e ∈ receiver.toList, part ∈ e.parts := by
  cases receiver <;> simp [Expr.receiverParts]

theorem mem_argsParts {part : Expr} {args : List Expr} :
    part ∈ Expr.argsParts args ↔ ∃ e ∈ args, part ∈ e.parts := by
  induction args with
  | nil => simp [Expr.argsParts]
  | cons e rest ih => simp [Expr.argsParts,ih]

theorem mem_callParts {part : Expr} {method : Method} {receiver : Option Expr} {args : List Expr} :
    part ∈ (Expr.call method receiver args).parts ↔ part = .call method receiver args ∨
      ∃ e ∈ receiver.toList ++ args, part ∈ e.parts := by
  simp only [Expr.parts,List.mem_cons,List.mem_append,mem_receiverParts,mem_argsParts,or_and_right,
    exists_or]

-- No comparison inside the condition has null on its left and binds anything but nulls on
-- its right.
def Expr.KeepsOrder (m : Mapping) (e : Expr) : Prop :=
  ∀ op left right, .binary op left right ∈ e.parts → ∀ a b, left.render m = some a →
    right.render m = some b → a.isNull = true → ∀ v ∈ boundValues b.tokens, v = .null

theorem keepsOrder_binary (op : Operator) {left right : Expr} {a b : Rendering}
    (first : left.render m = some a) (second : right.render m = some b) :
    (Expr.binary op left right).KeepsOrder m ↔ left.KeepsOrder m ∧ right.KeepsOrder m ∧
      (a.isNull = true → ∀ v ∈ boundValues b.tokens, v = .null) := by
  constructor
  · intro kept
    refine ⟨fun op l r part => kept op l r ?_,fun op l r part => kept op l r ?_,
      kept op left right (by simp [Expr.parts]) a b first second⟩
    · simp [Expr.parts,part]
    · simp [Expr.parts,part]
  · rintro ⟨keptLeft,keptRight,turned⟩ op' l r part
    rcases List.mem_cons.mp part with same | inner
    · cases same
      intro a' b' first' second'
      rw [first] at first'
      rw [second] at second'
      cases first'
      cases second'
      exact turned
    · rcases List.mem_append.mp inner with inLeft | inRight
      · exact keptLeft op' l r inLeft
      · exact keptRight op' l r inRight

theorem keepsOrder_not {operand : Expr} :
    (Expr.not operand).KeepsOrder m ↔ operand.KeepsOrder m := by
  simp [Expr.KeepsOrder,Expr.parts]

theorem keepsOrder_convert {target : ValueType} {operand : Expr} :
    (Expr.convert target operand).KeepsOrder m ↔ operand.KeepsOrder m := by
  simp [Expr.KeepsOrder,Expr.parts]

theorem keepsOrder_call {method : Method} {receiver : Option Expr} {args : List Expr} :
    (Expr.call method receiver args).KeepsOrder m ↔
      ∀ e ∈ receiver.toList ++ args, e.KeepsOrder m := by
  constructor
  · intro kept e present op left right part
    exact kept op left right (mem_callParts.mpr (.inr ⟨e,present,part⟩))
  · intro kept op left right part
    rcases mem_callParts.mp part with same | ⟨e,present,inner⟩
    · cases same
    · exact kept e present op left right inner

theorem keepsOrder_constant {value : Captured} : (Expr.constant value).KeepsOrder m := by
  simp [Expr.KeepsOrder,Expr.parts]

theorem keepsOrder_member {receiver : Expr} {field : String} :
    (Expr.member receiver field).KeepsOrder m := by
  simp [Expr.KeepsOrder,Expr.parts]

theorem Operand.lengthText_ok {o : Operand} {collation : Collation} {s : String}
    (measured : o.lengthText collation = .ok s) :
    (∃ text, o.fragment.value = some (.scalar (.text text)) ∧ s = shownNat text.length) ∨
      (o.fragment.value = none ∧ '?' ∉ o.text.toList ∧ s = "length(" ++ o.text ++ ")") := by
  unfold Operand.lengthText at measured
  split at measured
  · rename_i text valued
    cases measured
    exact .inl ⟨text,valued,rfl⟩
  · rename_i unvalued
    split at measured
    · cases measured
    · rename_i absent
      cases measured
      exact .inr ⟨unvalued,fun present => absent (List.contains_iff_mem.mpr present),rfl⟩
  · cases measured

-- What one condition has in common with its tokens. The text is the same always; the
-- arguments stand in the order of the placeholders exactly when no null is turned.
structure Agrees (m : Mapping) (e : Expr) (r : Rendering) (o : Operand) : Prop where
  text : flattened r.tokens = o.text
  value : r.value = o.fragment.value
  bare : r.bare = true → ∃ v, r.value = some v ∧ v.Bindable o.args ∧ r.tokens = v.tokens o.args
  wrapped : r.bare = false → r.value ≠ none → isPlaceholderForm o.text.toList = false
  long : r.bare = false → 2 ≤ o.text.toList.length
  delayed : Delayed o.args (boundValues r.tokens)
  order : o.args = boundValues r.tokens ↔ e.KeepsOrder m

theorem isPlaceholderTail_intercalate (n : Nat) :
    isPlaceholderTail ((",".intercalate (List.replicate (n + 1) "?")).toList ++ [')']) = true := by
  induction n with
  | zero => simp [isPlaceholderTail]
  | succ n ih =>
    rw [List.replicate_succ,List.replicate_succ,String.intercalate_cons_cons]
    rw [List.replicate_succ] at ih
    simpa [isPlaceholderTail] using ih

theorem isPlaceholderForm_placeholders (n : Nat) :
    isPlaceholderForm (placeholders n).toList = true := by
  cases n with
  | zero => simp [placeholders,isPlaceholderForm]
  | succ n =>
    have tail := isPlaceholderTail_intercalate n
    have split : (placeholders (n + 1)).toList =
        '(' :: ((",".intercalate (List.replicate (n + 1) "?")).toList ++ [')']) := by
      simp [placeholders]
    rw [split]
    generalize (",".intercalate (List.replicate (n + 1) "?")).toList ++ [')'] = rest at tail
    unfold isPlaceholderForm
    split <;> simp_all

theorem Captured.Bindable.isPlaceholderForm {value : Captured} {xs : List Value}
    (bindable : value.Bindable xs) : isPlaceholderForm value.placeholder.toList = true := by
  cases bindable with
  | scalar v => simp [Captured.placeholder,TypedRows.isPlaceholderForm]
  | list => exact isPlaceholderForm_placeholders _

namespace Agrees

variable {e : Expr} {r : Rendering} {o : Operand}

theorem leaf {value : Captured} (bindable : value.Bindable o.args)
    (fragment : o.fragment = ⟨value.placeholder,some value⟩) (kept : e.KeepsOrder m) :
    Agrees m e ⟨value.tokens o.args,some value,true⟩ o where
  text := by rw [bindable.flattened_tokens,Operand.text,fragment]
  value := by rw [fragment]
  bare _ := ⟨value,rfl,bindable,rfl⟩
  wrapped absurd := by cases absurd
  long absurd := by cases absurd
  delayed := by rw [bindable.boundValues_tokens]; exact .refl _
  order := by simp only [bindable.boundValues_tokens,kept]

theorem unvalued {chunks : List (List Token)} {text : String} {args : List Value}
    (flat : flattened chunks.flatten = text) (long : 2 ≤ text.toList.length)
    (delayed : Delayed args (boundValues chunks.flatten))
    (order : args = boundValues chunks.flatten ↔ e.KeepsOrder m) :
    Agrees m e (.plain chunks) ⟨.plain text,args⟩ where
  text := flat
  value := rfl
  bare absurd := by cases absurd
  wrapped _ valued := absurd rfl valued
  long _ := long
  delayed := delayed
  order := order

theorem isNull (agrees : Agrees m e r o) : r.isNull = o.fragment.isNullPlaceholder := by
  obtain ⟨⟨text,value⟩,args⟩ := o
  have valued : r.value = value := agrees.value
  unfold Rendering.isNull Fragment.isNullPlaceholder
  cases bare : r.bare with
  | true =>
    obtain ⟨v,found,bindable,tokens⟩ := agrees.bare bare
    have flat : flattened r.tokens = text := agrees.text
    rw [tokens,bindable.flattened_tokens] at flat
    rw [← valued,found,← flat]
    cases bindable with
    | scalar v => simp [Captured.placeholder]
    | list => simp [Captured.isNull]
  | false =>
    have long : 2 ≤ text.toList.length := agrees.long bare
    -- A text of two characters is no lone placeholder.
    have other : text ≠ "?" := fun same => absurd (same ▸ long) (by decide)
    simp [other]

theorem isList (agrees : Agrees m e r o) : r.isList = o.fragment.isList := by
  rw [Rendering.isList,agrees.value,Fragment.isList]

theorem unbound (agrees : Agrees m e r o) (absent : '?' ∉ o.text.toList) :
    boundValues r.tokens = [] := by
  refine List.eq_nil_iff_forall_not_mem.mpr fun v present => absent ?_
  rw [← agrees.text]
  exact mark_of_bound present

theorem length {collation : Collation} {s : String} (agrees : Agrees m e r o)
    (measured : o.lengthText collation = .ok s) : r.length? = some s := by
  unfold Rendering.length?
  rw [agrees.value]
  rcases Operand.lengthText_ok measured with ⟨text,valued,rfl⟩ | ⟨unvalued,absent,rfl⟩
  · rw [valued]
  · simp [unvalued,agrees.unbound absent,agrees.text]

theorem null (agrees : Agrees m e r o) (isNull : r.isNull = true) :
    r.tokens = [.bound .null] ∧ o.args = [.null] := by
  unfold Rendering.isNull at isNull
  rw [Bool.and_eq_true] at isNull
  obtain ⟨v,found,bindable,tokens⟩ := agrees.bare isNull.1
  have none := isNull.2
  obtain ⟨f,args⟩ := o
  rw [found] at none
  cases bindable with
  | scalar v =>
    cases v <;> simp [Captured.isNull,Value.isNull] at none
    exact ⟨tokens,rfl⟩
  | list => simp [Captured.isNull] at none

theorem negated (agrees : Agrees m e r o) :
    Agrees m (.not e) r.negated ⟨o.fragment.negated,o.args⟩ where
  text := by
    have flat : flattened r.tokens = o.fragment.text := agrees.text
    simp [Rendering.negated,Operand.text,Fragment.negated,flat,String.append_assoc]
  value := by
    change ({o.fragment with value := r.value} : Fragment).negated.value = o.fragment.negated.value
    rw [agrees.value]
  bare absurd := by cases absurd
  wrapped _ _ := by simp [Operand.text,Fragment.negated,isPlaceholderForm]
  long _ := by simp [Operand.text,Fragment.negated]
  delayed := by simpa [Rendering.negated] using agrees.delayed
  order := by simpa [Rendering.negated,keepsOrder_not] using agrees.order

theorem converted {target : ValueType} {v w : Captured} (agrees : Agrees m e r o)
    (valued : o.fragment.value = some v) (coerced : v.coerce target = .ok w) :
    ∃ c, r.converted target = some c ∧ Agrees m (.convert target e) c
      ⟨{o.fragment with value := some w},
        if isPlaceholderForm o.text.toList then rebound w o.args else o.args⟩ := by
  have found : r.value = some v := agrees.value.trans valued
  cases bare : r.bare with
  | true =>
    obtain ⟨v',found',bindable,tokens⟩ := agrees.bare bare
    cases found.symm.trans found'
    obtain ⟨taken,same⟩ := bindable.coerce coerced
    have text : o.fragment.text = v.placeholder := by
      rw [← bindable.flattened_tokens,← tokens]
      exact agrees.text.symm
    have form : isPlaceholderForm o.text.toList = true := by
      rw [Operand.text,text]
      exact bindable.isPlaceholderForm
    have kept := agrees.order.mp (by rw [tokens,bindable.boundValues_tokens])
    refine ⟨⟨w.tokens (rebound w o.args),some w,true⟩,?_,?_⟩
    · simp [Rendering.converted,found,coerced,bare,taken.rendered]
    · rw [if_pos form]
      exact leaf (o := ⟨⟨o.fragment.text,some w⟩,rebound w o.args⟩) taken (by rw [text,same])
        (keepsOrder_convert.mpr kept)
  | false =>
    have form := agrees.wrapped bare (by simp [found])
    refine ⟨{r with value := some w},by simp [Rendering.converted,found,coerced,bare],?_⟩
    rw [form]
    exact {
      text := agrees.text
      value := rfl
      bare := fun absurd => by cases bare.symm.trans absurd
      wrapped := fun _ _ => form
      long := fun _ => agrees.long bare
      delayed := agrees.delayed
      order := agrees.order.trans keepsOrder_convert.symm }

theorem unconverted (target : ValueType) (agrees : Agrees m e r o)
    (unvalued : o.fragment.value = none) :
    r.converted target = some r ∧ Agrees m (.convert target e) r o := by
  have found : r.value = none := agrees.value.trans unvalued
  refine ⟨by simp [Rendering.converted,found],{agrees with order := ?_}⟩
  exact agrees.order.trans keepsOrder_convert.symm

theorem joined {op : Operator} {left right : Expr} {a b : Rendering} {p q : Operand}
    {text : String} (first : left.render m = some a) (second : right.render m = some b)
    (agreesLeft : Agrees m left a p) (agreesRight : Agrees m right b q)
    (accepted : op.join p.fragment q.fragment = .ok text) :
    ∃ c, op.rendered a b = some c ∧
      Agrees m (.binary op left right) c ⟨.plain text,p.args ++ q.args⟩ := by
  have textLeft : flattened a.tokens = p.fragment.text := agreesLeft.text
  have textRight : flattened b.tokens = q.fragment.text := agreesRight.text
  have binary := keepsOrder_binary op first second
  have nullLeft := agreesLeft.isNull
  have nullRight := agreesRight.isNull
  simp only [Operator.join] at accepted
  simp only [Operator.rendered,nullLeft,nullRight]
  split at accepted
  · rename_i isNull
    obtain ⟨tokens,args⟩ := agreesLeft.null (nullLeft.trans isNull)
    have keptLeft : left.KeepsOrder m := agreesLeft.order.mp (by rw [tokens,args]; rfl)
    -- The null is bound first and written last: the order stands only among nulls.
    have order : p.args ++ q.args = boundValues b.tokens ++ [.null] ↔
        (Expr.binary op left right).KeepsOrder m := by
      rw [binary,args,List.singleton_append,agreesRight.delayed.turn_eq_iff,agreesRight.order,nullLeft]
      simp [keptLeft,isNull]
    have delayed : Delayed (p.args ++ q.args) (boundValues b.tokens ++ [.null]) := by
      rw [args]
      exact agreesRight.delayed.turn
    cases op <;> simp only [nullComparison,reduceCtorEq,Except.ok.injEq] at accepted
    all_goals
      refine ⟨_,if_pos isNull,unvalued ?_ ?_ ?_ ?_⟩
      · simp [spelled,textRight,tokens,← accepted,String.append_assoc]
      · simp [← accepted]
      · simpa [spelled,tokens] using delayed
      · simpa [spelled,tokens] using order
  · rename_i isNotNull
    have unturned : (Expr.binary op left right).KeepsOrder m ↔
        left.KeepsOrder m ∧ right.KeepsOrder m := by
      rw [binary,nullLeft]
      simp [isNotNull]
    have order : p.args ++ q.args = boundValues a.tokens ++ boundValues b.tokens ↔
        (Expr.binary op left right).KeepsOrder m := by
      rw [unturned,agreesLeft.delayed.append_eq_iff,agreesLeft.order,agreesRight.order]
    have delayed := agreesLeft.delayed.append agreesRight.delayed
    split at accepted
    · rename_i isNull
      obtain ⟨tokens,args⟩ := agreesRight.null (nullRight.trans isNull)
      cases op <;> simp only [nullComparison,reduceCtorEq,Except.ok.injEq] at accepted
      all_goals
        refine ⟨_,(if_neg isNotNull).trans (if_pos isNull),unvalued ?_ ?_ ?_ ?_⟩
        · simp [spelled,textLeft,tokens,← accepted,String.append_assoc]
        · simp [← accepted]
        · simpa [spelled,tokens] using delayed
        · simpa [spelled,tokens] using order
    · rename_i isNeither
      split at accepted
      · rename_i sql spelling
        cases accepted
        refine ⟨_,(if_neg isNotNull).trans ((if_neg isNeither).trans (by rw [spelling]; rfl)),
          unvalued ?_ ?_ ?_ ?_⟩
        · simp [spelled,textLeft,textRight,String.append_assoc]
        · simp; omega
        · simpa [spelled] using delayed
        · simpa [spelled] using order
      · cases accepted

end Agrees

end TypedRows
