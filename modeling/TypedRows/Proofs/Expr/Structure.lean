import TypedRows.Proofs.Expr.NodeReading
import TypedRows.Proofs.Expr.PlaceholderOrder

namespace TypedRows

open Sql (Phrase Connective Whole Items PlainWord)

-- What the grammar reads of the text of a condition, and when that is the tree of the
-- condition.

variable {m : Mapping}

theorem items_placeholders (n : Nat) :
    Items (",".intercalate (List.replicate (n + 1) "?")) (List.replicate (n + 1) .parameter) := by
  induction n with
  | zero => simpa using Sql.whole_parameter.written.item.one
  | succ n ih =>
    have all := Sql.whole_parameter.written.item.cons (.inl rfl) ih
    rw [List.replicate_succ,List.replicate_succ,String.intercalate_cons_cons]
    exact all

theorem Captured.Bindable.whole {value : Captured} {xs : List Value} (bindable : value.Bindable xs) :
    ∃ p, value.phrase = some p ∧ Whole value.placeholder p := by
  cases bindable with
  | scalar v => exact ⟨_,rfl,Sql.whole_parameter⟩
  | list =>
    refine ⟨_,rfl,?_⟩
    rw [Captured.placeholder,List.length_map]
    cases xs with
    | nil => simpa [placeholders] using Sql.whole_emptyGroup
    | cons x xs => exact (items_placeholders xs.length).group

theorem Structured.leaf {e : Expr} {o : Operand} {r : Rendering} {p : Phrase} (agrees : Agrees m e r o)
    (rendered : e.render m = some r) (whole : Whole o.text p) (alone : e.parts = [e])
    (leading : e.leading m = []) (negates : e.negates = false) : Structured m e o r p p where
  agrees := agrees
  rendered := rendered
  written := whole.written
  negates := whole.1.trans negates.symm
  bare _ := rfl
  same := iff_of_true rfl (keepsStructure_leaf alone leading)

theorem Structured.node {e : Expr} {text : String} {args : List Value} {p q : Phrase} {o : Operand}
    (compiled : Compiles m e o) (plain : o = ⟨.plain text,args⟩) (whole : Whole text p)
    (negates : e.negates = false) (same : p = q ↔ e.KeepsStructure m) :
    ∃ r, Structured m e o r p q := by
  obtain ⟨r,rendered,agrees⟩ := e.rendered o compiled
  subst plain
  refine ⟨r,agrees,rendered,whole.written,whole.1.trans negates.symm,fun bare => ?_,same⟩
  obtain ⟨v,found,_⟩ := agrees.bare bare
  cases found.symm.trans agrees.value

def Expr.Reads (m : Mapping) (e : Expr) : Prop := ∀ o, Compiles m e o →
  ∃ r p q, e.phrase Phrase.attached m = some p ∧ e.phrase .join m = some q ∧ Structured m e o r p q

theorem structured_args {args : List Expr} {os : List Operand} (each : ∀ e ∈ args, e.Reads m)
    (compiled : List.Forall₂ (Compiles m) args os) :
    ∃ ps qs, Expr.argParts Phrase.attached m args = some ps ∧ Expr.argParts .join m args = some qs ∧
      Structures m args os ps qs := by
  induction compiled with
  | nil => exact ⟨[],[],rfl,rfl,.nil⟩
  | cons first _ ih =>
    obtain ⟨r,p,q,read,meant,structured⟩ := each _ List.mem_cons_self _ first
    obtain ⟨ps,qs,reads,means,rest⟩ := ih fun e present => each e (List.mem_cons_of_mem _ present)
    exact ⟨_,_,by simp [Expr.argParts,structured.rendered,read,reads],
      by simp [Expr.argParts,structured.rendered,meant,means],.cons structured rest⟩

theorem structured_receiver {receiver : Option Expr} {o : Option Operand}
    (each : ∀ e ∈ receiver.toList, e.Reads m)
    (compiled : List.Forall₂ (Compiles m) receiver.toList o.toList) :
    ∃ a b, Expr.receiverPart Phrase.attached m receiver = some a ∧
      Expr.receiverPart .join m receiver = some b ∧
      Structures m receiver.toList o.toList a.toList b.toList := by
  cases receiver with
  | none =>
    cases o with
    | none => exact ⟨none,none,rfl,rfl,.nil⟩
    | some o => cases compiled
  | some e =>
    cases o with
    | none => cases compiled
    | some o =>
      obtain ⟨r,p,q,read,meant,structured⟩ := each e (by simp) o (by simpa using compiled)
      exact ⟨some ⟨r,p⟩,some ⟨r,q⟩,by simp [Expr.receiverPart,structured.rendered,read],
        by simp [Expr.receiverPart,structured.rendered,meant],.cons structured .nil⟩

theorem Expr.NamesPlain.part {e e' : Expr} (plain : e.NamesPlain)
    (inside : ∀ part ∈ e'.parts, part ∈ e.parts) : e'.NamesPlain :=
  fun name receiver args present => plain name receiver args (inside _ present)

theorem phrase_member {join : Connective → Phrase → Phrase → Phrase} {receiver : Expr} {field : String}
    (captured : receiver ≠ .parameter) :
    (Expr.member receiver field).phrase join m = match receiver.evaluate with
      | .ok (.object fields) => do (← Fields.get? field fields).phrase
      | _ => none := by
  cases receiver with
  | parameter => exact absurd rfl captured
  | _ => rfl

theorem Rendering.bare_of_converted {target : ValueType} {r c : Rendering}
    (converted : r.converted target = some c) (bare : c.bare = true) : r.bare = true := by
  unfold Rendering.converted at converted
  split at converted
  · cases converted
    exact bare
  · split at converted
    · cases converted
    · split at converted
      · assumption
      · cases converted
        exact bare

theorem Expr.NamesPlain.reads {e : Expr} (plain : e.NamesPlain) : e.Reads m := by
  induction e using Expr.induct with
  | binary op left right first second =>
    intro o compiled
    obtain ⟨a,b,text,compiledLeft,compiledRight,accepted,same⟩ := compiles_binary.mp compiled
    obtain ⟨r,p,q,read,meant,structured⟩ :=
      first (plain.part fun part present => by simp [Expr.parts,present]) a compiledLeft
    obtain ⟨r',p',q',read',meant',structured'⟩ :=
      second (plain.part fun part present => by simp [Expr.parts,present]) b compiledRight
    obtain ⟨s,t,own,tree,whole,kept⟩ := structured_join structured structured' accepted
    obtain ⟨c,node⟩ := Structured.node compiled same whole rfl kept
    refine ⟨c,s,t,?_,?_,node⟩
    · simp [Expr.phrase,structured.rendered,structured'.rendered,read,read',own]
    · simp [Expr.phrase,structured.rendered,structured'.rendered,meant,meant',tree]
  | not operand ih =>
    intro o compiled
    obtain ⟨a,inner,rfl⟩ := compiles_not.mp compiled
    obtain ⟨r,p,q,read,meant,structured⟩ :=
      ih (plain.part fun part present => by simp [Expr.parts,present]) a inner
    -- A connective behind the negation may reach into it, so it is no operand by itself.
    refine ⟨r.negated,_,_,by rw [Expr.phrase,read]; rfl,
      by rw [Expr.phrase,meant]; rfl,?_⟩
    exact {
      agrees := structured.agrees.negated
      rendered := by rw [Expr.render,structured.rendered]; rfl
      written := structured.written.item.not
      negates := rfl
      bare := fun absurd => by cases absurd
      same := by rw [keepsStructure_not]; simpa using structured.same }
  | call method receiver args first second =>
    intro o compiled
    obtain ⟨whole,os,pieces,compiledReceiver,compiledArgs,laid,same⟩ := compiles_call.mp compiled
    have inside : ∀ e ∈ receiver.toList ++ args, e.NamesPlain := fun e present =>
      plain.part fun part inner => mem_callParts.mpr (.inr ⟨e,present,inner⟩)
    obtain ⟨a,b,read,meant,ofReceiver⟩ := structured_receiver (fun e present =>
      first e present (inside e (List.mem_append_left _ present))) compiledReceiver
    obtain ⟨ps,qs,reads,means,ofArgs⟩ := structured_args (fun e present =>
      second e present (inside e (List.mem_append_right _ present))) compiledArgs
    have named : ∀ name, method = .other name → PlainWord (Text.lowercase name) := by
      rintro name rfl
      exact plain name receiver args (by simp [Expr.parts])
    obtain ⟨p,q,own,tree,closed,kept⟩ := structured_method named ofReceiver ofArgs laid
    obtain ⟨r,node⟩ := Structured.node compiled same closed rfl kept
    refine ⟨r,p,q,?_,?_,node⟩
    · simp [Expr.phrase,read,reads,own]
    · simp [Expr.phrase,meant,means,tree]
  | constant value =>
    intro o compiled
    obtain ⟨bindable,fragment⟩ := compiles_constant.mp compiled
    obtain ⟨r,rendered,agrees⟩ := (Expr.constant value).rendered o compiled
    obtain ⟨p,phrase,whole⟩ := bindable.whole
    refine ⟨r,p,p,phrase,phrase,.leaf agrees rendered ?_ rfl rfl rfl⟩
    rwa [Operand.text,fragment]
  | convert target operand ih =>
    intro o compiled
    obtain ⟨r,rendered,agrees⟩ := (Expr.convert target operand).rendered o compiled
    obtain ⟨a,inner,changed⟩ := compiles_convert.mp compiled
    obtain ⟨r',p,q,read,meant,structured⟩ :=
      ih (plain.part fun part present => by simp [Expr.parts,present]) a inner
    -- Only what is bound changes, so the text is read as that of the operand.
    have text : o.text = a.text := by
      rcases changed with ⟨_,rfl⟩ | ⟨_,_,_,_,rfl⟩ <;> rfl
    have converted : r'.converted target = some r := by
      rw [Expr.render,structured.rendered] at rendered
      exact rendered
    refine ⟨r,p,q,read,meant,agrees,rendered,?_,structured.negates,fun bare => ?_,?_⟩
    · rw [text]
      exact structured.written
    · exact structured.bare (Rendering.bare_of_converted converted bare)
    · rw [keepsStructure_convert]
      exact structured.same
  | member receiver field ih =>
    intro o compiled
    obtain ⟨r,rendered,agrees⟩ := (Expr.member receiver field).rendered o compiled
    by_cases record : receiver = .parameter
    · subst record
      obtain ⟨column,found,rfl⟩ := compiles_field.mp compiled
      have mapped : m.byProperty? field = some column := Mapping.fieldColumn_ok.mp found
      have phrase (join : Connective → Phrase → Phrase → Phrase) :
          (Expr.member .parameter field).phrase join m = some (.name column.name) := by
        rw [Expr.phrase,mapped]
        rfl
      exact ⟨r,_,_,phrase _,phrase _,.leaf agrees rendered (Sql.whole_name _) rfl rfl rfl⟩
    · obtain ⟨owner,value,evaluated,read,bindable,fragment⟩ := (compiles_member record).mp compiled
      obtain ⟨fields,rfl,present⟩ := Captured.readField_ok.mp read
      obtain ⟨p,phrase,whole⟩ := bindable.whole
      have found (join : Connective → Phrase → Phrase → Phrase) :
          (Expr.member receiver field).phrase join m = some p := by
        rw [phrase_member record,evaluated]
        simp [present,phrase]
      refine ⟨r,p,p,found _,found _,.leaf agrees rendered ?_ rfl rfl rfl⟩
      rwa [Operand.text,fragment]
  | parameter => exact fun o compiled => absurd compiled compiles_parameter

-- What is read of a compiled text is determined by its condition. It is the tree of the
-- condition exactly when no operator that is tighter than a negation has one for its first
-- operand.
theorem compile_keeps_structure {e : Expr} {pre after : List Value} {f : Fragment}
    (plain : e.NamesPlain) (compiled : (e.compile m).runFrom pre = (.ok f,after)) :
    ∃ read tree, e.reading m = some read ∧ e.tree m = some tree ∧
      Phrase.ofText f.text = some read ∧ (Phrase.ofText f.text = some tree ↔ e.KeepsStructure m) := by
  obtain ⟨args,alone,_⟩ := compiles_of_runFrom compiled
  obtain ⟨r,p,q,read,meant,structured⟩ := plain.reads ⟨f,args⟩ alone
  have found : Phrase.ofText f.text = some p := structured.written.item.ofText
  refine ⟨p,q,read,meant,found,?_⟩
  rw [found,Option.some.injEq]
  exact structured.same

def namedOrListed : Expr :=
  .binary .and (.not (.binary .eq (.value .null) (.apply (.field "name") "Trim" [])))
    (.binary .eq (.isIn (.field "age") (.values [.scalar (.int 5),.scalar (.int 6)]))
      (.not (.startsWith (.field "name") (.value (.text "An")) .ordinal)))

def namedOrListedText : String :=
  "(NOT((trim(\"Name\") is ?)) and ((\"Age\" in (?,?)) = NOT((substr(\"Name\", 1, 2) = ?))))"

theorem namedOrListed_namesPlain : namedOrListed.NamesPlain := by
  intro name receiver args present
  simp [namedOrListed,Expr.isIn,Expr.startsWith,Expr.apply,Expr.field,Expr.value,Expr.values,Expr.parts,
    Expr.receiverParts,Expr.argsParts] at present
  obtain ⟨rfl,_,_⟩ := present
  exact ⟨⟨⟨_,_,rfl,by decide⟩,by decide⟩,by decide⟩

theorem compile_keeps_structure_namedOrListed :
    (namedOrListed.compile person).runFrom [.int 1] =
      (.ok ⟨namedOrListedText,none⟩,[.int 1,.null,.int 5,.int 6,.text "An"]) ∧
    namedOrListed.KeepsStructure person ∧
    ∃ tree, namedOrListed.tree person = some tree ∧
      Phrase.ofText namedOrListedText = some tree := by
  have compiled : (namedOrListed.compile person).runFrom [.int 1] =
      (.ok ⟨namedOrListedText,none⟩,[.int 1,.null,.int 5,.int 6,.text "An"]) := by rfl
  obtain ⟨read,tree,own,meant,found,kept⟩ := compile_keeps_structure namedOrListed_namesPlain compiled
  have same : read = tree := by
    cases own
    cases meant
    rfl
  exact ⟨compiled,kept.mp (by rw [found,same]),tree,meant,by rw [found,same]⟩

def negatedAge : Expr := .binary .eq (.not (.field "age")) (.value (.int 5))

theorem negatedAge_namesPlain : negatedAge.NamesPlain := by
  simp [Expr.NamesPlain,negatedAge,Expr.field,Expr.value,Expr.parts]

-- The negation takes the whole comparison for its operand.
theorem compile_loosens_negation :
    ¬ ∀ (m : Mapping) (e : Expr) (pre after : List Value) (f : Fragment), e.NamesPlain →
      (e.compile m).runFrom pre = (.ok f,after) → Phrase.ofText f.text = e.tree m := by
  intro kept
  have compiled : (negatedAge.compile person).runFrom [] =
      (.ok ⟨"(NOT(\"Age\") = ?)",none⟩,[.int 5]) := by rfl
  have same := kept person negatedAge [] _ _ negatedAge_namesPlain compiled
  obtain ⟨r,p,q,read,meant,structured⟩ := negatedAge_namesPlain.reads ⟨_,_⟩ compiled
  have differ : some p = some q := structured.written.item.ofText.symm.trans (same.trans meant)
  cases read
  cases meant
  cases differ

end TypedRows
