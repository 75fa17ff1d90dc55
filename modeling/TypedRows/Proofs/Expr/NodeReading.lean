import TypedRows.Proofs.Expr.Calls
import TypedRows.Proofs.Expr.Tree

namespace TypedRows

open Sql (Phrase Connective TermOp Written Whole Item Items PlainWord)

-- What the grammar reads of the text of a join and of a call, from what it reads of the
-- operands.

variable {m : Mapping}

-- A condition with its text, and its phrase as it is read and as it is meant.
structure Structured (m : Mapping) (e : Expr) (o : Operand) (r : Rendering) (p q : Phrase) : Prop where
  agrees : Agrees m e r o
  rendered : e.render m = some r
  written : Written o.text p
  negates : p.isNot = e.negates
  bare : r.bare = true → p = q
  same : p = q ↔ e.KeepsStructure m

inductive Structures (m : Mapping) : List Expr → List Operand → List Part → List Part → Prop where
  | nil : Structures m [] [] [] []
  | cons {e : Expr} {o : Operand} {r : Rendering} {p q : Phrase} {es : List Expr} {os : List Operand}
      {ps qs : List Part} : Structured m e o r p q → Structures m es os ps qs →
      Structures m (e :: es) (o :: os) (⟨r,p⟩ :: ps) (⟨r,q⟩ :: qs)

namespace Structures

variable {receiver : Option Expr} {args : List Expr} {os : List Operand} {ps qs : List Part}
  {a b : Option Part}

theorem none (first : Structures m receiver.toList [] a.toList b.toList) :
    receiver = .none ∧ a = .none ∧ b = .none := by
  cases receiver <;> cases a <;> cases b <;> first | exact ⟨rfl,rfl,rfl⟩ | cases first

theorem some {o : Operand} (first : Structures m receiver.toList [o] a.toList b.toList) :
    ∃ e r p q, receiver = .some e ∧ a = .some ⟨r,p⟩ ∧ b = .some ⟨r,q⟩ ∧ Structured m e o r p q := by
  cases receiver with
  | none => cases first
  | some e =>
    cases a with
    | none => cases first
    | some a =>
      cases b with
      | none => cases first
      | some b =>
        cases first with
        | cons structured _ => exact ⟨e,_,_,_,rfl,rfl,rfl,structured⟩

theorem one {o : Operand} (second : Structures m args [o] ps qs) :
    ∃ e r p q, args = [e] ∧ ps = [⟨r,p⟩] ∧ qs = [⟨r,q⟩] ∧ Structured m e o r p q := by
  cases second with
  | cons structured rest => cases rest; exact ⟨_,_,_,_,rfl,rfl,rfl,structured⟩

theorem two {o o' : Operand} (second : Structures m args [o,o'] ps qs) :
    ∃ e r p q e' r' p' q', args = [e,e'] ∧ ps = [⟨r,p⟩,⟨r',p'⟩] ∧ qs = [⟨r,q⟩,⟨r',q'⟩] ∧
      Structured m e o r p q ∧ Structured m e' o' r' p' q' := by
  cases second with
  | cons structured rest =>
    obtain ⟨_,_,_,_,rfl,rfl,rfl,structured'⟩ := one rest
    exact ⟨_,_,_,_,_,_,_,_,rfl,rfl,rfl,structured,structured'⟩

variable {es es' : List Expr} {os' : List Operand} {ps' qs' : List Part}

theorem append (first : Structures m es os ps qs) (second : Structures m es' os' ps' qs') :
    Structures m (es ++ es') (os ++ os') (ps ++ ps') (qs ++ qs') := by
  induction first with
  | nil => exact second
  | cons structured _ ih => exact .cons structured ih

theorem same (all : Structures m es os ps qs) :
    ps.map Part.phrase = qs.map Part.phrase ↔ ∀ e ∈ es, e.KeepsStructure m := by
  induction all with
  | nil => simp
  | cons structured _ ih => simp [structured.same,ih]

theorem items (all : Structures m es os ps qs) :
    (os = [] ∧ ps = []) ∨ Items (Piece.joined (separated os)) (ps.map Part.phrase) := by
  induction all with
  | nil => exact .inl ⟨rfl,rfl⟩
  | cons structured rest ih =>
    refine .inr ?_
    cases rest with
    | nil => simpa [separated,Piece.joined,Piece.string] using structured.written.item.one
    | cons structured' rest =>
      rcases ih with ⟨absurd,_⟩ | items
      · cases absurd
      · have all := structured.written.item.cons (.inl rfl) items
        rw [String.append_assoc] at all
        simpa [separated,Piece.joined,Piece.string,String.join_cons] using all

end Structures

theorem whole_group {s text : String} {p : Phrase} (item : Item s p)
    (same : text.toList = ("(" ++ s ++ ")").toList) : Whole text (.group [p]) := by
  rw [String.toList_inj.mp same]
  exact item.one.group

theorem whole_joined {s t text : String} {p q : Phrase} (first : Written s p) (second : Written t q)
    (c : Connective) (apart : c = .is → t = "?")
    (same : text.toList = ("(" ++ (s ++ (" " ++ c.text ++ " ") ++ t) ++ ")").toList) :
    Whole text (.group [Phrase.attached c p q]) :=
  whole_group (first.joined second c apart) same

theorem Structured.group_eq {e : Expr} {o : Operand} {r : Rendering} {p q p' q' : Phrase} {K : Prop}
    {c : Connective} (first : Structured m e o r p q) (second : p' = q' ↔ K) (tight : c.tight = true) :
    Phrase.group [Phrase.attached c p p'] = .group [.join c q q'] ↔
      e.negates = false ∧ e.KeepsStructure m ∧ K := by
  simp [Phrase.attached_eq_join,tight,first.negates,first.same,second]

theorem Structured.length {e : Expr} {o : Operand} {r : Rendering} {p q : Phrase} {text : String}
    {collation : Collation} (operand : Structured m e o r p q)
    (measured : o.lengthText collation = .ok text) :
    ∃ p' q', Part.length? ⟨r,p⟩ = some p' ∧ Part.length? ⟨r,q⟩ = some q' ∧ Whole text p' ∧
      (p = q → p' = q') := by
  unfold Part.length?
  rw [operand.agrees.value]
  rcases Operand.lengthText_ok measured with ⟨s,valued,rfl⟩ | ⟨unvalued,absent,rfl⟩
  · rw [valued]
    exact ⟨_,_,rfl,rfl,Sql.whole_number _,fun _ => rfl⟩
  · rw [unvalued,operand.agrees.unbound absent]
    have plain := Sql.plain_functions "length" (by simp)
    exact ⟨_,_,rfl,rfl,operand.written.item.one.call plain,fun same => by rw [same]⟩

variable {e e' : Expr} {subject part : Operand} {r r' : Rendering} {p q p' q' : Phrase}
  {collation : Collation} {pieces : List Piece}

-- A test that ignores case matches a pattern, and one that minds it compares a part of the text.

theorem structured_start (first : Structured m e subject r p q) (second : Structured m e' part r' p' q')
    (laid : startTest collation subject part = .ok pieces) :
    ∃ s t, (Method.startsWith collation).phrase Phrase.attached (some ⟨r,p⟩) [⟨r',p'⟩] = some s ∧
      (Method.startsWith collation).phrase .join (some ⟨r,q⟩) [⟨r',q'⟩] = some t ∧
      Whole (Piece.joined pieces) s ∧
      (s = t ↔ (Expr.call (.startsWith collation) (some e) [e']).KeepsStructure m) := by
  rw [keepsStructure_call]
  rcases startTest_ok laid with ⟨ignores,rfl⟩ | ⟨ignores,length,measured,rfl⟩
  · have pattern := (second.written.joined Sql.whole_anything.written (.term .concat) (by simp)).one.group
    refine ⟨_,_,if_pos ignores,if_pos ignores,
      whole_joined first.written pattern.written .like (by simp) ?_,?_⟩
    · simp [Piece.joined,Piece.string,Connective.text,TermOp.text]
    · rw [first.group_eq (second.group_eq (Iff.refl _) rfl) rfl]
      simp [Expr.leading,ignores]
      tauto
  · obtain ⟨l,l',own,meant,counted,same⟩ := second.length measured
    have lengths := (Sql.whole_number 1).written.item.cons (.inr rfl) counted.written.item.one
    have taken := (first.written.item.cons (.inr rfl) lengths).call
      (Sql.plain_functions "substr" (by simp))
    refine ⟨_,_,(if_neg ignores).trans (by rw [own]; rfl),(if_neg ignores).trans (by rw [meant]; rfl),
      whole_joined taken.written second.written (.term .eq) (by simp) ?_,?_⟩
    · have one : shownNat 1 = "1" := rfl
      simp [Piece.joined,Piece.string,Connective.text,TermOp.text,one]
    · simpa [Phrase.attached_eq_join,Phrase.isNot,first.same,← second.same,Expr.leading,ignores]
        using fun whole _ => same whole

theorem structured_end (first : Structured m e subject r p q) (second : Structured m e' part r' p' q')
    (laid : endTest collation subject part = .ok pieces) :
    ∃ s t, (Method.endsWith collation).phrase Phrase.attached (some ⟨r,p⟩) [⟨r',p'⟩] = some s ∧
      (Method.endsWith collation).phrase .join (some ⟨r,q⟩) [⟨r',q'⟩] = some t ∧
      Whole (Piece.joined pieces) s ∧
      (s = t ↔ (Expr.call (.endsWith collation) (some e) [e']).KeepsStructure m) := by
  rw [keepsStructure_call]
  rcases endTest_ok laid with ⟨ignores,rfl⟩ | ⟨ignores,length,measured,rfl⟩
  · have pattern := (Sql.whole_anything.written.joined second.written (.term .concat) (by simp)).one.group
    refine ⟨_,_,if_pos ignores,if_pos ignores,
      whole_joined first.written pattern.written .like (by simp) ?_,?_⟩
    · simp [Piece.joined,Piece.string,Connective.text,TermOp.text]
    · rw [first.group_eq (Iff.refl _) rfl]
      simp [Phrase.attached_eq_join,Phrase.isNot,second.same,Expr.leading,ignores]
  · obtain ⟨l,l',own,meant,counted,same⟩ := second.length measured
    have lengths := counted.negative.written.item.cons (.inr rfl) counted.written.item.one
    have taken := (first.written.item.cons (.inr rfl) lengths).call
      (Sql.plain_functions "substr" (by simp))
    refine ⟨_,_,(if_neg ignores).trans (by rw [own]; rfl),(if_neg ignores).trans (by rw [meant]; rfl),
      whole_joined taken.written second.written (.term .eq) (by simp) ?_,?_⟩
    · simp [Piece.joined,Piece.string,Connective.text,TermOp.text]
    · simpa [Phrase.attached_eq_join,Phrase.isNot,first.same,← second.same,Expr.leading,ignores]
        using fun whole _ => same whole

theorem structured_method {method : Method} {receiver : Option Expr} {args : List Expr}
    {whole : Option Operand} {os : List Operand} {a b : Option Part} {ps qs : List Part}
    {pieces : List Piece} (plain : ∀ name, method = .other name → PlainWord (Text.lowercase name))
    (first : Structures m receiver.toList whole.toList a.toList b.toList)
    (second : Structures m args os ps qs) (laid : method.pieces whole os = .ok pieces) :
    ∃ p q, method.phrase Phrase.attached a ps = some p ∧ method.phrase .join b qs = some q ∧
      Whole (Piece.joined pieces) p ∧
      (p = q ↔ (Expr.call method receiver args).KeepsStructure m) := by
  rw [keepsStructure_call]
  unfold Method.pieces at laid
  split at laid
  · obtain ⟨rfl,rfl,rfl⟩ := first.none
    obtain ⟨_,_,_,_,_,_,_,_,rfl,rfl,rfl,subject,pattern⟩ := second.two
    cases laid
    refine ⟨_,_,rfl,rfl,whole_joined subject.written pattern.written .like (by simp) ?_,?_⟩
    · simp [Piece.joined,Piece.string,Connective.text,likeTest]
    · rw [subject.group_eq pattern.same rfl]
      simp [Expr.leading]
  · obtain ⟨_,_,_,_,rfl,rfl,rfl,subject⟩ := first.some
    obtain ⟨_,_,_,_,rfl,rfl,rfl,pattern⟩ := second.one
    cases laid
    refine ⟨_,_,rfl,rfl,whole_joined subject.written pattern.written .like (by simp) ?_,?_⟩
    · simp [Piece.joined,Piece.string,Connective.text,likeTest]
    · rw [subject.group_eq pattern.same rfl]
      simp [Expr.leading]
  · obtain ⟨rfl,rfl,rfl⟩ := first.none
    obtain ⟨_,_,_,_,_,_,_,_,rfl,rfl,rfl,collection,item⟩ := second.two
    cases laid
    refine ⟨_,_,rfl,rfl,whole_joined item.written collection.written .among (by simp) ?_,?_⟩
    · simp [Piece.joined,Piece.string,Connective.text,membership]
    · rw [item.group_eq collection.same rfl]
      simp [Expr.leading,and_comm]
  · obtain ⟨e,r,_,_,rfl,rfl,rfl,subject⟩ := first.some
    obtain ⟨_,_,_,_,rfl,rfl,rfl,part⟩ := second.one
    rw [← subject.agrees.isList] at laid
    cases list : r.isList with
    | true =>
      rw [if_pos list] at laid
      cases laid
      refine ⟨_,_,if_pos list,if_pos list,
        whole_joined part.written subject.written .among (by simp) ?_,?_⟩
      · simp [Piece.joined,Piece.string,Connective.text,membership]
      · rw [part.group_eq subject.same rfl]
        simp [Expr.leading,subject.rendered,list,and_comm]
    | false =>
      rw [list] at laid
      cases laid
      have found := (subject.written.item.cons (.inr rfl) part.written.item.one).call
        (Sql.plain_functions "instr" (by simp))
      refine ⟨_,_,if_neg (by simp [list]),if_neg (by simp [list]),
        whole_joined found.written (Sql.whole_number 0).written (.term .gt) (by simp) ?_,?_⟩
      · have zero : shownNat 0 = "0" := rfl
        simp [Piece.joined,Piece.string,Connective.text,TermOp.text,zero]
      · simp [Phrase.attached_eq_join,Phrase.isNot,subject.same,part.same,Expr.leading,
          subject.rendered,list]
  · obtain ⟨_,_,_,_,rfl,rfl,rfl,subject⟩ := first.some
    obtain ⟨_,_,_,_,rfl,rfl,rfl,start⟩ := second.one
    rw [← keepsStructure_call]
    exact structured_start subject start laid
  · obtain ⟨_,_,_,_,rfl,rfl,rfl,subject⟩ := first.some
    obtain ⟨_,_,_,_,rfl,rfl,rfl,ending⟩ := second.one
    rw [← keepsStructure_call]
    exact structured_end subject ending laid
  · obtain ⟨_,_,_,_,rfl,rfl,rfl,left⟩ := first.some
    obtain ⟨_,_,_,_,rfl,rfl,rfl,right⟩ := second.one
    cases laid
    have other := right.written.item.one.group
    refine ⟨_,_,rfl,rfl,whole_joined left.written other.written (.term .eq) (by simp) ?_,?_⟩
    · simp [Piece.joined,Piece.string,Connective.text,TermOp.text]
    · rw [left.group_eq (K := _) (by simpa using right.same) rfl]
      simp [Expr.leading]
  · obtain ⟨_,_,_,_,rfl,rfl,rfl,subject⟩ := first.some
    cases second
    cases laid
    have lowered := subject.written.item.one.call (Sql.plain_functions "lower" (by simp))
    refine ⟨_,_,rfl,rfl,whole_group lowered.written.item ?_,?_⟩
    · simp [Piece.joined,Piece.string]
    · simp [Expr.leading,subject.same]
  · obtain ⟨_,_,_,_,rfl,rfl,rfl,subject⟩ := first.some
    cases second
    cases laid
    have raised := subject.written.item.one.call (Sql.plain_functions "upper" (by simp))
    refine ⟨_,_,rfl,rfl,whole_group raised.written.item ?_,?_⟩
    · simp [Piece.joined,Piece.string]
    · simp [Expr.leading,subject.same]
  · obtain ⟨_,_,_,_,rfl,rfl,rfl,subject⟩ := first.some
    obtain ⟨_,_,_,_,_,_,_,_,rfl,rfl,rfl,old,new⟩ := second.two
    cases laid
    have replaced := (subject.written.item.cons (.inr rfl) (old.written.item.cons (.inr rfl)
      new.written.item.one)).call (Sql.plain_functions "replace" (by simp))
    refine ⟨_,_,rfl,rfl,whole_group replaced.written.item ?_,?_⟩
    · simp [Piece.joined,Piece.string]
    · simp [Expr.leading,subject.same,old.same,new.same]
  · rename_i name
    cases laid
    have all := first.append second
    have word := plain name rfl
    refine ⟨_,_,rfl,rfl,?_,by simpa [Expr.leading] using all.same⟩
    rcases all.items with ⟨nothing,none⟩ | items
    · rw [none,nothing]
      simpa [separated,Piece.joined,Piece.string,String.join_cons] using word.call
    · simpa [Piece.joined,Piece.string,String.join_cons,String.append_assoc] using items.call word
  · cases laid

theorem structured_null {op : Operator} {other : Expr} {o : Operand} {r : Rendering} {p q : Phrase}
    {text : String} (operand : Structured m other o r p q)
    (accepted : nullComparison op o.fragment = .ok text) :
    ∃ p' q', op.nullPhrase Phrase.attached ⟨r,p⟩ = some p' ∧ op.nullPhrase .join ⟨r,q⟩ = some q' ∧
      Whole text p' ∧ ¬ (op = .and ∨ op = .or) ∧
      (p' = q' ↔ other.negates = false ∧ other.KeepsStructure m) := by
  have null := Sql.whole_parameter.written
  cases op <;> simp only [nullComparison,reduceCtorEq,Except.ok.injEq] at accepted <;> subst accepted
  case eq =>
    refine ⟨_,_,rfl,rfl,whole_joined operand.written null .is (fun _ => rfl) ?_,by simp,?_⟩
    · simp [Connective.text,Operand.text]
    · rw [operand.group_eq (K := True) (by simp) rfl,and_true]
  case ne =>
    refine ⟨_,_,rfl,rfl,whole_joined operand.written null .isNot (by simp) ?_,by simp,?_⟩
    · simp [Connective.text,Operand.text]
    · rw [operand.group_eq (K := True) (by simp) rfl,and_true]

theorem Structured.kept_of_null {e : Expr} {o : Operand} {r : Rendering} {p q : Phrase}
    (operand : Structured m e o r p q) (null : r.isNull = true) : e.KeepsStructure m := by
  rw [Rendering.isNull,Bool.and_eq_true] at null
  exact operand.same.mp (operand.bare null.1)

theorem structured_join {op : Operator} {left right : Expr} {a b : Operand} {r r' : Rendering}
    {p q p' q' : Phrase} {text : String} (first : Structured m left a r p q)
    (second : Structured m right b r' p' q') (accepted : op.join a.fragment b.fragment = .ok text) :
    ∃ s t, op.phrase Phrase.attached ⟨r,p⟩ ⟨r',p'⟩ = some s ∧ op.phrase .join ⟨r,q⟩ ⟨r',q'⟩ = some t ∧
      Whole text s ∧ (s = t ↔ (Expr.binary op left right).KeepsStructure m) := by
  rw [keepsStructure_binary]
  unfold Operator.join at accepted
  rw [← first.agrees.isNull,← second.agrees.isNull] at accepted
  split at accepted
  · rename_i null
    obtain ⟨s,t,read,meant,whole,test,same⟩ := structured_null second accepted
    refine ⟨s,t,(if_pos null).trans read,(if_pos null).trans meant,whole,?_⟩
    rw [same]
    simp [Expr.leading,test,first.rendered,null,first.kept_of_null null]
  · rename_i present
    split at accepted
    · rename_i null
      obtain ⟨s,t,read,meant,whole,test,same⟩ := structured_null first accepted
      refine ⟨s,t,(if_neg present).trans ((if_pos null).trans read),
        (if_neg present).trans ((if_pos null).trans meant),whole,?_⟩
      rw [same]
      simp [Expr.leading,test,first.rendered,present,second.kept_of_null null]
    · rename_i present'
      rw [Operator.sql_eq_term] at accepted
      cases found : op.term with
      | none => rw [found] at accepted; cases accepted
      | some term =>
        rw [found] at accepted
        cases accepted
        refine ⟨_,_,(if_neg present).trans ((if_neg present').trans (by rw [found]; rfl)),
          (if_neg present).trans ((if_neg present').trans (by rw [found]; rfl)),
          whole_joined first.written second.written (.term term) (by simp) ?_,?_⟩
        · simp [Connective.text,Operand.text]
        · have tight := Operator.tight_of_term found
          by_cases loose : op = .and ∨ op = .or
          · simp [Phrase.attached_eq_join,first.same,second.same,Expr.leading,tight,loose]
          · simp [Phrase.attached_eq_join,first.negates,first.same,second.same,Expr.leading,
              first.rendered,present,tight,loose]

end TypedRows
