import TypedRows.Proofs.Expr.Carried
import TypedRows.Proofs.Expr.OpenMarks

namespace TypedRows

-- Tests for the start and the end of a text: what they compile to, and whether the length that
-- they write is that of the operand which they compare.

variable {m : Mapping} {collation : Collation} {subject operand : Expr} {a o : Operand}

theorem affix_runFrom (method : Method) (first : Compiles m subject a)
    (second : Compiles m operand o) (pre : List Value) :
    ((Expr.call method (some subject) [operand]).compile m).runFrom pre =
      match method.pieces (some a) [o] with
      | .ok pieces => (.ok (.plain (Piece.joined pieces)),pre ++ Piece.allArgs pieces)
      | .error cause => (.error cause,pre) := by
  have receiver : Expr.receiverOperand m (some subject) = .ok (some a) :=
    receiverOperand_ok.mpr (.cons first .nil)
  have args : Expr.operands m [operand] = .ok [o] := operands_ok.mpr (.cons second .nil)
  rw [call_runFrom,receiver,args]
  rfl

def startText (subject length operand : String) : String :=
  "(substr(" ++ subject ++ ", 1, " ++ length ++ ") = " ++ operand ++ ")"

def endText (subject length operand : String) : String :=
  "(substr(" ++ subject ++ ", -" ++ length ++ ", " ++ length ++ ") = " ++ operand ++ ")"

def startPieces (subject : Operand) (length : String) (operand : Operand) : List Piece :=
  [.text "(substr(",.operand subject,.text (", 1, " ++ length ++ ") = "),.operand operand,.text ")"]

def endPieces (subject : Operand) (length : String) (operand : Operand) : List Piece :=
  [.text "(substr(",.operand subject,.text (", -" ++ length ++ ", " ++ length ++ ") = "),
    .operand operand,.text ")"]

theorem joined_startPieces (a : Operand) (length : String) (o : Operand) :
    Piece.joined (startPieces a length o) = startText a.text length o.text ∧
      Piece.allArgs (startPieces a length o) = a.args ++ o.args := by
  have text : startText a.text length o.text =
      "(substr(" ++ a.text ++ ", 1, " ++ length ++ ") = " ++ o.text ++ ")" := rfl
  rw [text]
  simp [startPieces,Piece.joined,Piece.string,Piece.allArgs,Piece.args,String.append_assoc]

theorem joined_endPieces (a : Operand) (length : String) (o : Operand) :
    Piece.joined (endPieces a length o) = endText a.text length o.text ∧
      Piece.allArgs (endPieces a length o) = a.args ++ o.args := by
  have text : endText a.text length o.text =
      "(substr(" ++ a.text ++ ", -" ++ length ++ ", " ++ length ++ ") = " ++ o.text ++ ")" := rfl
  rw [text]
  simp [endPieces,Piece.joined,Piece.string,Piece.allArgs,Piece.args,String.append_assoc]

theorem measured_runFrom {method : Method} {lay : String → List Piece} {text : String → String}
    (first : Compiles m subject a) (second : Compiles m operand o)
    (laid : method.pieces (some a) [o] = (o.lengthText collation).map lay)
    (joined : ∀ length, Piece.joined (lay length) = text length ∧
      Piece.allArgs (lay length) = a.args ++ o.args) (pre : List Value) :
    ((Expr.call method (some subject) [operand]).compile m).runFrom pre =
      match o.lengthText collation with
      | .ok length => (.ok (.plain (text length)),pre ++ (a.args ++ o.args))
      | .error cause => (.error cause,pre) := by
  rw [affix_runFrom method first second,laid]
  cases o.lengthText collation with
  | error cause => rfl
  | ok length => simp only [Except.map,(joined length).1,(joined length).2]

section Minding

variable (minds : collation.ignoresCase = false) (first : Compiles m subject a)
  (second : Compiles m operand o)

include minds first second

theorem startsWith_runFrom (pre : List Value) :
    ((subject.startsWith operand collation).compile m).runFrom pre =
      match o.lengthText collation with
      | .ok length => (.ok (.plain (startText a.text length o.text)),pre ++ (a.args ++ o.args))
      | .error cause => (.error cause,pre) := by
  have laid : (Method.startsWith collation).pieces (some a) [o] =
      (o.lengthText collation).map fun length => startPieces a length o := by
    change startTest collation a o = _
    rw [startTest,minds]
    cases o.lengthText collation <;> rfl
  exact measured_runFrom first second laid (fun length => joined_startPieces a length o) pre

theorem endsWith_runFrom (pre : List Value) :
    ((subject.endsWith operand collation).compile m).runFrom pre =
      match o.lengthText collation with
      | .ok length => (.ok (.plain (endText a.text length o.text)),pre ++ (a.args ++ o.args))
      | .error cause => (.error cause,pre) := by
  have laid : (Method.endsWith collation).pieces (some a) [o] =
      (o.lengthText collation).map fun length => endPieces a length o := by
    change endTest collation a o = _
    rw [endTest,minds]
    cases o.lengthText collation <;> rfl
  exact measured_runFrom first second laid (fun length => joined_endPieces a length o) pre

end Minding

-- The texts of tests that ignore case: the operand becomes part of a pattern.
def startPatternText (subject operand : String) : String :=
  "(" ++ subject ++ " like (" ++ operand ++ " || '%'))"

def endPatternText (subject operand : String) : String :=
  "(" ++ subject ++ " like ('%' || " ++ operand ++ "))"

section Ignoring

variable (ignores : collation.ignoresCase = true) (first : Compiles m subject a)
  (second : Compiles m operand o)

include ignores first second

theorem startsWith_pattern (pre : List Value) :
    ((subject.startsWith operand collation).compile m).runFrom pre =
      (.ok (.plain (startPatternText a.text o.text)),pre ++ (a.args ++ o.args)) := by
  rw [Expr.startsWith,affix_runFrom _ first second]
  have laid : (Method.startsWith collation).pieces (some a) [o] =
      .ok [.text "(",.operand a,.text " like (",.operand o,.text " || '%'))"] := if_pos ignores
  simp [laid,startPatternText,Piece.joined,Piece.string,Piece.allArgs,Piece.args,String.append_assoc]

theorem endsWith_pattern (pre : List Value) :
    ((subject.endsWith operand collation).compile m).runFrom pre =
      (.ok (.plain (endPatternText a.text o.text)),pre ++ (a.args ++ o.args)) := by
  rw [Expr.endsWith,affix_runFrom _ first second]
  have laid : (Method.endsWith collation).pieces (some a) [o] =
      .ok [.text "(",.operand a,.text " like ('%' || ",.operand o,.text "))"] := if_pos ignores
  simp [laid,endPatternText,Piece.joined,Piece.string,Piece.allArgs,Piece.args,String.append_assoc]

end Ignoring

-- The length that is written for an operand: that of the text which it carries, or what the
-- database computes of it.
inductive Expr.Measures (m : Mapping) (e : Expr) (text : String) : String → Prop where
  | counted {s : String} : e.carried = some (.scalar (.text s)) →
      Measures m e text (shownNat s.length)
  | computed : e.carried = none → ¬ e.Marked m → Measures m e text ("length(" ++ text ++ ")")

theorem Compiles.lengthText_ok (compiled : Compiles m operand o) {length : String} :
    o.lengthText collation = .ok length ↔ operand.Measures m o.text length := by
  constructor
  · intro measured
    rcases Operand.lengthText_ok measured with ⟨s,valued,rfl⟩ | ⟨unvalued,absent,rfl⟩
    · exact .counted (compiled.carried ▸ valued)
    · exact .computed (compiled.carried ▸ unvalued) (compiled.mark_iff.not.mp absent)
  · rintro (carried | ⟨carried,unmarked⟩)
    · rw [Operand.lengthText,compiled.carried,carried]
    · have absent : o.text.toList.contains '?' = false := by
        simpa using compiled.mark_iff.not.mpr unmarked
      rw [Operand.lengthText,compiled.carried,carried]
      simp only [absent,Bool.false_eq_true,if_false]

theorem Operand.lengthText_error {cause : Error} (failed : o.lengthText collation = .error cause) :
    cause = .compile (.textRequired collation) := by
  unfold Operand.lengthText at failed
  split at failed
  · cases failed
  · split at failed
    · exact (Except.error.inj failed).symm
    · cases failed
  · exact (Except.error.inj failed).symm

-- The length that an operand tells by what is written and bound for it: one placeholder by the
-- text that is bound to it, an operand that binds nothing by itself.
inductive Operand.Tells (o : Operand) : String → Prop where
  | bound {s : String} : o.text = "?" → o.args = [.text s] → Tells o (shownNat s.length)
  | unbound : o.args = [] → Tells o ("length(" ++ o.text ++ ")")

-- Operands that carry a text which they do not compare, an empty list, and names with a mark
-- in them where nothing is bound.
def Expr.Misjudged (m : Mapping) (e : Expr) (o : Operand) : Prop :=
  (¬ e.Captures ∧ ∃ s, e.carried = some (.scalar (.text s))) ∨ e.carried = some (.list []) ∨
    (e.carried = none ∧ e.Marked m ∧ o.args = [])

theorem Captured.negated_eq_emptyList {value : Captured} :
    value.negated = .list [] ↔ value = .list [] := by
  cases value with
  | scalar v => cases v <;> simp [Captured.negated]
  | list items => rfl
  | object fields => rfl

theorem Captured.coerce_emptyList {target : ValueType} {value w : Captured}
    (coerced : value.coerce target = .ok w) : w = .list [] ↔ value = .list [] := by
  cases value with
  | scalar v =>
    obtain ⟨y,rfl,_⟩ := Captured.coerce_scalar.mp coerced
    simp
  | list items =>
    obtain ⟨ws,rfl,each⟩ := Captured.coerce_list.mp coerced
    simp [← List.length_eq_zero_iff,each.length_eq]
  | object fields => cases coerced

theorem Captured.Bindable.args_eq_nil {value : Captured} {args : List Value}
    (bindable : value.Bindable args) : args = [] ↔ value = .list [] := by
  cases bindable <;> simp

theorem Compiles.args_eq_nil {e : Expr} {o : Operand} {value : Captured} (compiled : Compiles m e o)
    (carried : e.carried = some value) : o.args = [] ↔ value = .list [] := by
  induction e using Expr.induct generalizing o value with
  | binary | call | parameter => cases carried
  | not operand ih =>
    obtain ⟨p,inner,rfl⟩ := compiles_not.mp compiled
    obtain ⟨w,held,rfl⟩ := Option.map_eq_some_iff.mp carried
    exact (ih (o := p) inner held).trans Captured.negated_eq_emptyList.symm
  | constant v =>
    cases carried
    exact (compiles_constant.mp compiled).1.args_eq_nil
  | convert target operand ih =>
    obtain ⟨p,inner,outcome⟩ := compiles_convert.mp compiled
    obtain ⟨v,held,coerced⟩ := Option.bind_eq_some_iff.mp carried
    have coerced : v.coerce target = .ok value := by
      cases found : v.coerce target with
      | error cause => rw [found] at coerced; cases coerced
      | ok w => rw [found] at coerced; cases coerced; rfl
    have same : o.args.length = p.args.length := by
      rcases outcome with ⟨_,rfl⟩ | ⟨_,_,_,_,rfl⟩
      · rfl
      · dsimp only
        split
        · exact rebound_length _ _
        · rfl
    rw [← List.length_eq_zero_iff,same,List.length_eq_zero_iff,ih inner held,
      Captured.coerce_emptyList coerced]
  | member receiver field =>
    by_cases record : receiver = .parameter
    · subst record
      cases carried
    · obtain ⟨v,read,bindable,_⟩ := (compiles_evaluated record).mp compiled
      rw [Expr.carried,read] at carried
      cases carried
      exact bindable.args_eq_nil

theorem Compiles.marked_of_bound {e : Expr} {o : Operand} (compiled : Compiles m e o)
    (binds : o.args ≠ []) : e.Marked m := by
  obtain ⟨r,_,agrees⟩ := e.rendered o compiled
  rw [← compiled.mark_iff,← agrees.text]
  cases bound : boundValues r.tokens with
  | nil =>
    have length := agrees.delayed.length
    rw [bound] at length
    exact absurd (List.length_eq_zero_iff.mp length) binds
  | cons v rest => exact mark_of_bound (v := v) (by simp [bound])

theorem Compiles.lone_iff {e : Expr} {o : Operand} {v : Value} (compiled : Compiles m e o) :
    o.text = "?" ∧ o.args = [v] ↔ e.Captures ∧ e.carried = some (.scalar v) := by
  constructor
  · rintro ⟨lone,bound⟩
    have captures := compiled.captures (compiled.valued_of_lone lone) (by rw [lone]; rfl)
    obtain ⟨w,_,bindable,fragment⟩ := captures.compiles_iff.mp compiled
    refine ⟨captures,?_⟩
    rw [← compiled.carried,fragment]
    rw [bound] at bindable
    rw [Operand.text,fragment] at lone
    cases bindable with
    | scalar => rfl
    | list => exact absurd lone (by simp [Captured.placeholder,placeholders])
  · rintro ⟨captures,carried⟩
    obtain ⟨w,_,bindable,fragment⟩ := captures.compiles_iff.mp compiled
    rw [← compiled.carried,fragment] at carried
    cases carried
    refine ⟨by rw [Operand.text,fragment]; rfl,?_⟩
    generalize o.args = args at bindable
    cases bindable
    rfl

-- What an operand tells is what is measured of it, but for the misjudged ones: a text that is
-- carried and not compared, and a mark or an empty list where nothing is bound.
theorem Compiles.tells_iff (compiled : Compiles m operand o) :
    (∀ length, operand.Measures m o.text length ↔ o.Tells length) ↔ ¬ operand.Misjudged m o := by
  have lone : ∀ {s}, o.text = "?" → o.args = [.text s] → operand.Captures ∧
      operand.carried = some (.scalar (.text s)) := fun text bound =>
    compiled.lone_iff.mp ⟨text,bound⟩
  constructor
  -- In each misjudged case one of the two has a length and the other none.
  · rintro agree (⟨computed,s,carried⟩ | carried | ⟨uncarried,marked,unbound⟩)
    · obtain ⟨_,⟨text,bound⟩ | unbound⟩ : ∃ length, o.Tells length :=
        ⟨_,(agree _).mp (.counted carried)⟩
      · exact computed (lone text bound).1
      · cases (compiled.args_eq_nil carried).mp unbound
    · obtain ⟨_,text | ⟨uncarried,_⟩⟩ : ∃ length, operand.Measures m o.text length :=
        ⟨_,(agree _).mpr (.unbound ((compiled.args_eq_nil carried).mpr rfl))⟩
      · cases carried.symm.trans text
      · cases carried.symm.trans uncarried
    · obtain ⟨_,text | ⟨_,unmarked⟩⟩ : ∃ length, operand.Measures m o.text length :=
        ⟨_,(agree _).mpr (.unbound unbound)⟩
      · cases uncarried.symm.trans text
      · exact unmarked marked
  · intro judged length
    constructor
    · rintro (carried | ⟨uncarried,unmarked⟩)
      · by_cases captures : operand.Captures
        · obtain ⟨text,bound⟩ := compiled.lone_iff.mpr ⟨captures,carried⟩
          exact .bound text bound
        · exact absurd (.inl ⟨captures,_,carried⟩) judged
      · by_cases binds : o.args = []
        · exact .unbound binds
        · exact absurd (compiled.marked_of_bound binds) unmarked
    · rintro (⟨text,bound⟩ | unbound)
      · exact .counted (lone text bound).2
      · cases carried : operand.carried with
        | some value =>
          obtain rfl := (compiled.args_eq_nil carried).mp unbound
          exact absurd (.inr (.inl carried)) judged
        | none => exact .computed carried fun marked => judged (.inr (.inr ⟨carried,marked,unbound⟩))

-- Tests that mind case compile where the operand has a length to measure, and write it: the one
-- that the operand tells, unless it is misjudged.
theorem affix_length_measured (minds : collation.ignoresCase = false) (first : Compiles m subject a)
    (second : Compiles m operand o) (pre : List Value) :
    (∀ f after, ((subject.startsWith operand collation).compile m).runFrom pre = (.ok f,after) ↔
      ∃ length, operand.Measures m o.text length ∧
        f = .plain (startText a.text length o.text) ∧ after = pre ++ (a.args ++ o.args)) ∧
    (∀ f after, ((subject.endsWith operand collation).compile m).runFrom pre = (.ok f,after) ↔
      ∃ length, operand.Measures m o.text length ∧
        f = .plain (endText a.text length o.text) ∧ after = pre ++ (a.args ++ o.args)) ∧
    ((∀ length, ¬ operand.Measures m o.text length) →
      ((subject.startsWith operand collation).compile m).runFrom pre =
        (.error (.compile (.textRequired collation)),pre) ∧
      ((subject.endsWith operand collation).compile m).runFrom pre =
        (.error (.compile (.textRequired collation)),pre)) ∧
    ((∀ length, operand.Measures m o.text length ↔ o.Tells length) ↔ ¬ operand.Misjudged m o) := by
  rw [startsWith_runFrom minds first second,endsWith_runFrom minds first second]
  simp only [← @Compiles.lengthText_ok m collation operand o second]
  refine ⟨?_,?_,?_,?_⟩
  · intro f after
    cases measured : o.lengthText collation <;> simp [eq_comm]
  · intro f after
    cases measured : o.lengthText collation <;> simp [eq_comm]
  · intro unmeasured
    cases measured : o.lengthText collation with
    | error cause => simp [Operand.lengthText_error measured]
    | ok length => exact absurd measured (unmeasured length)
  · simp only [second.lengthText_ok]
    exact second.tells_iff

def convertedName : Expr := .convert .text (.value (.text "Zo"))

theorem affix_length_measured_convertedName :
    ((Expr.startsWith (.field "name") convertedName .ordinal).compile person).runFrom [.null] =
      (.ok (.plain "(substr(\"Name\", 1, 2) = ?)"),[.null,.text "Zo"]) ∧
    ((Expr.endsWith (.field "name") convertedName .ordinal).compile person).runFrom [.null] =
      (.ok (.plain "(substr(\"Name\", -2, 2) = ?)"),[.null,.text "Zo"]) := by
  have first : Compiles person (.field "name") ⟨.plain "\"Name\"",[]⟩ := by rfl
  have second : Compiles person convertedName ⟨⟨"?",some (.scalar (.text "Zo"))⟩,[.text "Zo"]⟩ := by
    rfl
  have measures : convertedName.Measures person "?" "2" := .counted (s := "Zo") (by rfl)
  obtain ⟨starts,ends,_,_⟩ :=
    affix_length_measured (show Collation.ordinal.ignoresCase = false by rfl) first second [.null]
  exact ⟨(starts _ _).mpr ⟨"2",measures,by rfl,by rfl⟩,(ends _ _).mpr ⟨"2",measures,by rfl,by rfl⟩⟩

-- A negated text is compared as a truth value, and measured as the text.
def negatedText : Expr := .not (.value (.text "ab"))

def markedName : Mapping where
  table := "Person"
  columns := [(Column.new "name" .text).named "Name?"]

theorem affix_length_misjudged :
    (¬ ∀ (m : Mapping) (collation : Collation) (subject operand : Expr) (a o : Operand)
      (pre after : List Value) (f : Fragment), collation.ignoresCase = false →
      Compiles m subject a → Compiles m operand o →
      ((subject.startsWith operand collation).compile m).runFrom pre = (.ok f,after) →
      ∃ length, o.Tells length ∧ f = .plain (startText a.text length o.text)) ∧
    (¬ ∀ (m : Mapping) (collation : Collation) (subject operand : Expr) (a o : Operand)
      (pre : List Value), collation.ignoresCase = false →
      Compiles m subject a → Compiles m operand o → o.args = [] →
      ∃ f after, ((subject.startsWith operand collation).compile m).runFrom pre = (.ok f,after)) := by
  constructor
  · intro told
    have compiled : (((Expr.field "name").startsWith negatedText .ordinal).compile person).runFrom [] =
        (.ok (.plain "(substr(\"Name\", 1, 2) = NOT(?))"),[.text "ab"]) := by rfl
    obtain ⟨_,⟨text,_⟩ | unbound,_⟩ := told person .ordinal (.field "name") negatedText
      ⟨.plain "\"Name\"",[]⟩ ⟨⟨"NOT(?)",some (.scalar (.text "ab"))⟩,[.text "ab"]⟩ [] _ _
      (by rfl) (by rfl) (by rfl) compiled
    · exact absurd text (by decide)
    · cases unbound
  · intro accepted
    have refused : (((Expr.field "name").startsWith (.field "name") .ordinal).compile
        markedName).runFrom [] = (.error (.compile (.textRequired .ordinal)),[]) := by rfl
    obtain ⟨f,after,compiled⟩ := accepted markedName .ordinal (.field "name") (.field "name")
      ⟨.plain "\"Name?\"",[]⟩ ⟨.plain "\"Name?\"",[]⟩ [] (by rfl) (by rfl) (by rfl) (by rfl)
    cases refused.symm.trans compiled

end TypedRows
