import TypedRows.Proofs.Expr.Carried
import TypedRows.Proofs.Grammar.Lexemes

namespace TypedRows

-- The names of columns in the text of a condition. Each stands between quotes of its own, and
-- the only other quotes are those in the names of unknown methods.

variable {m : Mapping} {quiet : Prop} {xs ys : List String}

-- The names in the operands of a call, in the order of its text. A text that is compared with
-- the start or the end of another is written once more for each time that it is measured.
def Method.arranged (method : Method) (receiver : Option (List String))
    (args : List (List String)) : List String :=
  match method, receiver, args with
  | .contains, none, [collection,item] => item ++ collection
  | .startsWith collation, some subject, [start] =>
      if collation.ignoresCase then subject ++ start else subject ++ start ++ start
  | .endsWith collation, some subject, [ending] =>
      if collation.ignoresCase then subject ++ ending else subject ++ ending ++ ending ++ ending
  | _, receiver, args => (receiver.toList ++ args).flatten

mutual

def Expr.columnNames (m : Mapping) : Expr → List String
  | .binary _ left right => Expr.columnNames m left ++ Expr.columnNames m right
  | .not operand => Expr.columnNames m operand
  | .call method receiver args =>
      method.arranged (Expr.receiverNames m receiver) (Expr.argNames m args)
  | .convert _ operand => Expr.columnNames m operand
  | .member .parameter field => ((m.byProperty? field).map Column.name).toList
  | _ => []

def Expr.receiverNames (m : Mapping) : Option Expr → Option (List String)
  | none => none
  | some receiver => some (Expr.columnNames m receiver)

def Expr.argNames (m : Mapping) : List Expr → List (List String)
  | [] => []
  | arg :: rest => Expr.columnNames m arg :: Expr.argNames m rest

end

def Expr.NamesUnquoted (e : Expr) : Prop :=
  ∀ name receiver args, .call (.other name) receiver args ∈ e.parts →
    '"' ∉ (Text.lowercase name).toList

theorem Expr.NamesUnquoted.part {e e' : Expr} (names : e.NamesUnquoted)
    (inside : ∀ part ∈ e'.parts, part ∈ e.parts) : e'.NamesUnquoted :=
  fun name receiver args present => names name receiver args (inside _ present)

theorem columnNames_member {receiver : Expr} (captured : receiver ≠ .parameter) (field : String) :
    (Expr.member receiver field).columnNames m = [] := by
  cases receiver with
  | parameter => exact absurd rfl captured
  | _ => rfl

theorem columnNames_of_carried {e : Expr} (carried : e.carried ≠ none) : e.columnNames m = [] := by
  induction e using Expr.induct with
  | binary | call | parameter => exact absurd rfl carried
  | constant value => rfl
  | not operand ih =>
    refine ih fun absent => carried ?_
    rw [Expr.carried,absent]
    rfl
  | convert target operand ih =>
    refine ih fun absent => carried ?_
    rw [Expr.carried,absent]
    rfl
  | member receiver field =>
    refine columnNames_member (fun record => carried ?_) field
    subst record
    rfl

structure Operand.Shows (quiet : Prop) (o : Operand) (names : List String) : Prop where
  text : TypedRows.Shows quiet names o.text
  valued : o.fragment.value ≠ none → names = []

namespace Shows

variable {s t u : String}

theorem between {a b : String} (first : Shows quiet xs a) (second : Shows quiet ys b)
    (left : '"' ∉ s.toList) (middle : Divider t) (right : Divider u) :
    Shows quiet (xs ++ ys) (s ++ a ++ t ++ b ++ u) := by
  simpa only [String.append_assoc] using
    (first.divided middle (second.before right)).after fun _ => left

theorem within {a : String} (shows : Shows quiet xs a) (left : '"' ∉ s.toList) (right : Divider u) :
    Shows quiet xs (s ++ a ++ u) := by
  simpa only [String.append_assoc] using (shows.before right).after fun _ => left

end Shows

theorem unquoted_shownNat (n : Nat) : '"' ∉ (shownNat n).toList := by
  rw [shownNat,String.toList_ofList]
  exact fun present => absurd (Text.isDigit_of_mem_numeral present) (by decide)

namespace Operand.Shows

variable {o : Operand}

theorem length {collation : Collation} {text : String} (shows : o.Shows quiet xs)
    (measured : o.lengthText collation = .ok text) : TypedRows.Shows quiet xs text := by
  rcases Operand.lengthText_ok measured with ⟨text,valued,rfl⟩ | ⟨_,_,rfl⟩
  · rw [shows.valued (by simp [valued])]
    exact .literal fun _ => unquoted_shownNat _
  · exact shows.text.within (by decide) (by decide)

theorem between {p q : Operand} (first : p.Shows quiet xs) (second : q.Shows quiet ys)
    {s t u : String} (left : '"' ∉ s.toList) (middle : Divider t) (right : Divider u) :
    TypedRows.Shows quiet (xs ++ ys)
      (Piece.joined [.text s,.operand p,.text t,.operand q,.text u]) := by
  simpa [Piece.joined,String.append_assoc] using first.text.between second.text left middle right

theorem within (shows : o.Shows quiet xs) {s u : String} (left : '"' ∉ s.toList)
    (right : Divider u) : TypedRows.Shows quiet xs (Piece.joined [.text s,.operand o,.text u]) := by
  simpa [Piece.joined,String.append_assoc] using shows.text.within left right

theorem separated {os : List Operand} {bs : List (List String)}
    (each : List.Forall₂ (Shows quiet) os bs) :
    TypedRows.Shows quiet bs.flatten (Piece.joined (separated os)) := by
  induction each with
  | nil => exact .literal fun _ => by decide
  | @cons o x os bs first rest ih =>
    cases rest with
    | nil => simpa [TypedRows.separated,Piece.joined] using first.text
    | @cons o' y os bs second rest =>
      have divided := first.text.divided (d := ",") (by decide) ih
      simpa [TypedRows.separated,Piece.joined] using divided

-- The other text stands behind its length, and the length of a text that is known is a numeral.
theorem startTest {collation : Collation} {p : Operand} {ps : List Piece}
    (subject : o.Shows quiet xs) (start : p.Shows quiet ys)
    (laid : TypedRows.startTest collation o p = .ok ps) :
    TypedRows.Shows quiet ((Method.startsWith collation).arranged (.some xs) [ys])
      (Piece.joined ps) := by
  rcases startTest_ok laid with ⟨ignores,rfl⟩ | ⟨minds,length,measured,rfl⟩
  · rw [Method.arranged,if_pos ignores]
    exact subject.between start (by decide) (by decide) (by decide)
  · have behind := start.text.before (t := ")") (by decide)
    have measures := (start.length measured).divided (d := ") = ") (by decide) behind
    have all := subject.text.divided (d := ", 1, ") (by decide) measures
    rw [Method.arranged,if_neg minds]
    simpa [Piece.joined,Piece.string,String.append_assoc] using
      all.after (s := "(substr(") fun _ => by decide

theorem endTest {collation : Collation} {p : Operand} {ps : List Piece}
    (subject : o.Shows quiet xs) (ending : p.Shows quiet ys)
    (laid : TypedRows.endTest collation o p = .ok ps) :
    TypedRows.Shows quiet ((Method.endsWith collation).arranged (.some xs) [ys])
      (Piece.joined ps) := by
  rcases endTest_ok laid with ⟨ignores,rfl⟩ | ⟨minds,length,measured,rfl⟩
  · rw [Method.arranged,if_pos ignores]
    exact subject.between ending (by decide) (by decide) (by decide)
  · have behind := ending.text.before (t := ")") (by decide)
    have length := ending.length measured
    have measures := length.divided (d := ", ") (by decide)
      (length.divided (d := ") = ") (by decide) behind)
    have all := subject.text.divided (d := ", -") (by decide) measures
    rw [Method.arranged,if_neg minds]
    simpa [Piece.joined,Piece.string,String.append_assoc] using
      all.after (s := "(substr(") fun _ => by decide

theorem pieces {method : Method} {whole : Option Operand} {rest : List Operand} {ps : List Piece}
    {a : Option (List String)} {bs : List (List String)}
    (first : List.Forall₂ (Shows quiet) whole.toList a.toList)
    (second : List.Forall₂ (Shows quiet) rest bs)
    (unquoted : ∀ name, method = .other name → quiet → '"' ∉ (Text.lowercase name).toList)
    (laid : method.pieces whole rest = .ok ps) :
    TypedRows.Shows quiet (method.arranged a bs) (Piece.joined ps) := by
  unfold Method.pieces at laid
  split at laid
  · obtain rfl := none_of_forall₂ first
    obtain ⟨x,y,rfl,subject,pattern⟩ := two_of_forall₂ second
    cases laid
    simpa [Method.arranged,likeTest] using
      subject.between pattern (by decide) (by decide) (by decide)
  · obtain ⟨x,rfl,subject⟩ := some_of_forall₂ first
    obtain ⟨y,rfl,pattern⟩ := one_of_forall₂ second
    cases laid
    simpa [Method.arranged,likeTest] using
      subject.between pattern (by decide) (by decide) (by decide)
  · obtain rfl := none_of_forall₂ first
    obtain ⟨x,y,rfl,collection,item⟩ := two_of_forall₂ second
    cases laid
    exact item.between collection (by decide) (by decide) (by decide)
  · obtain ⟨x,rfl,subject⟩ := some_of_forall₂ first
    obtain ⟨y,rfl,part⟩ := one_of_forall₂ second
    split at laid
    · rename_i list
      cases laid
      have none : x = [] := subject.valued fun absent => by simp [Fragment.isList,absent] at list
      subst none
      simpa [Method.arranged,membership] using
        part.between subject (by decide) (by decide) (by decide)
    · cases laid
      simpa [Method.arranged] using subject.between part (by decide) (by decide) (by decide)
  · obtain ⟨x,rfl,subject⟩ := some_of_forall₂ first
    obtain ⟨y,rfl,start⟩ := one_of_forall₂ second
    exact subject.startTest start laid
  · obtain ⟨x,rfl,subject⟩ := some_of_forall₂ first
    obtain ⟨y,rfl,ending⟩ := one_of_forall₂ second
    exact subject.endTest ending laid
  · obtain ⟨x,rfl,left⟩ := some_of_forall₂ first
    obtain ⟨y,rfl,right⟩ := one_of_forall₂ second
    cases laid
    simpa [Method.arranged] using left.between right (by decide) (by decide) (by decide)
  · obtain ⟨x,rfl,subject⟩ := some_of_forall₂ first
    cases second
    cases laid
    simpa [Method.arranged] using subject.within (by decide) (by decide)
  · obtain ⟨x,rfl,subject⟩ := some_of_forall₂ first
    cases second
    cases laid
    simpa [Method.arranged] using subject.within (by decide) (by decide)
  · obtain ⟨x,rfl,subject⟩ := some_of_forall₂ first
    obtain ⟨y,z,rfl,old,new⟩ := two_of_forall₂ second
    cases laid
    have later := old.text.divided (d := ", ") (by decide)
      (new.text.before (t := "))") (by decide))
    have all := subject.text.divided (d := ", ") (by decide) later
    simpa [Method.arranged,Piece.joined,String.append_assoc] using
      all.after (s := "(replace(") fun _ => by decide
  · rename_i name
    cases laid
    have operands := separated (List.rel_append first second)
    have clean : quiet → '"' ∉ (Text.lowercase name ++ "(").toList := fun holds => by
      simpa using unquoted name rfl holds
    change TypedRows.Shows quiet (a.toList ++ bs).flatten _
    simpa [Piece.joined,String.append_assoc] using
      (operands.before (t := ")") (by decide)).after clean
  · cases laid

end Operand.Shows

theorem argNames_eq_map (args : List Expr) :
    Expr.argNames m args = args.map (Expr.columnNames m) := by
  induction args with
  | nil => rfl
  | cons arg rest ih => rw [Expr.argNames,ih,List.map_cons]

theorem receiverNames_toList (receiver : Option Expr) :
    (Expr.receiverNames m receiver).toList = receiver.toList.map (Expr.columnNames m) := by
  cases receiver <;> rfl

theorem shows_nullComparison {op : Operator} {f : Fragment} {text : String}
    (shows : Shows quiet xs f.text) (compared : nullComparison op f = .ok text) :
    Shows quiet xs text := by
  cases op <;> cases compared
  · exact shows.within (by decide) (by decide)
  · exact shows.within (by decide) (by decide)

theorem shows_join {op : Operator} {a b : Fragment} {text : String} (first : Shows quiet xs a.text)
    (second : Shows quiet ys b.text) (joined : op.join a b = .ok text) :
    Shows quiet (xs ++ ys) text := by
  have null {f : Fragment} {names : List String} (shows : Shows quiet names f.text)
      (null : f.isNullPlaceholder = true) : names = [] := by
    rw [Fragment.isNullPlaceholder,Bool.and_eq_true,beq_iff_eq] at null
    exact shows.none (by rw [null.1]; decide)
  unfold Operator.join at joined
  split at joined
  · rename_i left
    rw [null first left]
    exact shows_nullComparison second joined
  · split at joined
    · rename_i right
      rw [null second right,List.append_nil]
      exact shows_nullComparison first joined
    · split at joined
      · rename_i sql spelled
        cases joined
        have divider : Divider (" " ++ sql ++ " ") := by cases op <;> cases spelled <;> decide
        simpa only [String.append_assoc] using
          first.between second (s := "(") (by decide) divider (u := ")") (by decide)
      · cases joined

theorem Captured.shows_placeholder (value : Captured) : Shows quiet [] value.placeholder := by
  cases value with
  | list items =>
    have marks : Shows quiet [] (",".intercalate ((List.replicate items.length "?").map id)) := by
      refine .intercalate_literal (by decide) fun mark present => ?_
      rw [List.eq_of_mem_replicate present]
      decide
    rw [List.map_id] at marks
    exact marks.within (by decide) (by decide)
  | scalar | object => exact .literal fun _ => by simp [placeholder]

theorem Compiles.shows_of_text {e : Expr} {o : Operand} (compiled : Compiles m e o)
    (text : Shows quiet (e.columnNames m) o.text) : o.Shows quiet (e.columnNames m) :=
  ⟨text,fun valued => columnNames_of_carried (compiled.carried ▸ valued)⟩

theorem operands_show {es : List Expr} {os : List Operand}
    (compiled : List.Forall₂ (Compiles m) es os)
    (each : ∀ e ∈ es, ∀ o, Compiles m e o → Shows quiet (e.columnNames m) o.text) :
    List.Forall₂ (Operand.Shows quiet) os (es.map (Expr.columnNames m)) := by
  induction compiled with
  | nil => exact .nil
  | cons single _ ih =>
    exact .cons (single.shows_of_text (each _ List.mem_cons_self _ single))
      (ih fun e present => each e (List.mem_cons_of_mem _ present))

theorem Compiles.shows {e : Expr} {o : Operand} (compiled : Compiles m e o)
    (unquoted : quiet → e.NamesUnquoted) : Shows quiet (e.columnNames m) o.text := by
  induction e using Expr.induct generalizing o with
  | binary op left right first second =>
    obtain ⟨a,b,text,compiledLeft,compiledRight,joined,rfl⟩ := compiles_binary.mp compiled
    refine shows_join (first compiledLeft fun holds => ?_)
      (second compiledRight fun holds => ?_) joined
    · exact (unquoted holds).part fun part present => by simp [Expr.parts,present]
    · exact (unquoted holds).part fun part present => by simp [Expr.parts,present]
  | not operand ih =>
    obtain ⟨a,inner,rfl⟩ := compiles_not.mp compiled
    have shows := ih inner fun holds =>
      (unquoted holds).part fun part present => by simp [Expr.parts,present]
    exact shows.within (by decide) (by decide)
  | call method receiver args first second =>
    obtain ⟨whole,rest,ps,compiledReceiver,compiledArgs,laid,rfl⟩ := compiles_call.mp compiled
    have inside (child : Expr) (present : child ∈ receiver.toList ++ args) (holds : quiet) :
        child.NamesUnquoted :=
      (unquoted holds).part fun part inner => mem_callParts.mpr (.inr ⟨child,present,inner⟩)
    have ofReceiver := operands_show compiledReceiver fun child present _ single =>
      first child present single (inside child (List.mem_append_left _ present))
    have ofArgs := operands_show compiledArgs fun child present _ single =>
      second child present single (inside child (List.mem_append_right _ present))
    rw [← receiverNames_toList] at ofReceiver
    rw [← argNames_eq_map] at ofArgs
    refine Operand.Shows.pieces ofReceiver ofArgs ?_ laid
    rintro name rfl holds
    exact unquoted holds name receiver args (Expr.mem_parts _)
  | constant value =>
    obtain ⟨_,fragment⟩ := compiles_constant.mp compiled
    rw [Operand.text,fragment]
    exact value.shows_placeholder
  | convert target operand ih =>
    obtain ⟨a,inner,outcome⟩ := compiles_convert.mp compiled
    have shows := ih inner fun holds =>
      (unquoted holds).part fun part present => by simp [Expr.parts,present]
    obtain ⟨_,rfl⟩ | ⟨v,w,_,_,rfl⟩ := outcome
    · exact shows
    · exact shows
  | member receiver field =>
    by_cases record : receiver = .parameter
    · subst record
      obtain ⟨column,found,rfl⟩ := compiles_field.mp compiled
      rw [Expr.columnNames,Mapping.fieldColumn_ok.mp found]
      exact .name column.name
    · obtain ⟨value,_,_,fragment⟩ := (compiles_evaluated record).mp compiled
      rw [columnNames_member record,Operand.text,fragment]
      exact value.shows_placeholder
  | parameter => exact (compiles_parameter compiled).elim

end TypedRows
