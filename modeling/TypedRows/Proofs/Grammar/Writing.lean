import TypedRows.Proofs.Grammar.Phrase
import TypedRows.Proofs.Grammar.Scanning

namespace TypedRows.Sql

-- Texts and what is read of them, put together in the ways in which statements are.

def TermOp.text : TermOp → String
  | .or => "or"
  | .and => "and"
  | .eq => "="
  | .ne => "!="
  | .lt => "<"
  | .le => "<="
  | .gt => ">"
  | .ge => ">="
  | .bitAnd => "&"
  | .bitOr => "|"
  | .add => "+"
  | .subtract => "-"
  | .concat => "||"

def TermOp.mark : TermOp → Mark
  | .or => .word "or"
  | .and => .word "and"
  | op => .symbol op.text

namespace Connective

def text : Connective → String
  | .term op => op.text
  | .is => "is"
  | .isNot => "is not"
  | .among => "in"
  | .like => "like"

def marks : Connective → List Mark
  | .term op => [op.mark]
  | .is => [.word "is"]
  | .isNot => [.word "is",.word "not"]
  | .among => [.word "in"]
  | .like => [.word "like"]

theorem opens (c : Connective) : Opens (" " ++ c.text ++ " ") c.marks := by
  cases c with
  | term op => cases op <;> exact opens_spaced rfl rfl fun _ => rfl
  | is => exact opens_spaced rfl rfl fun _ => rfl
  | isNot =>
    have first : Opens (" " ++ "is" ++ " ") [.word "is"] := opens_spaced rfl rfl fun _ => rfl
    have second : Opens ("not" ++ " ") [.word "not"] := fun _ =>
      marksFrom_first ['o','t'] rfl rfl
    exact first.append second
  | among => exact opens_spaced rfl rfl fun _ => rfl
  | like => exact opens_spaced rfl rfl fun _ => rfl

theorem edge (c : Connective) (rest : List Char) : Edge ((" " ++ c.text ++ " ").toList ++ rest) := by
  rw [String.toList_append,String.toList_append,List.append_assoc,List.append_assoc]
  exact edge_of_cons (.inl rfl)

-- An `is` takes a `not` behind it as its own.
theorem next_marks {c : Connective} {marks : List Mark}
    (apart : c = .is → ∃ later, marks = .parameter 0 :: later) (rest : List Mark) :
    next (c.marks ++ (marks ++ rest)) = some (c,marks ++ rest) := by
  cases c with
  | term op => cases op <;> rfl
  | is =>
    obtain ⟨later,rfl⟩ := apart rfl
    rfl
  | isNot => rfl
  | among => rfl
  | like => rfl

end Connective

def Phrase.ofText (s : String) : Option Phrase := Phrase.ofMarks (marksOf s)

def Whole (s : String) (p : Phrase) : Prop :=
  p.isNot = false ∧ ∃ marks, Scans s marks ∧ Phrase.Closed marks p

-- A text that is read as one operand, or as a negation, by what stands behind it.
def Written (s : String) (p : Phrase) : Prop := ∃ marks, Scans s marks ∧ Phrase.Stands marks p

def Item (s : String) (p : Phrase) : Prop :=
  ∃ marks, Scans s marks ∧ Phrase.Fills .disjunction marks p

def Items (s : String) (ps : List Phrase) : Prop := ∃ marks, Scans s marks ∧ Phrase.Lists marks ps

variable {s t w : String} {p q : Phrase} {ps : List Phrase}

theorem edge_close (rest : List Char) : Edge (")".toList ++ rest) := edge_of_cons (.inr (.inr rfl))

theorem Whole.written (whole : Whole s p) : Written s p := by
  obtain ⟨whole,marks,scans,closed⟩ := whole
  exact ⟨marks,scans,.closed closed whole⟩

theorem Written.item (written : Written s p) : Item s p := by
  obtain ⟨marks,scans,stands⟩ := written
  exact ⟨marks,scans,stands.fills⟩

theorem Item.ofText (item : Item s p) : Phrase.ofText s = some p := by
  obtain ⟨marks,scans,fills⟩ := item
  rw [Phrase.ofText,scans.alone]
  exact fills.ofMarks

theorem Item.one (item : Item s p) : Items s [p] := by
  obtain ⟨marks,scans,fills⟩ := item
  exact ⟨marks,scans,.one fills⟩

theorem Item.cons {separator : String} (comma : separator = "," ∨ separator = ", ") (first : Item s p)
    (rest : Items t ps) : Items (s ++ separator ++ t) (p :: ps) := by
  obtain ⟨marks,scans,fills⟩ := first
  obtain ⟨marks',scans',lists⟩ := rest
  have opens : Opens separator [.symbol ","] := by
    rcases comma with rfl | rfl
    · exact opens_comma
    · exact opens_separator
  have edge (rest : List Char) : Edge (separator.toList ++ rest) := by
    rcases comma with rfl | rfl <;> exact edge_of_cons (.inr (.inl rfl))
  have all := (scans.close opens edge).operand scans'
  rw [List.append_assoc] at all
  exact ⟨_,all,.cons fills lists⟩

theorem Items.group (items : Items s ps) : Whole ("(" ++ s ++ ")") (.group ps) := by
  obtain ⟨marks,scans,lists⟩ := items
  have all := (opens_bracket.operand scans).close opens_close edge_close
  exact ⟨rfl,_,all.scans,Phrase.Inside.group (.inr lists)⟩

theorem whole_emptyGroup : Whole "()" (.group []) :=
  ⟨rfl,_,(opens_bracket.append opens_close).scans,Phrase.Inside.group (.inl ⟨rfl,rfl⟩)⟩

structure PlainWord (w : String) : Prop where
  word : WordText w
  free : isReserved w = false

theorem Items.call (items : Items s ps) (plain : PlainWord w) :
    Whole (w ++ "(" ++ s ++ ")") (.call w ps) := by
  obtain ⟨marks,scans,lists⟩ := items
  have all := ((opens_function plain.word).operand scans).close opens_close edge_close
  exact ⟨rfl,_,all.scans,Phrase.Inside.call (.inr lists) plain.free⟩

theorem plain_functions :
    ∀ w ∈ ["substr","instr","lower","upper","replace","length"], PlainWord w := by
  intro w known
  simp only [List.mem_cons,List.not_mem_nil,or_false] at known
  rcases known with rfl | rfl | rfl | rfl | rfl | rfl <;>
    exact ⟨⟨⟨_,_,rfl,by decide⟩,by decide⟩,by decide⟩

theorem PlainWord.call (plain : PlainWord w) : Whole (w ++ "(" ++ ")") (.call w []) :=
  ⟨rfl,_,((opens_function plain.word).append opens_close).scans,
    Phrase.Inside.call (.inl ⟨rfl,rfl⟩) plain.free⟩

theorem Whole.negative (whole : Whole s p) : Whole ("-" ++ s) (.negative p) := by
  obtain ⟨_,marks,scans,closed⟩ := whole
  exact ⟨rfl,_,opens_minus.operand scans,closed.negative⟩

theorem Item.not (item : Item s p) : Written ("NOT(" ++ s ++ ")") (.not (.group [p])) := by
  obtain ⟨marks,scans,fills⟩ := item
  have word : WordText "NOT" := ⟨⟨'N',['O','T'],rfl,by decide⟩,by decide⟩
  have all := ((opens_function word).operand scans).close opens_close edge_close
  exact ⟨_,all.scans,.negated (Phrase.Inside.group (.inr (.one fills)))⟩

theorem Written.joined (first : Written s p) (second : Written t q) (c : Connective)
    (apart : c = .is → t = "?") : Item (s ++ (" " ++ c.text ++ " ") ++ t) (Phrase.attached c p q) := by
  obtain ⟨marks,scans,stands⟩ := first
  obtain ⟨marks',scans',stands'⟩ := second
  have all := (scans.close c.opens c.edge).operand scans'
  rw [List.append_assoc] at all
  have parameter (same : c = .is) : ∃ later, marks' = .parameter 0 :: later := by
    cases apart same
    exact ⟨[],scans'.unique scans_parameter⟩
  exact ⟨_,all,Phrase.Stands.join stands' (Connective.next_marks parameter) stands⟩

theorem whole_parameter : Whole "?" .parameter := ⟨rfl,_,scans_parameter,Phrase.closed_parameter 0⟩

theorem whole_name (name : String) : Whole (quotedName name) (.name name) :=
  ⟨rfl,_,scans_name name,Phrase.closed_name name⟩

theorem whole_number (n : Nat) : Whole (shownNat n) (.number n) :=
  ⟨rfl,_,scans_number n,Phrase.closed_number n⟩

theorem whole_anything : Whole "'%'" (.text "%") := ⟨rfl,_,scans_anything,Phrase.closed_text "%"⟩

end TypedRows.Sql
