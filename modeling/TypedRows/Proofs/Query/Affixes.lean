import TypedRows.Proofs.Expr.Affixes
import TypedRows.Proofs.Grammar.Writing
import TypedRows.Proofs.Query.Selection
import TypedRows.Proofs.Sql.Window

namespace TypedRows

-- The rows that tests for the start and the end of a text select.

namespace Sql

variable {subject length operand : String} {xs ys zs : List Mark}

theorem opens_equal : Opens ") = " [.symbol ")",.symbol "="] := by
  simpa [Connective.text,Connective.marks,TermOp.text,TermOp.mark] using
    opens_close.append (Connective.term .eq).opens

theorem opens_substr : Opens "(substr(" [.symbol "(",.word "substr",.symbol "("] := by
  simpa using opens_bracket.append (opens_function (plain_functions "substr" (by simp)).word)

theorem edge_text {s : String} {c : Char} (first : s.toList.head? = some c)
    (edge : c = ' ' ∨ c = ',' ∨ c = ')') (rest : List Char) : Edge (s.toList ++ rest) := by
  obtain ⟨cs,chars⟩ := List.head?_eq_some_iff.mp first
  rw [chars]
  exact edge_of_cons edge

theorem scans_startText (first : Scans subject xs) (second : Scans length ys)
    (third : Scans operand zs) : Scans (startText subject length operand)
      ([Mark.symbol "(",.word "substr",.symbol "("] ++ xs ++ [Mark.symbol ",",.integer 1,.symbol ","] ++
        ys ++ [Mark.symbol ")",.symbol "="] ++ zs ++ [Mark.symbol ")"]) := by
  have one : Opens ", 1, " [.symbol ",",.integer 1,.symbol ","] := by
    have numeral : shownNat 1 = "1" := rfl
    simpa [numeral] using
      (opens_separator.operand (scans_number 1)).close opens_separator
        (edge_text (s := ", ") rfl (by decide))
  have window := ((opens_substr.operand first).close one
    (edge_text (s := ", 1, ") rfl (by decide))).operand second
  exact ((window.close opens_equal (edge_text (s := ") = ") rfl (by decide))).operand third |>.close
    opens_close edge_close).scans

theorem scans_endText (first : Scans subject xs) (second : Scans length ys)
    (third : Scans operand zs) : Scans (endText subject length operand)
      ([Mark.symbol "(",.word "substr",.symbol "("] ++ xs ++ [Mark.symbol ",",.symbol "-"] ++ ys ++
        [Mark.symbol ","] ++ ys ++ [Mark.symbol ")",.symbol "="] ++ zs ++ [Mark.symbol ")"]) := by
  have minus : Opens ", -" [.symbol ",",.symbol "-"] := by
    simpa using opens_separator.append opens_minus
  have start := ((opens_substr.operand first).close minus
    (edge_text (s := ", -") rfl (by decide))).operand second
  have window := (start.close opens_separator (edge_text (s := ", ") rfl (by decide))).operand second
  exact ((window.close opens_equal (edge_text (s := ") = ") rfl (by decide))).operand third |>.close
    opens_close edge_close).scans

theorem scans_length (name : String) : Scans ("length(" ++ quotedName name ++ ")")
    [.word "length",.symbol "(",.name name,.symbol ")"] := by
  have word := (plain_functions "length" (by simp)).word
  have whole := ((opens_function word).operand (scans_name name)).close opens_close edge_close
  simpa [String.append_assoc] using whole.scans

def substrTest (column : String) (start length operand : Term) : Term :=
  .binary .eq (.call "substr" [.column true column,start,length]) operand

theorem condition_startText (column : String) (n : Nat) :
    conditionOf (marksOf (startText (quotedName column) (shownNat n) "?")) =
      some (substrTest column (.literal (.integer 1)) (.literal (integerLiteral false n))
        (.parameter 0)) := by
  rw [(scans_startText (scans_name column) (scans_number n) scans_parameter).alone]
  rfl

theorem condition_endText (column : String) (n : Nat) :
    conditionOf (marksOf (endText (quotedName column) (shownNat n) "?")) =
      some (substrTest column (.literal (integerLiteral true n)) (.literal (integerLiteral false n))
        (.parameter 0)) := by
  rw [(scans_endText (scans_name column) (scans_number n) scans_parameter).alone]
  rfl

theorem condition_startText_named (column other : String) :
    conditionOf (marksOf (startText (quotedName column) ("length(" ++ quotedName other ++ ")")
      (quotedName other))) =
      some (substrTest column (.literal (.integer 1)) (.call "length" [.column true other])
        (.column true other)) := by
  rw [(scans_startText (scans_name column) (scans_length other) (scans_name other)).alone]
  rfl

theorem condition_endText_named (column other : String) :
    conditionOf (marksOf (endText (quotedName column) ("length(" ++ quotedName other ++ ")")
      (quotedName other))) =
      some (substrTest column (.negate (.call "length" [.column true other]))
        (.call "length" [.column true other]) (.column true other)) := by
  rw [(scans_endText (scans_name column) (scans_length other) (scans_name other)).alone]
  rfl

structure Countable (s : String) : Prop where
  seen : Seen s
  counted : s.length < 2 ^ 63

section

variable {t : Table} {row : TableRow} {args : List Value}

-- A term with this text for its value, and not one that counts as a number.
structure Term.Gives (t : Table) (row : TableRow) (args : List Value) (term : Term) (s : String) :
    Prop where
  value : (term.scoped t args).eval row = .ok (.text (bytesOf s))
  plain : (comparisonAffinity none (term.scoped t args).affinity).isNumeric = false

def Term.Counts (t : Table) (row : TableRow) (args : List Value) (term : Term) (n : Int64) : Prop :=
  ∃ d, (term.scoped t args).eval row = .ok d ∧ integerOf d = some n

theorem gives_parameter (s : String) : (Term.parameter 0).Gives t row [.text s] s := ⟨rfl,rfl⟩

theorem gives_column {name w : String} {b : Affinity}
    (named : t.named row name = (b,.text (bytesOf w))) (plain : b.isNumeric = false) :
    (Term.column true name).Gives t row args w where
  value := by rw [eval_column,named]
  plain := by
    rw [affinity_column row,named]
    exact plain

theorem counts_literal (negative : Bool) (n : Nat) :
    ∃ k : Int64, (Term.literal (integerLiteral negative n)).Counts t row args k ∧
      (n < 2 ^ 63 → k.toInt = if negative then -(n : Int) else n) := by
  have value : integerLiteral negative n =
      if -2 ^ 63 ≤ (if negative then -(n : Int) else n) ∧ (if negative then -(n : Int) else n) ≤ 2 ^ 63 - 1
      then .integer (Int64.ofInt (if negative then -(n : Int) else n)) else realLiteral negative n 0 := by
    rw [integerLiteral,Int64.toInt_minValue,Int64.toInt_maxValue]
  rw [value]
  generalize whole : (if negative then -(n : Int) else n) = i
  split
  · rename_i inside
    exact ⟨_,⟨_,rfl,rfl⟩,fun _ => Int64.toInt_ofInt_of_le inside.1 (by omega)⟩
  · rename_i outside
    refine ⟨_,⟨_,rfl,rfl⟩,fun small => absurd ?_ outside⟩
    cases negative <;> simp at whole <;> omega

section

variable {name w : String} {b : Affinity} (named : t.named row name = (b,.text (bytesOf w)))
  (countable : Countable w)

include named countable

theorem eval_length : ((Term.call "length" [.column true name]).scoped t args).eval row =
    .ok (.integer (Int64.ofInt w.length)) := by
  have value : (Formula.apply .length [(Term.column true name).scoped t args]).eval row =
      .ok (lengthOf (.text (bytesOf w))) := by
    have inner : ((Term.column true name).scoped t args).eval row = .ok (.text (bytesOf w)) := by
      rw [eval_column,named]
    simp only [Formula.eval,Formula.evalAll,inner]
    rfl
  have length : lengthOf (.text (bytesOf w)) = .integer (Int64.ofInt w.length) := by
    simp [lengthOf,textOf,characters_bytesOf,countable.seen.visible_eq,String.length_toList]
  rw [← length,← value]
  rfl

theorem counts_length :
    (Term.call "length" [.column true name]).Counts t row args (Int64.ofInt w.length) :=
  ⟨_,eval_length named countable,rfl⟩

theorem counts_negated :
    (Term.negate (.call "length" [.column true name])).Counts t row args
      (Int64.ofInt (-w.length)) := by
  have small := countable.counted
  have exact : (Int64.ofInt w.length).toInt = w.length :=
    Int64.toInt_ofInt_of_le (by omega) (by omega)
  have opposite : arithmetic (· - ·) Double.sub (.integer 0) (.integer (Int64.ofInt w.length)) =
      .integer (Int64.ofInt (-w.length)) := by
    simp only [arithmetic,numberOf,exact,Int64.toInt_minValue,Int64.toInt_maxValue]
    rw [if_pos (by simp; omega)]
    simp
  refine ⟨.integer (Int64.ofInt (-w.length)),?_,rfl⟩
  rw [← opposite]
  have inner : ((Term.call "length" [.column true name]).scoped t args).eval row =
      .ok (.integer (Int64.ofInt w.length)) := eval_length named countable
  change (Formula.negate ((Term.call "length" [.column true name]).scoped t args)).eval row = _
  simp only [Formula.eval,inner]
  rfl

end

theorem passes_equal_apply {f : Function} {terms : List Formula} {r : Formula} {ds : List Datum}
    {d e : Datum} (left : Formula.evalAll row terms = .ok ds) (applied : f.apply ds = .ok d)
    (right : r.eval row = .ok e) :
    (Formula.binary .eq (.apply f terms) r).passes row =
      .ok (((compareUnder (comparisonAffinity none r.affinity) d e).map TermOp.eq.holds).getD false) := by
  have value : (Formula.binary .eq (.apply f terms) r).eval row =
      .ok (ofTruth ((compareUnder (comparisonAffinity none r.affinity) d e).map TermOp.eq.holds)) := by
    simp only [Formula.eval,left,right]
    exact congrArg (fun o => o >>= _) applied
  simp only [Formula.passes,Formula.simplified,Formula.holds,value]
  exact congrArg (fun b => Except.ok (Option.getD b false)) (truthOf_ofTruth _)

theorem selects_substr {column text r w : String} {start length operand : Term} {first count : Int64}
    (read : conditionOf (marksOf text) = some (substrTest column start length operand))
    (subject : (t.named row column).2 = .text (bytesOf r)) (begins : start.Counts t row args first)
    (measured : length.Counts t row args count) (given : operand.Gives t row args w) :
    Selects ⟨text,args⟩ t row ↔ window (visible r.toList) first.toInt count.toInt = w.toList := by
  obtain ⟨d,begun,place⟩ := begins
  obtain ⟨e,counted,size⟩ := measured
  have terms : Formula.evalAll row [(Term.column true column).scoped t args,start.scoped t args,
      length.scoped t args] = .ok [.text (bytesOf r),d,e] := by
    simp only [Formula.evalAll,eval_column,subject,begun,counted]
    rfl
  have passes := passes_equal_apply (f := .substr) terms
    (congrArg Except.ok (substring_bytesOf place size)) given.value
  have formed : (substrTest column start length operand).scoped t args = .binary .eq (.apply .substr
      [(Term.column true column).scoped t args,start.scoped t args,length.scoped t args])
      (operand.scoped t args) := rfl
  rw [selects_iff read,formed,passes,Except.ok.injEq,equal_iff,compareUnder_texts given.plain,
    ← String.toList_inj,String.toList_ofList]

-- The tests select what starts and what ends with the operand, as soon as the window is as long
-- as an operand that could be found there.
theorem selects_start {column text r w : String} {length operand : Term} {count : Int64}
    (read : conditionOf (marksOf text) =
      some (substrTest column (.literal (.integer 1)) length operand))
    (subject : (t.named row column).2 = .text (bytesOf r)) (seen : Seen r)
    (measured : length.Counts t row args count) (given : operand.Gives t row args w)
    (exact : w.length ≤ r.length → count.toInt = w.length) :
    Selects ⟨text,args⟩ t row ↔ w.toList <+: r.toList := by
  have one : (Term.literal (.integer 1)).Counts t row args 1 := ⟨_,rfl,rfl⟩
  rw [selects_substr read subject one measured given,seen.visible_eq]
  exact window_eq_iff_prefix fun fits => exact (by simpa [String.length_toList] using fits)

theorem selects_end {column text r w : String} {start length operand : Term} {first count : Int64}
    (read : conditionOf (marksOf text) = some (substrTest column start length operand))
    (subject : (t.named row column).2 = .text (bytesOf r)) (seen : Seen r)
    (begins : start.Counts t row args first) (measured : length.Counts t row args count)
    (given : operand.Gives t row args w)
    (exact : w.length ≤ r.length → first.toInt = -w.length ∧ count.toInt = w.length) :
    Selects ⟨text,args⟩ t row ↔ w.toList <:+ r.toList := by
  rw [selects_substr read subject begins measured given,seen.visible_eq]
  exact window_eq_iff_suffix fun fits => exact (by simpa [String.length_toList] using fits)

end

end Sql

open Sql

variable {m : Mapping} {collation : Collation} {p : String} {column : Column} {t : Table}
  {row : TableRow} {r : String}

theorem compiles_named (field : m.byProperty? p = some column) :
    Compiles m (.field p) ⟨.plain (quotedName column.name),[]⟩ :=
  compiles_field.mpr ⟨column,Mapping.fieldColumn_ok.mpr field,rfl⟩

theorem compiles_text {e : Expr} {s : String} (literal : e.evaluate = .ok (.scalar (.text s))) :
    Compiles m e ⟨⟨"?",some (.scalar (.text s))⟩,[.text s]⟩ :=
  (Expr.captures_of_evaluate literal).compiles_iff.mpr ⟨_,literal,.scalar _,rfl⟩

theorem lengthText_named (name : String) :
    (⟨.plain (quotedName name),[]⟩ : Operand).lengthText collation =
      if '?' ∈ name.toList then .error (.compile (.textRequired collation))
      else .ok ("length(" ++ quotedName name ++ ")") := by
  have marked : ((quotedName name).toList.contains '?' = true) = ('?' ∈ name.toList) :=
    propext (List.contains_iff_mem.trans (mem_quotedName (by decide)))
  simp only [← marked]
  rfl

-- A test compiles, wherever it stands, to a condition that selects the row just when this holds.
def Expr.Decides (m : Mapping) (test : Expr) (args : List Value) (t : Table) (row : TableRow)
    (holds : Prop) : Prop :=
  ∀ pre, ∃ f, (test.compile m).runFrom pre = (.ok f,pre ++ args) ∧
    (Selects ⟨f.text,args⟩ t row ↔ holds)

theorem Expr.Decides.iff {test : Expr} {args : List Value} {P Q : Prop}
    (first : test.Decides m args t row P) (second : test.Decides m args t row Q) : P ↔ Q := by
  obtain ⟨f,compiled,selects⟩ := first []
  obtain ⟨g,again,selects'⟩ := second []
  cases compiled.symm.trans again
  exact selects.symm.trans selects'

theorem Expr.Decides.congr {test : Expr} {args : List Value} {P Q : Prop}
    (decides : test.Decides m args t row P) (same : P ↔ Q) : test.Decides m args t row Q := by
  rwa [← propext same]

section

variable (minds : collation.ignoresCase = false) (field : m.byProperty? p = some column)

include minds field

theorem text_decides {e : Expr} {s : String} (literal : e.evaluate = .ok (.scalar (.text s)))
    (stored : (t.named row column.name).2 = .text (bytesOf r)) (countable : Countable r) :
    ((Expr.field p).startsWith e collation).Decides m [.text s] t row (s.toList <+: r.toList) ∧
      ((Expr.field p).endsWith e collation).Decides m [.text s] t row (s.toList <:+ r.toList) := by
  have first := compiles_named field
  have second := compiles_text (m := m) literal
  have bounded := countable.counted
  obtain ⟨count,measured,size⟩ := @counts_literal t row [.text s] false s.length
  obtain ⟨start,begins,place⟩ := @counts_literal t row [.text s] true s.length
  constructor <;> intro pre
  · refine ⟨_,startsWith_runFrom minds first second pre,?_⟩
    exact selects_start (condition_startText column.name s.length) stored countable.seen measured
      (gives_parameter s) fun fits => size (by omega)
  · refine ⟨_,endsWith_runFrom minds first second pre,?_⟩
    exact selects_end (condition_endText column.name s.length) stored countable.seen begins measured
      (gives_parameter s) fun fits => ⟨place (by omega),size (by omega)⟩

section

variable {q : String} {other : Column} (another : m.byProperty? q = some other)

include another

theorem column_decides {w : String} {b : Affinity} (unmarked : '?' ∉ other.name.toList)
    (stored : (t.named row column.name).2 = .text (bytesOf r)) (seen : Seen r)
    (held : t.named row other.name = (b,.text (bytesOf w))) (plain : b.isNumeric = false)
    (counted : Countable w) :
    ((Expr.field p).startsWith (.field q) collation).Decides m [] t row (w.toList <+: r.toList) ∧
      ((Expr.field p).endsWith (.field q) collation).Decides m [] t row (w.toList <:+ r.toList) := by
  have first := compiles_named field
  have second := compiles_named another
  have bounded := counted.counted
  have size : (Int64.ofInt w.length).toInt = w.length :=
    Int64.toInt_ofInt_of_le (by omega) (by omega)
  have place : (Int64.ofInt (-w.length)).toInt = -w.length :=
    Int64.toInt_ofInt_of_le (by omega) (by omega)
  have given : (Term.column true other.name).Gives t row [] w := gives_column held plain
  have measured : (Term.call "length" [.column true other.name]).Counts t row []
      (Int64.ofInt w.length) := counts_length held counted
  constructor <;> intro pre
  · rw [startsWith_runFrom minds first second,lengthText_named,if_neg unmarked]
    refine ⟨_,rfl,?_⟩
    exact selects_start (condition_startText_named column.name other.name) stored seen measured given
      fun _ => size
  · rw [endsWith_runFrom minds first second,lengthText_named,if_neg unmarked]
    refine ⟨_,rfl,?_⟩
    exact selects_end (condition_endText_named column.name other.name) stored seen
      (counts_negated held counted) measured given fun _ => ⟨place,size⟩

theorem marked_refused (marked : '?' ∈ other.name.toList) (pre : List Value) :
    (((Expr.field p).startsWith (.field q) collation).compile m).runFrom pre =
        (.error (.compile (.textRequired collation)),pre) ∧
      (((Expr.field p).endsWith (.field q) collation).compile m).runFrom pre =
        (.error (.compile (.textRequired collation)),pre) := by
  have first := compiles_named field
  have second := compiles_named another
  rw [startsWith_runFrom minds first second,endsWith_runFrom minds first second,lengthText_named,
    if_pos marked]
  exact ⟨rfl,rfl⟩

end

end

-- Tests that mind case select what starts and what ends with a text, whether it is bound or stands
-- in another column; only a column with a mark in its name cannot be compared.
theorem minding_affixes_exact (minds : collation.ignoresCase = false)
    (field : m.byProperty? p = some column)
    (stored : (t.named row column.name).2 = .text (bytesOf r)) (countable : Countable r) :
    (∀ e s, e.evaluate = .ok (.scalar (.text s)) →
      ((Expr.field p).startsWith e collation).Decides m [.text s] t row (s.toList <+: r.toList) ∧
      ((Expr.field p).endsWith e collation).Decides m [.text s] t row (s.toList <:+ r.toList)) ∧
    (∀ q other b w, m.byProperty? q = some other → '?' ∉ other.name.toList →
      t.named row other.name = (b,.text (bytesOf w)) → b.isNumeric = false → Countable w →
      ((Expr.field p).startsWith (.field q) collation).Decides m [] t row (w.toList <+: r.toList) ∧
      ((Expr.field p).endsWith (.field q) collation).Decides m [] t row (w.toList <:+ r.toList)) ∧
    ∀ q other pre, m.byProperty? q = some other → '?' ∈ other.name.toList →
      (((Expr.field p).startsWith (.field q) collation).compile m).runFrom pre =
        (.error (.compile (.textRequired collation)),pre) ∧
      (((Expr.field p).endsWith (.field q) collation).compile m).runFrom pre =
        (.error (.compile (.textRequired collation)),pre) := by
  refine ⟨?_,?_,?_⟩
  · intro e s literal
    exact text_decides minds field literal stored countable
  · intro q other b w another unmarked held plain counted
    exact column_decides minds field another unmarked stored countable.seen held plain counted
  · intro q other pre another marked
    exact marked_refused minds field another marked pre

def nicknames : Mapping where
  table := "Nickname"
  columns := [(Column.new "name" .text).named "Name",(Column.new "short" .text).named "Short"]

def nicknameTable : Table where
  name := "Nickname"
  columns := [⟨"Name",.text,false,false⟩,⟨"Short",.text,false,false⟩]
  rowKey := none
  counts := false
  highest := 0
  rows := []

def nicknameRow : TableRow := ⟨1,[.text (bytesOf "Zoë"),.text (bytesOf "oë")]⟩

theorem minding_affixes_exact_nicknames :
    ((Expr.field "name").startsWith (.value (.text "Zoë!")) .ordinal).Decides nicknames
      [.text "Zoë!"] nicknameTable nicknameRow False ∧
    ((Expr.field "name").endsWith (.field "short") .ordinal).Decides nicknames [] nicknameTable
      nicknameRow True := by
  have whole : nicknameTable.named nicknameRow "Name" = (.text,.text (bytesOf "Zoë")) := by rfl
  have short : nicknameTable.named nicknameRow "Short" = (.text,.text (bytesOf "oë")) := by rfl
  obtain ⟨texts,columns,_⟩ := minding_affixes_exact (m := nicknames) (p := "name")
    (show Collation.ordinal.ignoresCase = false by rfl) (by rfl) (congrArg Prod.snd whole)
    ⟨by decide,by decide⟩
  have longer : ¬ "Zoë!".toList <+: "Zoë".toList := by decide
  have last : "oë".toList <:+ "Zoë".toList := by decide
  exact ⟨(texts (.value (.text "Zoë!")) "Zoë!" (by rfl)).1.congr (iff_false_intro longer),
    (columns "short" _ _ "oë" (by rfl) (by decide) short (by rfl) ⟨by decide,by decide⟩).2.congr
      (iff_true_intro last)⟩

end TypedRows
