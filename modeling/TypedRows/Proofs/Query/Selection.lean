import TypedRows.Database.Handle
import TypedRows.Proofs.Sql.Characters
import TypedRows.Query.Text

namespace TypedRows

-- Which rows a condition selects, and what equality with a column and the test for null say there.

namespace Sql

def conditionOf (marks : List Mark) : Option Term :=
  match Reader.expression.run (marks.map fun mark => ⟨mark,0,0⟩) with
  | .ok (t,[]) => some t
  | _ => none

-- A row passes a condition with these values for its placeholders.
def Selects (condition : Statement) (t : Table) (row : TableRow) : Prop :=
  ∃ term, conditionOf (marksOf condition.text) = some term ∧
    (term.formula ⟨[t],some t,Database.argumentsOf condition.args⟩).passes row = .ok true

def Table.named (t : Table) (row : TableRow) (name : String) : Affinity × Datum :=
  match reference (some t) true name with
  | .field f => (f.affinity,f.read row)
  | .text s => (.blob,.text (bytesOf s))
  | .unknown => (.blob,.null)

def datum (v : Value) : Datum := .ofStored v.stored

def Meets (a : Affinity) (d : Datum) (v : Value) : Prop := compareUnder a d (datum v) = some .eq

variable {t : Table} {row : TableRow} {name text : String} {v : Value} {args : List Value}

def Term.scoped (term : Term) (t : Table) (args : List Value) : Formula :=
  term.formula ⟨[t],some t,Database.argumentsOf args⟩

theorem selects_iff {term : Term} (read : conditionOf (marksOf text) = some term) :
    Selects ⟨text,args⟩ t row ↔ (term.scoped t args).passes row = .ok true := by
  rw [Selects,read]
  exact ⟨fun ⟨_,same,passes⟩ => Option.some.inj same ▸ passes,fun passes => ⟨term,rfl,passes⟩⟩

theorem eval_column (name : String) :
    ((Term.column true name).scoped t args).eval row = .ok (t.named row name).2 := by
  simp only [Term.scoped,Term.formula,Table.named]
  cases reference (some t) true name <;> rfl

theorem affinity_column (row : TableRow) (name : String) :
    comparisonAffinity none ((Term.column true name).scoped t args).affinity =
      (t.named row name).1 := by
  simp only [Term.scoped,Term.formula,Table.named]
  cases reference (some t) true name <;> rfl

theorem truthOf_ofTruth (b : Option Bool) : truthOf (ofTruth b) = b := by
  rcases b with _ | _ | _ <;> rfl

theorem passes_equal (v : Value) :
    ((Term.binary .eq (.column true name) (.parameter 0)).formula
        ⟨[t],some t,Database.argumentsOf [v]⟩).passes row =
      .ok (((compareUnder (t.named row name).1 (t.named row name).2 (datum v)).map
        TermOp.eq.holds).getD false) := by
  rw [← truthOf_ofTruth (Option.map _ _)]
  simp only [Term.formula,Table.named]
  cases reference (some t) true name <;> rfl

theorem passes_is (v : Value) :
    ((Term.is false (.column true name) (.parameter 0)).formula
        ⟨[t],some t,Database.argumentsOf [v]⟩).passes row =
      .ok (isSame (t.named row name).1 (t.named row name).2 (datum v)) := by
  have truth (b : Bool) : b = (truthOf (ofTruth (some (b != false)))).getD false := by
    rw [truthOf_ofTruth]
    cases b <;> rfl
  rw [truth (isSame _ _ _)]
  simp only [Term.formula,Table.named]
  cases reference (some t) true name <;> rfl

theorem equal_iff {o : Option Ordering} : (o.map TermOp.eq.holds).getD false = true ↔ o = some .eq := by
  cases o with
  | none => simp
  | some o => cases o <;> simp [TermOp.holds]

theorem selects_equal (read : conditionOf (marksOf text) =
      some (.binary .eq (.column true name) (.parameter 0))) :
    Selects ⟨text,[v]⟩ t row ↔ Meets (t.named row name).1 (t.named row name).2 v := by
  rw [selects_iff read,Term.scoped,passes_equal,Except.ok.injEq,equal_iff,Meets]

theorem operands_null {a : Affinity} {d e : Datum} :
    (d = .null → (operands a d e).1 = .null) ∧ (e = .null → (operands a d e).2 = .null) := by
  constructor <;> rintro rfl <;> unfold operands <;> repeat' split
  all_goals rfl

theorem compareUnder_null (a : Affinity) (d : Datum) :
    compareUnder a d .null = none ∧ compareUnder a .null d = none := by
  constructor
  · have null := (operands_null (a := a) (d := d)).2 rfl
    unfold compareUnder
    rcases pair : operands a d .null with ⟨x,y⟩
    rw [pair] at null
    cases null
    cases x <;> rfl
  · have null := (operands_null (a := a) (e := d)).1 rfl
    unfold compareUnder
    rcases pair : operands a .null d with ⟨x,y⟩
    rw [pair] at null
    cases null
    rfl

theorem isSame_null (a : Affinity) (d : Datum) : isSame a d .null = (d == .null) := by
  rw [isSame,(compareUnder_null a d).1]
  exact Bool.and_true _

theorem selects_is (read : conditionOf (marksOf text) =
      some (.is false (.column true name) (.parameter 0))) :
    Selects ⟨text,[.null]⟩ t row ↔ (t.named row name).2 = .null := by
  have null : datum .null = .null := rfl
  rw [selects_iff read,Term.scoped,passes_is,Except.ok.injEq,null,isSame_null,beq_iff_eq]

-- Texts are the same when their bytes are, wherever no column takes them for numbers.
theorem compareUnder_texts {a : Affinity} (plain : a.isNumeric = false) (s t : String) :
    compareUnder a (.text (bytesOf s)) (.text (bytesOf t)) = some .eq ↔ s = t := by
  have kept : operands a (.text (bytesOf s)) (.text (bytesOf t)) =
      (.text (bytesOf s),.text (bytesOf t)) := by
    simp [operands,plain,textOperand]
  rw [compareUnder,kept]
  simp only [order,Option.some.injEq]
  rw [Std.LawfulEqOrd.compare_eq_iff_eq,bytesOf_inj]

def Table.single (name : String) (a : Affinity) : Table where
  name := ""
  columns := [⟨name,a,false,false⟩]
  rowKey := none
  counts := false
  highest := 0
  rows := []

theorem named_single (name : String) (a : Affinity) (d : Datum) :
    (Table.single name a).named ⟨0,[d]⟩ name = (a,d) := by
  have found : (Table.single name a).position? name = some 0 := by
    simp [Table.position?,Table.single,sameName]
  simp only [Table.named,reference,Option.bind_some,found]
  rfl

end Sql

end TypedRows
