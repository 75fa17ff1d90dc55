import TypedRows.Proofs.Grammar.Statement
import TypedRows.Proofs.Query.Refusal

namespace TypedRows

-- Which columns the statements for single records write, by their positions in the mapping,
-- and that an insert writes each of them with its own value.

variable {σ ρ : Type}

namespace Mapping

variable {m : Mapping} {keep : Column → Bool}

def positions (m : Mapping) (keep : Column → Bool) : List (Fin m.columns.length) :=
  (List.finRange m.columns.length).filter fun i => keep (m.columns.get i)

theorem mem_positions {i : Fin m.columns.length} :
    i ∈ m.positions keep ↔ keep (m.columns.get i) = true := by
  simp [positions]

theorem positions_sorted : (m.positions keep).Pairwise (· < ·) :=
  List.Pairwise.filter _ (List.pairwise_lt_finRange _)

theorem positions_eq_nil : m.positions keep = [] ↔ ∀ c ∈ m.columns, keep c = false := by
  rw [List.eq_nil_iff_forall_not_mem]
  simp only [mem_positions,Bool.not_eq_true]
  exact ⟨fun none c present => (List.mem_iff_get.mp present).elim fun i same => same ▸ none i,
    fun none i => none _ (List.get_mem _ i)⟩

end Mapping

theorem insertColumns_eq_positions (m : Mapping) : m.insertColumns =
    (m.positions fun c => !c.isGenerated).map fun i => (i.val,m.columns.get i) := by
  have all : m.columns.zipIdx.map (fun entry => (entry.2,entry.1)) =
      (List.finRange m.columns.length).map fun i => (i.val,m.columns.get i) :=
    List.ext_getElem (by simp) fun i _ _ => by simp
  rw [Mapping.insertColumns,all,List.filter_map]
  rfl

namespace Entity

variable {e : Entity ρ} {values : List Value}

theorem written_eq_positions (fits : values.length = e.mapping.columns.length) : e.written values =
    (e.mapping.positions fun c => !c.isGenerated).map fun i =>
      (e.mapping.columns.get i,values.get (i.cast fits.symm)) := by
  rw [written,insertColumns_eq_positions,List.map_map]
  refine List.map_congr_left fun i _ => ?_
  have inside : i.val < values.length := by rw [fits]; exact i.isLt
  simp [List.getD,inside]

def insertStatement (e : Entity ρ) (values : List Value) : Statement :=
  ⟨insertText e.table ((e.written values).map fun entry => entry.1.name),
    (e.written values).map Prod.snd⟩

theorem insertStatement_eq (fits : values.length = e.mapping.columns.length) :
    e.insertStatement values =
      ⟨insertText e.table ((e.mapping.positions fun c => !c.isGenerated).map fun i =>
          (e.mapping.columns.get i).name),
        (e.mapping.positions fun c => !c.isGenerated).map fun i => values.get (i.cast fits.symm)⟩ := by
  rw [insertStatement,written_eq_positions fits,List.map_map,List.map_map]
  rfl

end Entity

def Engine.insertion (engine : Engine σ) (st : Statement) : Step σ Int64 := do
  let _ ← engine.execute st.text st.args
  (engine.lastInsertRowid : StateM σ Int64)

-- A record that fits the columns goes out in one statement. Its names, its placeholders and its
-- arguments follow the same positions, which are those of all columns but the generated ones, in
-- the order of the mapping. The scanner of the engine counts the placeholders in that order and
-- reads the text to its end where no name breaks it off. A record that does not fit is refused,
-- and nothing is sent.
theorem insert_writes_columns (engine : Engine σ) (e : Entity ρ) (record : ρ) (s : σ) :
    ∃ calls, (e.insert engine.noting record).runFrom (s,[]) =
        (((e.insert engine record).runFrom s).1,((e.insert engine record).runFrom s).2,calls) ∧
      ((e.encode record).length ≠ e.mapping.columns.length → calls = [] ∧
        (e.insert engine record).runFrom s = (.error (.conversion
          (.recordLength e.table e.mapping.columns.length (e.encode record).length)),s)) ∧
      ∀ fits : (e.encode record).length = e.mapping.columns.length,
        let positions := e.mapping.positions fun c => !c.isGenerated
        let names := positions.map fun i => (e.mapping.columns.get i).name
        let args := positions.map fun i => (e.encode record).get (i.cast fits.symm)
        positions.Pairwise (· < ·) ∧
        (∀ i, i ∈ positions ↔ ¬ (e.mapping.columns.get i).isGenerated = true) ∧
        (names = [] ↔ ∀ c ∈ e.mapping.columns, c.isGenerated = true) ∧
        ∃ text, Sql.marksOf text = Sql.insertMarks e.table names ∧
          ((∀ name ∈ e.table :: names, Sql.Seen name) →
            let scanned := Sql.tokens text.toList
            scanned.1.map Sql.Token.mark = Sql.numbered 0 (Sql.insertMarks e.table names) ∧
            (scanned.1.map Sql.Token.mark).filter Sql.Mark.isParameter =
              (List.range args.length).map .parameter ∧
            scanned.2 = none) ∧
          statements calls = [⟨text,args⟩] ∧
          (e.insert engine record).runFrom s = (engine.insertion ⟨text,args⟩).runFrom s := by
  obtain ⟨calls,noted,kept⟩ := e.insert_follows engine record s []
  rw [List.nil_append] at noted
  refine ⟨calls,noted,fun unfit => ?_,fun fits => ?_⟩
  · have failed := e.values_error unfit
    rw [Entity.insert,failed] at noted ⊢
    exact ⟨congrArg (fun ran => ran.2.2) noted.symm,rfl⟩
  · have accepted := e.values_ok fits
    have planned : e.insertPlan record = .ok (some (e.insertStatement (e.encode record))) := by
      rw [Entity.insertPlan,accepted]
      rfl
    have ran : (e.insert engine record).runFrom s =
        (engine.insertion (e.insertStatement (e.encode record))).runFrom s := by
      rw [Entity.insert,accepted]
      rfl
    rw [planned] at kept
    rw [Entity.insertStatement_eq fits] at kept ran
    refine ⟨Mapping.positions_sorted,fun i => ?_,?_,_,Sql.marksOf_insertText _ _,fun seen => ?_,
      kept,ran⟩
    · simp [Mapping.mem_positions]
    · simp [Mapping.positions_eq_nil]
    · have scanned := Sql.tokens_insertText seen
      rwa [List.length_map] at scanned ⊢

def outskirts : Mapping where
  table := "Out\"skirts"
  columns := [(Column.new "before" .text).named "what?",(Column.new "id" .integer).key.counted,
    (Column.new "after" .integer).named "a\", \"b"]

def seventh : Engine (List Call) := .scripted ⟨1,.empty,7,none⟩

theorem insert_writes_columns_outskirts :
    (∃ text, Sql.marksOf text = [.word "insert",.word "into",.name "Out\"skirts",.symbol "(",
        .name "what?",.symbol ",",.name "a\", \"b",.symbol ")",.word "values",.symbol "(",
        .parameter 0,.symbol ",",.parameter 0,.symbol ")"] ∧
      ((Sql.tokens text.toList).1.map Sql.Token.mark).filter Sql.Mark.isParameter =
        [.parameter 0,.parameter 1] ∧
      (outskirts.valuesEntity.insert seventh [.text "x",.int 3,.null]).runFrom [] =
        (.ok 7,[.execute text [.text "x",.null],.lastInsertRowid])) ∧
    ∃ cause, (outskirts.valuesEntity.insert seventh [.text "x"]).runFrom [] =
      (.error (.conversion cause),[]) := by
  constructor
  · obtain ⟨_,_,_,sends⟩ :=
      insert_writes_columns seventh outskirts.valuesEntity [.text "x",.int 3,.null] []
    obtain ⟨_,_,_,text,marks,counts,_,ran⟩ := sends rfl
    exact ⟨text,marks,(counts (by decide)).2.1,ran⟩
  · obtain ⟨_,_,refused,_⟩ := insert_writes_columns seventh outskirts.valuesEntity [.text "x"] []
    exact ⟨_,(refused (by decide)).2⟩

end TypedRows
