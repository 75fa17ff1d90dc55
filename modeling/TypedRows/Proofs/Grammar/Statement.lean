import TypedRows.Proofs.Grammar.Numbering
import TypedRows.Proofs.Grammar.Writing
import TypedRows.Records

namespace TypedRows.Sql

-- The marks of the statements that work on single records, whatever the names in them hold.

def commas : List (List Mark) → List Mark
  | [] => []
  | [part] => part
  | part :: rest => part ++ .symbol "," :: commas rest

variable {α : Type} {s t : String} {xs ys : List Mark}

theorem Scans.commas {text : α → String} {marks : α → List Mark}
    (each : ∀ a, Scans (text a) (marks a)) (parts : List α) :
    Scans (", ".intercalate (parts.map text)) (Sql.commas (parts.map marks)) := by
  induction parts with
  | nil => exact fun _ _ => rfl
  | cons part rest ih =>
    cases rest with
    | nil => rw [List.map_singleton,List.map_singleton,String.intercalate_singleton]; exact each part
    | cons next rest =>
      have all := ((each part).close opens_separator fun _ => edge_of_cons (.inr (.inl rfl))).operand ih
      rw [List.append_assoc] at all
      rw [List.map_cons,List.map_cons,String.intercalate_cons_cons]
      exact all

def insertMarks (table : String) : List String → List Mark
  | [] => [.word "insert",.word "into",.name table,.word "default",.word "values"]
  | names => [.word "insert",.word "into",.name table,.symbol "("] ++
      commas (names.map fun name => [.name name]) ++
      [.symbol ")",.word "values",.symbol "("] ++ commas (names.map fun _ => [.parameter 0]) ++
      [.symbol ")"]

def updateMarks (table : String) (names : List String) : List Mark :=
  [.word "update",.name table,.word "set"] ++
    commas (names.map fun name => [.name name,.symbol "=",.parameter 0])

def selectMarks (table : String) (names : List String) : List Mark :=
  .word "select" :: commas (names.map fun name => [.name name]) ++ [.word "from",.name table]

def deleteMarks (table : String) : List Mark := [.word "delete",.word "from",.name table]

theorem Scans.follow (first : Scans s xs) (second : Scans t ys)
    (edge : ∀ rest, Edge (t.toList ++ rest)) : Scans (s ++ t) (xs ++ ys) := by
  intro rest last
  rw [String.toList_append,List.append_assoc,first _ (edge rest),second rest last,List.append_assoc]

theorem wordText_iff {w : String} :
    WordText w ↔ w.toList.head?.any isWordStart = true ∧ w.toList.all isWordChar = true := by
  constructor
  · rintro ⟨⟨c,cs,chars,start⟩,inside⟩
    exact ⟨by rw [chars]; exact start,inside⟩
  · rintro ⟨start,inside⟩
    cases chars : w.toList with
    | nil => rw [chars] at start; cases start
    | cons c cs => rw [chars] at start; exact ⟨⟨c,cs,chars,start⟩,inside⟩

instance (w : String) : Decidable (WordText w) := decidable_of_iff' _ wordText_iff

theorem marksOf_insertText (table : String) (names : List String) :
    marksOf (Entity.insertText table names) = insertMarks table names := by
  have into : Opens "insert into " [.word "insert",.word "into"] := by
    simpa using (opens_keyword (w := "insert") (by decide)).append
      (opens_keyword (w := "into") (by decide))
  have start := into.operand (scans_name table)
  cases names with
  | nil =>
    have values : Scans " default values" [.word "default",.word "values"] := by
      simpa using (opens_blank.append (opens_keyword (w := "default") (by decide))).operand
        (scans_word (w := "values") (by decide))
    exact (start.follow values fun _ => edge_of_cons (.inl rfl)).alone
  | cons name names =>
    have bracket : Opens " (" [.symbol "("] := by simpa using opens_blank.append opens_bracket
    have values : Opens ") values (" [.symbol ")",.word "values",.symbol "("] := by
      simpa using (opens_close.append opens_blank).append
        ((opens_keyword (w := "values") (by decide)).append opens_bracket)
    have columns := (start.close bracket edge_blank).operand (Scans.commas scans_name (name :: names))
    have closed := (columns.close values edge_close).operand
      (Scans.commas (fun _ : String => scans_parameter) (name :: names))
    have all := (closed.close opens_close edge_close).scans.alone
    simp only [insertMarks,List.append_assoc] at all ⊢
    exact all

theorem all_commas {test : Mark → Bool} (comma : test (.symbol ",") = true) (parts : List (List Mark)) :
    (commas parts).all test = parts.all fun part => part.all test := by
  fun_induction commas parts with
  | case1 => rfl
  | case2 part => simp
  | case3 part rest _ ih => simp [comma,ih]

theorem quiet_insertMarks (table : String) (names : List String) : Quiet (insertMarks table names) := by
  refine Quiet.of_plain ?_
  cases names with
  | nil => rfl
  | cons name rest => simp [insertMarks,all_commas,Mark.plain]

theorem seen_insertText {table : String} {names : List String} (seen : ∀ name ∈ table :: names, Seen name) :
    Seen (Entity.insertText table names) := by
  obtain ⟨source,columns⟩ := List.forall_mem_cons.mp seen
  have start : Seen ("insert into " ++ quotedName table) := (by decide : Seen _).append source.quotedName
  unfold Entity.insertText
  split
  · exact start.append (by decide)
  · refine ((((start.append (by decide)).append ?_).append (by decide)).append ?_).append (by decide)
    · refine Seen.intercalate (by decide) fun name present => ?_
      obtain ⟨plain,among,rfl⟩ := List.mem_map.mp present
      exact (columns plain among).quotedName
    · refine Seen.intercalate (by decide) fun mark present => ?_
      obtain ⟨_,_,rfl⟩ := List.mem_map.mp present
      decide

theorem countP_commas {test : Mark → Bool} (comma : test (.symbol ",") = false) (parts : List (List Mark)) :
    (commas parts).countP test = (parts.map fun part => part.countP test).sum := by
  fun_induction commas parts with
  | case1 => rfl
  | case2 part => simp
  | case3 part rest _ ih => simp [comma,ih]

theorem parameters_insertMarks (table : String) (names : List String) :
    (insertMarks table names).countP Mark.isParameter = names.length := by
  have comma : Mark.isParameter (.symbol ",") = false := rfl
  cases names with
  | nil => rfl
  | cons name rest =>
    simp [insertMarks,countP_commas comma,Mark.isParameter,Function.comp_def,Nat.add_comm]

theorem tokens_insertText {table : String} {names : List String}
    (seen : ∀ name ∈ table :: names, Seen name) :
    let scanned := tokens (Entity.insertText table names).toList
    scanned.1.map Token.mark = numbered 0 (insertMarks table names) ∧
      (scanned.1.map Token.mark).filter Mark.isParameter =
        (List.range names.length).map .parameter ∧
      scanned.2 = none := by
  have marks := marksOf_insertText table names
  obtain ⟨scanned,rest⟩ := tokens_marksOf (seen_insertText seen) (marks ▸ quiet_insertMarks table names)
  rw [marks] at scanned
  refine ⟨scanned,?_,rest⟩
  rw [scanned,numbered_parameters,parameters_insertMarks,List.range_eq_range']

theorem Scans.where (first : Scans s xs) (condition : Scans t ys) :
    Scans (s ++ " where " ++ t) (xs ++ .word "where" :: ys) := by
  have word : Opens " where " [.word "where"] := by
    simpa using opens_blank.append (opens_keyword (w := "where") (by decide))
  have all := (first.close word fun _ => edge_of_cons (.inl rfl)).operand condition
  rwa [List.append_assoc] at all

theorem scans_equal (name : String) :
    Scans (quotedName name ++ " = ?") [.name name,.symbol "=",.parameter 0] := by
  have all := ((scans_name name).close (Connective.term .eq).opens (Connective.term .eq).edge).operand
    scans_parameter
  simpa [Connective.text,Connective.marks,TermOp.mark,TermOp.text,String.append_assoc] using all

theorem scans_update (table : String) (names : List String) :
    Scans ("update " ++ quotedName table ++ " set " ++
      ", ".intercalate (names.map fun name => quotedName name ++ " = ?")) (updateMarks table names) := by
  have set : Opens " set " [.word "set"] := by
    simpa using opens_blank.append (opens_keyword (w := "set") (by decide))
  have start : Scans ("update " ++ quotedName table) [.word "update",.name table] := by
    simpa using (opens_keyword (w := "update") (by decide)).operand (scans_name table)
  exact (start.close set fun _ => edge_of_cons (.inl rfl)).operand (Scans.commas scans_equal names)

theorem scans_delete (table : String) :
    Scans ("delete from " ++ quotedName table) (deleteMarks table) := by
  simpa [deleteMarks] using ((opens_keyword (w := "delete") (by decide)).append
    (opens_keyword (w := "from") (by decide))).operand (scans_name table)

theorem scans_select (m : Mapping) :
    Scans ("select " ++ m.selectList ++ " from " ++ quotedName m.table)
      (selectMarks m.table (m.columns.map Column.name)) := by
  have select : Opens "select " [.word "select"] := by
    simpa using opens_keyword (w := "select") (by decide)
  have source : Opens " from " [.word "from"] := by
    simpa using opens_blank.append (opens_keyword (w := "from") (by decide))
  have columns := select.operand (Scans.commas (fun c : Column => scans_name c.name) m.columns)
  have all := (columns.close source fun _ => edge_of_cons (.inl rfl)).operand (scans_name m.table)
  simpa [selectMarks,Mapping.selectList,Function.comp_def] using all

end TypedRows.Sql
