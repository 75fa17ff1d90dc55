import Mathlib.Data.List.Nodup
import TypedRows.Proofs.Query.Deletion
import TypedRows.Proofs.Query.Insertion
import TypedRows.Proofs.Query.Selection

namespace TypedRows

-- Which row an update, a look-up and a delete of a single record go to.

namespace Entity

open Sql

variable {name : String} {v w : Value} {t : Table} {row : TableRow}

def keyEquality (name : String) (v : Value) : Statement := ⟨quotedName name ++ " = ?",[v]⟩

theorem scans_keyCondition : Scans (keyCondition name v).text
    [.symbol "(",.name name,if v.isNull then .word "is" else .symbol "=",.parameter 0,.symbol ")"] := by
  unfold keyCondition
  cases v.isNull with
  | true =>
    have is : Opens " is " [.word "is"] := by
      simpa using opens_blank.append (opens_keyword (w := "is") (by decide))
    have test := ((scans_name name).close is fun _ => edge_of_cons (.inl rfl)).operand scans_parameter
    have all := (opens_bracket.operand test).close opens_close edge_close
    simpa [String.append_assoc] using all.scans
  | false =>
    have all := (opens_bracket.operand (scans_equal name)).close opens_close edge_close
    simpa [String.append_assoc] using all.scans

theorem selects_keyEquality : Selects (keyEquality name v) t row ↔
    Meets (t.named row name).1 (t.named row name).2 v := by
  have read : conditionOf (marksOf (keyEquality name v).text) =
      some (.binary .eq (.column true name) (.parameter 0)) := by
    rw [keyEquality,(scans_equal name).alone]
    rfl
  exact selects_equal read

theorem selects_keyCondition_null : Selects (keyCondition name .null) t row ↔
    (t.named row name).2 = .null := by
  have read : conditionOf (marksOf (keyCondition name .null).text) =
      some (.is false (.column true name) (.parameter 0)) := by
    rw [scans_keyCondition.alone]
    rfl
  exact selects_is read

theorem selects_keyCondition (known : v ≠ .null) : Selects (keyCondition name v) t row ↔
    Meets (t.named row name).1 (t.named row name).2 v := by
  have equality : v.isNull = false := by
    cases v with
    | null => exact absurd rfl known
    | _ => rfl
  have read : conditionOf (marksOf (keyCondition name v).text) =
      some (.binary .eq (.column true name) (.parameter 0)) := by
    rw [scans_keyCondition.alone,equality]
    rfl
  exact selects_equal read

theorem same_rows_iff : (∀ t row, Selects (keyEquality name v) t row ↔
      Selects (keyCondition name w) t row) ↔
    w ≠ .null ∧ ∀ a d, Meets a d v ↔ Meets a d w := by
  constructor
  · intro same
    have known : w ≠ .null := by
      rintro rfl
      have row := same (.single name .blob) ⟨0,[.null]⟩
      rw [selects_keyEquality,selects_keyCondition_null,named_single] at row
      have met : compareUnder .blob .null (datum v) = some .eq := row.mpr rfl
      rw [(compareUnder_null .blob _).2] at met
      cases met
    refine ⟨known,fun a d => ?_⟩
    have row := same (.single name a) ⟨0,[d]⟩
    rwa [selects_keyEquality,selects_keyCondition known,named_single] at row
  · rintro ⟨known,alike⟩ t row
    rw [selects_keyEquality,selects_keyCondition known]
    exact alike _ _

end Entity

namespace Mapping

variable {m : Mapping} {keep : Column → Bool} {values : List Value}

theorem filter_columns : m.columns.filter keep = (m.positions keep).map m.columns.get := by
  conv_lhs => rw [← List.map_get_finRange m.columns,List.filter_map]
  rfl

theorem filter_entries (keep : Column → Bool) (fits : values.length = m.columns.length) :
    ((m.columns.zip values).filter fun entry => keep entry.1) =
      (m.positions keep).map fun i => (m.columns.get i,values.get (i.cast fits.symm)) := by
  have all : m.columns.zip values = (List.finRange m.columns.length).map fun i =>
      (m.columns.get i,values.get (i.cast fits.symm)) :=
    List.ext_getElem (by simp [fits]) fun i _ _ => by simp
  rw [all,List.filter_map]
  rfl

theorem positions_ends (kept : ∃ c ∈ m.columns, keep c = true) :
    ∃ first last, (m.positions keep).head? = some first ∧
      (m.positions keep).getLast? = some last ∧ keep (m.columns.get first) = true ∧
      keep (m.columns.get last) = true ∧
      ∀ i, keep (m.columns.get i) = true → first ≤ i ∧ i ≤ last := by
  have sorted : (m.positions keep).Pairwise (· < ·) := positions_sorted
  have nonempty : m.positions keep ≠ [] := by
    obtain ⟨c,present,keeps⟩ := kept
    exact fun none => absurd (positions_eq_nil.mp none c present) (by simp [keeps])
  obtain ⟨first,later,front⟩ := List.exists_cons_of_ne_nil nonempty
  obtain ⟨earlier,last,back⟩ := (List.eq_nil_or_concat _).resolve_left nonempty
  rw [List.concat_eq_append] at back
  refine ⟨first,last,by rw [front]; rfl,by rw [back,List.getLast?_concat],
    mem_positions.mp (by simp [front]),mem_positions.mp (by simp [back]),fun i keeps => ⟨?_,?_⟩⟩
  · have member := mem_positions.mpr keeps
    rw [front] at sorted member
    rcases List.mem_cons.mp member with rfl | after
    · exact Nat.le_refl _
    · exact Nat.le_of_lt (List.rel_of_pairwise_cons sorted after)
  · have member := mem_positions.mpr keeps
    rw [back] at sorted member
    rcases List.mem_append.mp member with before | final
    · exact Nat.le_of_lt ((List.pairwise_append.mp sorted).2.2 i before last List.mem_cons_self)
    · exact Nat.le_of_eq (congrArg Fin.val (List.mem_singleton.mp final))

theorem primaryKey?_of_head {first : Fin m.columns.length}
    (head : (m.positions Column.primaryKey).head? = some first) :
    m.primaryKey? = some (m.columns.get first) := by
  rw [primaryKey?,← List.head?_filter,filter_columns,List.head?_map,head]
  rfl

theorem fieldColumn_of_apart {column : Column} (apart : (m.columns.map Column.property).Nodup)
    (present : column ∈ m.columns) : m.fieldColumn column.property = .ok column := by
  rw [fieldColumn_ok,byProperty?]
  cases found : m.columns.find? fun c => c.property = column.property with
  | none => exact absurd (List.find?_eq_none.mp found column present) (by simp)
  | some other =>
    have same : other.property = column.property := by simpa using List.find?_some found
    rw [List.inj_on_of_nodup_map apart (List.mem_of_find?_eq_some found) present same]

end Mapping

namespace Entity

open Sql

variable {ρ : Type} {e : Entity ρ} {record : ρ} {first last : Fin e.mapping.columns.length}
  {key : Value}

theorem keyColumn_ok (head : (e.mapping.positions Column.primaryKey).head? = some first)
    (action : KeyAction) : e.keyColumn action = .ok (e.mapping.columns.get first) := by
  rw [keyColumn,Mapping.primaryKey?_of_head head]

section

variable (fits : (e.encode record).length = e.mapping.columns.length)
  (head : (e.mapping.positions Column.primaryKey).head? = some first)

include fits head

theorem updatePlan_eq (ends : (e.mapping.positions Column.primaryKey).getLast? = some last) :
    let plain := e.mapping.positions fun c => !c.primaryKey
    let value i := (e.encode record).get (i.cast fits.symm)
    let condition := keyEquality (e.mapping.columns.get first).name (value last)
    e.updatePlan record = .ok (if plain = [] then none else some
      ⟨"update " ++ quotedName e.table ++ " set " ++ ", ".intercalate
          ((plain.map fun i => (e.mapping.columns.get i).name).map fun name =>
            quotedName name ++ " = ?") ++ " where " ++ condition.text,
        plain.map value ++ condition.args⟩) := by
  have plain := Mapping.filter_entries (fun c => !c.primaryKey) fits
  have keys := Mapping.filter_entries Column.primaryKey fits
  have key : keyValue (e.mapping.columns.zip (e.encode record)) =
      (e.encode record).get (last.cast fits.symm) := by
    rw [keyValue,keys,List.getLast?_map,ends]
    rfl
  rw [updatePlan,keyColumn_ok head,values_ok e fits]
  change (if (e.plainEntries (e.encode record)).isEmpty then _ else _) = _
  rw [plainEntries,plain,key]
  by_cases none : (e.mapping.positions fun c => !c.primaryKey) = []
  · simp [none]
    rfl
  · simp [none,keyEquality,Function.comp_def,String.append_assoc]
    rfl

theorem deleteRecordPlan_eq (apart : (e.mapping.columns.map Column.property).Nodup) :
    let condition := keyCondition (e.mapping.columns.get first).name
      ((e.encode record).get (first.cast fits.symm))
    e.deleteRecordPlan record = .ok (some
      ⟨"delete from " ++ quotedName e.table ++ " where " ++ condition.text,condition.args⟩) := by
  have keys := Mapping.filter_entries Column.primaryKey fits
  have column := Mapping.fieldColumn_of_apart apart (List.get_mem e.mapping.columns first)
  have key : ((e.mapping.columns.zip (e.encode record)).find? fun entry => entry.1.primaryKey) =
      some (e.mapping.columns.get first,(e.encode record).get (first.cast fits.symm)) := by
    rw [← List.head?_filter,keys,List.head?_map,head]
    rfl
  refine bind_ok.mpr ⟨_,keyColumn_ok head .delete,bind_ok.mpr ⟨_,values_ok e fits,?_⟩⟩
  rw [key]
  exact bind_ok.mpr ⟨_,rfl,bind_ok.mpr ⟨_,condition_keyTest column _,rfl⟩⟩

end

theorem findPlan_eq (head : (e.mapping.positions Column.primaryKey).head? = some first)
    (apart : (e.mapping.columns.map Column.property).Nodup) :
    let condition := keyCondition (e.mapping.columns.get first).name key
    (do return some (← (← e.keyQuery key).single.statement) : Plan) = .ok (some
      ⟨"select " ++ e.mapping.selectList ++ " from " ++ quotedName e.table ++ " where " ++
        condition.text ++ " limit 1",condition.args⟩) := by
  have column := Mapping.fieldColumn_of_apart apart (List.get_mem e.mapping.columns first)
  have query : e.keyQuery key =
      .ok ((Query.all e).narrowed (keyTest (e.mapping.columns.get first) key)) :=
    bind_ok.mpr ⟨_,keyColumn_ok head .find,rfl⟩
  have clause : e.mapping.whereClause (some (keyTest (e.mapping.columns.get first) key)) =
      .ok ⟨" where " ++ (keyCondition (e.mapping.columns.get first).name key).text,[key]⟩ :=
    bind_ok.mpr ⟨_,condition_keyTest column key,rfl⟩
  refine bind_ok.mpr ⟨_,query,return_ok.mpr ⟨_,bind_ok.mpr ⟨_,clause,rfl⟩,?_⟩⟩
  have page : pageText (some 1) none = " limit 1" := by decide
  have text (start condition : String) : start ++ (" where " ++ condition) ++ orderText [] ++
      pageText (some 1) none = start ++ " where " ++ condition ++ " limit 1" := by
    rw [page,orderText,String.append_empty,← String.append_assoc]
  exact congrArg (fun text => some (Statement.mk text [key])) (text _ _)

end Entity

open Sql

variable {σ ρ : Type}

theorem marksOf_where {s t : String} {xs ys : List Mark} (first : Scans s xs)
    (condition : Scans t ys) : marksOf (s ++ " where " ++ t) = xs ++ .word "where" :: marksOf t := by
  rw [condition.alone]
  exact (first.where condition).alone

theorem marksOf_find (m : Mapping) (name : String) (key : Value) :
    marksOf ("select " ++ m.selectList ++ " from " ++ quotedName m.table ++ " where " ++
        (Entity.keyCondition name key).text ++ " limit 1") =
      selectMarks m.table (m.columns.map Column.name) ++
        .word "where" :: marksOf (Entity.keyCondition name key).text ++
        [.word "limit",.integer 1] := by
  have limit : Scans " limit 1" [.word "limit",.integer 1] := by
    have number : shownNat 1 = "1" := by decide
    have all := (opens_blank.append (opens_keyword (w := "limit") (by decide))).operand
      (scans_number 1)
    rw [number] at all
    simpa using all
  have condition : Scans (Entity.keyCondition name key).text _ := Entity.scans_keyCondition
  rw [condition.alone]
  exact (((scans_select m).where condition).follow limit fun _ => edge_of_cons (.inl rfl)).alone

-- An update binds the columns outside the key at their own positions. Its condition names the
-- first key column and is bound to the value of the last one, by equality; a delete and a
-- look-up test the first key column for the value of that column, and null by `is`. So they go
-- to the same rows where the value of the first key column is not null and compares as that of
-- the last one.
theorem record_rows_by_key (engine : Engine σ) (e : Entity ρ) (record : ρ)
    (keyed : ∃ c ∈ e.mapping.columns, c.primaryKey = true)
    (apart : (e.mapping.columns.map Column.property).Nodup)
    (fits : (e.encode record).length = e.mapping.columns.length) :
    ∃ first last,
      let column := e.mapping.columns.get
      let value i := (e.encode record).get (i.cast fits.symm)
      let plain := e.mapping.positions fun c => !c.primaryKey
      let names := plain.map fun i => (column i).name
      let changed := Entity.keyEquality (column first).name (value last)
      let sought := Entity.keyCondition (column first).name (value first)
      e.mapping.primaryKey? = some (column first) ∧
      ((column first).primaryKey = true ∧ (column last).primaryKey = true ∧
        ∀ i, (column i).primaryKey = true → first ≤ i ∧ i ≤ last) ∧
      (plain.Pairwise (· < ·) ∧ ∀ i, i ∈ plain ↔ ¬ (column i).primaryKey = true) ∧
      (plain = [] → Follows (e.update engine record) (e.update engine.noting record) (.ok none)) ∧
      (plain ≠ [] → ∃ text,
        marksOf text = updateMarks e.table names ++ .word "where" :: marksOf changed.text ∧
        Follows (e.update engine record) (e.update engine.noting record)
          (.ok (some ⟨text,plain.map value ++ changed.args⟩))) ∧
      (∃ text, marksOf text = deleteMarks e.table ++ .word "where" :: marksOf sought.text ∧
        Follows (e.deleteRecord engine record) (e.deleteRecord engine.noting record)
          (.ok (some ⟨text,sought.args⟩))) ∧
      (∃ text, marksOf text = selectMarks e.table (e.mapping.columns.map Column.name) ++
          .word "where" :: marksOf sought.text ++ [.word "limit",.integer 1] ∧
        Follows (e.find engine (value first)) (e.find engine.noting (value first))
          (.ok (some ⟨text,sought.args⟩))) ∧
      ((∀ t row, Selects changed t row ↔ Selects sought t row) ↔
        value first ≠ .null ∧ ∀ a d, Meets a d (value last) ↔ Meets a d (value first)) := by
  obtain ⟨first,last,head,ends,firstKey,lastKey,between⟩ := Mapping.positions_ends keyed
  have updates := e.update_follows engine record
  have deletes := e.deleteRecord_follows engine record
  have finds := e.find_follows engine ((e.encode record).get (first.cast fits.symm))
  rw [Entity.updatePlan_eq fits head ends] at updates
  rw [Entity.deleteRecordPlan_eq fits head apart] at deletes
  rw [Entity.findPlan_eq head apart] at finds
  refine ⟨first,last,Mapping.primaryKey?_of_head head,⟨firstKey,lastKey,between⟩,
    ⟨Mapping.positions_sorted,fun i => by simp [Mapping.mem_positions]⟩,fun none => ?_,
    fun some => ⟨_,marksOf_where (scans_update _ _) (scans_equal _),?_⟩,
    ⟨_,marksOf_where (scans_delete _) Entity.scans_keyCondition,deletes⟩,
    ⟨_,marksOf_find e.mapping _ _,finds⟩,Entity.same_rows_iff⟩
  · rwa [if_pos none] at updates
  · rwa [if_neg some] at updates

def pairing : Mapping where
  table := "Pair"
  columns := [(Column.new "a" .integer).key,(Column.new "b" .integer).key,Column.new "c" .text]

def paired : List Value := [.int 1,.int 2,.text "z"]

theorem record_rows_by_key_pairing :
    (∃ text, statements ((pairing.valuesEntity.update seventh.noting paired).runFrom ([],[])).2.2 =
      [⟨text,[.text "z",.int 2]⟩]) ∧
    ∃ text,
      statements ((pairing.valuesEntity.deleteRecord seventh.noting paired).runFrom ([],[])).2.2 =
        [⟨text,[.int 1]⟩] := by
  obtain ⟨first,last,_,⟨_,lastKey,between⟩,_,_,updates,⟨text',_,deletes⟩,_⟩ :=
    record_rows_by_key seventh pairing.valuesEntity paired (by decide) (by decide) rfl
  have start : first = ⟨0,by decide⟩ := by
    have least := (between ⟨0,by decide⟩ rfl).1
    exact Fin.ext (Nat.le_zero.mp least)
  have final : last = ⟨1,by decide⟩ := by
    have least : 1 ≤ last.val := (between ⟨1,by decide⟩ rfl).2
    match last,lastKey with
    | ⟨0,_⟩,_ => exact absurd least (Nat.not_succ_le_zero 0)
    | ⟨1,_⟩,_ => rfl
    | ⟨2,_⟩,outside => cases outside
  subst start final
  obtain ⟨text,_,updates⟩ := updates (by decide)
  obtain ⟨calls,ran,sent⟩ := updates [] []
  obtain ⟨calls',ran',sent'⟩ := deletes [] []
  exact ⟨⟨text,by rw [ran]; exact sent⟩,⟨text',by rw [ran']; exact sent'⟩⟩

-- An update of a record with two key columns is bound to the wrong one of them, and a record
-- whose key is null is deleted but never updated.
theorem update_misses_row :
    (¬ ∀ (e : Entity (List Value)) (record : List Value)
        (fits : (e.encode record).length = e.mapping.columns.length)
        (first : Fin e.mapping.columns.length) (text : String) (args : List Value),
      (e.mapping.columns.map Column.property).Nodup → (e.mapping.columns.map Column.name).Nodup →
      e.mapping.primaryKey? = some (e.mapping.columns.get first) →
      e.updatePlan record = .ok (some ⟨text,args⟩) →
      args.getLast? = some ((e.encode record).get (first.cast fits.symm))) ∧
    ¬ ∀ name v t row, Selects (Entity.keyEquality name v) t row ↔
      Selects (Entity.keyCondition name v) t row := by
  constructor
  · intro bound
    have last := bound pairing.valuesEntity paired rfl ⟨0,by decide⟩ _ _ (by decide) (by decide) rfl rfl
    cases last
  · intro same
    exact (Entity.same_rows_iff.mp (same "Id" .null)).1 rfl

end TypedRows
