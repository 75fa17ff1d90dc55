import Mathlib.Data.List.Induction
import Mathlib.Data.List.TakeWhile
import TypedRows.Rows

namespace TypedRows

-- What an answer keeps of the rows that are added to it, and which value of a row has a name.

def LastAt (name : String) (names : List String) (i : Nat) : Prop :=
  names[i]? = some name ∧ ∀ j, i < j → names[j]? ≠ some name

section Lookup

variable {name other : String} {names rest : List String} {i : Nat}

theorem lastAt_zero : LastAt name (other :: rest) 0 ↔ other = name ∧ name ∉ rest := by
  rw [LastAt,List.getElem?_cons_zero,Option.some.injEq,List.mem_iff_getElem?,not_exists]
  refine and_congr_right fun _ => ⟨fun last j => last (j + 1) (Nat.zero_lt_succ j),fun absent j later => ?_⟩
  obtain ⟨k,rfl⟩ := Nat.exists_eq_succ_of_ne_zero (Nat.ne_of_gt later)
  exact absent k

theorem lastAt_succ : LastAt name (other :: rest) (i + 1) ↔ LastAt name rest i := by
  rw [LastAt,List.getElem?_cons_succ]
  refine and_congr_right fun _ => ⟨fun last j later => last (j + 1) (Nat.succ_lt_succ later),?_⟩
  intro last j later
  cases j with
  | zero => exact absurd later (Nat.not_lt_zero _)
  | succ j => exact last j (Nat.lt_of_succ_lt_succ later)

theorem lastIndexOf_eq_none : lastIndexOf name names = none ↔ name ∉ names := by
  induction names with
  | nil => simp [lastIndexOf]
  | cons other rest ih =>
    rw [lastIndexOf,List.mem_cons,not_or,← ih,@eq_comm _ name]
    cases lastIndexOf name rest <;> simp

theorem lastIndexOf_eq_some : lastIndexOf name names = some i ↔ LastAt name names i := by
  induction names generalizing i with
  | nil => simp [lastIndexOf,LastAt]
  | cons other rest ih =>
    rw [lastIndexOf]
    cases i with
    | zero =>
      rw [lastAt_zero,← lastIndexOf_eq_none]
      cases lastIndexOf name rest <;> simp
    | succ i =>
      rw [lastAt_succ,← ih]
      cases lastIndexOf name rest with
      | none => simp
      | some k => simp

theorem get?_filled (names : List String) (first : Nat) (filled : Fields Nat) :
    Fields.get? name ((names.zipIdx first).foldl (fun fields entry =>
        Fields.insert entry.1 entry.2 fields) filled) =
      ((lastIndexOf name names).map (· + first)).or (Fields.get? name filled) := by
  induction names generalizing first filled with
  | nil => simp [lastIndexOf]
  | cons other rest ih =>
    rw [List.zipIdx_cons,List.foldl_cons,ih,lastIndexOf,Fields.get?_insert]
    cases lastIndexOf name rest with
    | some k => simp [Nat.add_right_comm,Nat.add_assoc]
    | none => by_cases same : other = name <;> simp [same,@eq_comm _ name]

end Lookup

namespace Row

variable {row : Row} {name : String} {v : Value}

theorem get?_eq_some : row.get? name = some v ↔
    ∃ i, LastAt name row.names i ∧ row.values[i]? = some v := by
  simp only [get?,index?,at?,Option.bind_eq_some_iff,lastIndexOf_eq_some]

theorem get?_eq_none : row.get? name = none ↔
    name ∉ row.names ∨ ∃ i, LastAt name row.names i ∧ row.values.length ≤ i := by
  rw [get?,index?]
  cases found : lastIndexOf name row.names with
  | none => simp [lastIndexOf_eq_none.mp found]
  | some i =>
    have last := lastIndexOf_eq_some.mp found
    have present : name ∈ row.names := List.mem_of_getElem? last.1
    simp only [Option.bind_some,at?,List.getElem?_eq_none_iff,present,not_true_eq_false,false_or]
    constructor
    · exact fun beyond => ⟨i,last,beyond⟩
    · rintro ⟨j,last',beyond⟩
      cases found.symm.trans (lastIndexOf_eq_some.mpr last')
      exact beyond

end Row

namespace ResultSet

inductive Call where
  | setNames (names : List String)
  | add (values : List Value)

def Call.names? : Call → Option (List String)
  | .setNames names => some names
  | .add _ => none

def Call.values? : Call → Option (List Value)
  | .setNames _ => none
  | .add values => some values

def Call.apply : Call → ResultSet → ResultSet
  | .setNames names => ResultSet.setNames names
  | .add values => ResultSet.add values

def after (calls : List Call) : ResultSet := calls.foldl (fun rs call => call.apply rs) empty

def inForce (calls : List Call) : Option (List String) := (calls.filterMap Call.names?).getLast?

def added (calls : List Call) : List (List Value) :=
  (calls.dropWhile fun call => call.names?.isNone).filterMap Call.values?

variable {calls : List Call} {rs : ResultSet}

theorem inForce_setNames (calls : List Call) (names : List String) :
    inForce (calls ++ [.setNames names]) = some names := by
  simp [inForce,Call.names?]

theorem inForce_add (calls : List Call) (values : List Value) :
    inForce (calls ++ [.add values]) = inForce calls := by
  simp [inForce,Call.names?]

theorem added_setNames (calls : List Call) (names : List String) :
    added (calls ++ [.setNames names]) = added calls := by
  unfold added
  rw [List.dropWhile_append]
  split
  · rename_i none
    rw [List.isEmpty_iff.mp none]
    rfl
  · simp [Call.values?]

theorem added_add (calls : List Call) (values : List Value) : added (calls ++ [.add values]) =
    added calls ++ if (inForce calls).isSome then [values] else [] := by
  have unset : (calls.dropWhile fun call => call.names?.isNone) = [] ↔ inForce calls = none := by
    simp [inForce,List.dropWhile_eq_nil_iff]
  unfold added
  rw [List.dropWhile_append]
  split
  · rename_i none
    have none := List.isEmpty_iff.mp none
    rw [unset.mp none,none]
    rfl
  · rename_i some
    rw [List.isEmpty_iff,unset,← ne_eq,Option.ne_none_iff_isSome] at some
    simp [some,Call.values?]

-- What a run of calls leaves: the values that were added, each with the names in force then.
structure Records (calls : List Call) (rs : ResultSet) : Prop where
  names : rs.names = inForce calls
  values : rs.rows.map Row.values = added calls
  affected : rs.affected = rs.rows.length
  origin : ∀ i row, rs.rows[i]? = some row → ∃ before later,
    calls = before ++ .add row.values :: later ∧ inForce before = some row.names ∧
      (added before).length = i

theorem Records.length (records : Records calls rs) : rs.rows.length = (added calls).length := by
  rw [← records.values,List.length_map]

theorem Records.setNames (records : Records calls rs) (names : List String) :
    Records (calls ++ [.setNames names]) (rs.setNames names) where
  names := (inForce_setNames calls names).symm
  values := by
    rw [added_setNames]
    exact records.values
  affected := records.affected
  origin i row found := by
    obtain ⟨before,later,rfl,named,place⟩ := records.origin i row found
    exact ⟨before,later ++ [.setNames names],by simp,named,place⟩

theorem Records.add (records : Records calls rs) (values : List Value) :
    Records (calls ++ [.add values]) (rs.add values) := by
  have earlier : ∀ i row, rs.rows[i]? = some row → ∃ before later,
      calls ++ [.add values] = before ++ .add row.values :: later ∧
        inForce before = some row.names ∧ (added before).length = i := by
    intro i row found
    obtain ⟨before,later,rfl,named,place⟩ := records.origin i row found
    exact ⟨before,later ++ [.add values],by simp,named,place⟩
  have names := records.names
  unfold ResultSet.add
  cases set : rs.names with
  | none =>
    rw [set] at names
    refine ⟨?_,?_,records.affected,earlier⟩
    · rw [inForce_add,set,names]
    · rw [added_add,← names,records.values]
      simp
  | some current =>
    rw [set] at names
    refine ⟨?_,?_,?_,fun i row found => ?_⟩
    · rw [inForce_add,← names]
    · rw [added_add,← names,List.map_append,records.values]
      rfl
    · simp [records.affected]
    · rw [List.getElem?_append] at found
      split at found
      · exact earlier i row found
      · rename_i beyond
        obtain ⟨last,rfl⟩ : i - rs.rows.length = 0 ∧ ⟨current,values⟩ = row := by
          simpa [List.getElem?_singleton] using found
        refine ⟨calls,[],rfl,names.symm,?_⟩
        rw [← records.length]
        omega

theorem records_after (calls : List Call) : Records calls (after calls) := by
  induction calls using List.reverseRecOn with
  | nil => exact ⟨rfl,rfl,rfl,fun i row found => by cases found⟩
  | append_singleton calls call ih =>
    rw [after,List.foldl_append]
    cases call with
    | setNames names => exact ih.setNames names
    | add values => exact ih.add values

theorem rows_prefix (calls : List Call) (rs : ResultSet) :
    rs.rows <+: (calls.foldl (fun rs call => call.apply rs) rs).rows := by
  induction calls generalizing rs with
  | nil => exact List.prefix_refl _
  | cons call rest ih =>
    refine List.IsPrefix.trans ?_ (ih (call.apply rs))
    cases call with
    | setNames names => exact List.prefix_refl _
    | add values =>
      change rs.rows <+: (rs.add values).rows
      unfold ResultSet.add
      split
      · exact List.prefix_refl _
      · exact List.prefix_append _ _

-- However names are set and rows are added: from the first names on every row is counted and kept,
-- with its own values and the names in force when it was added, and no later call changes it. On a
-- row a name stands for the value at its last position, where the row has one there.
theorem result_set_keeps_rows (calls : List Call) :
    let rs := after calls
    (rs.affected = (added calls).length ∧ rs.size = (added calls).length ∧
      rs.rows.length = (added calls).length) ∧
    rs.rows.map Row.values = added calls ∧
    (∀ i row, rs.rows[i]? = some row → ∃ before later, calls = before ++ .add row.values :: later ∧
      inForce before = some row.names ∧ (added before).length = i) ∧
    (∀ more, rs.rows <+: (after (calls ++ more)).rows) ∧
    ∀ row ∈ rs.rows, ∀ name,
      (∀ i, row.index? name = some i ↔ LastAt name row.names i) ∧
      row.index? name = Fields.get? name (Fields.ofList row.names.zipIdx) ∧
      (∀ v, row.get? name = some v ↔ ∃ i, LastAt name row.names i ∧ row.values[i]? = some v) ∧
      (row.get? name = none ↔
        name ∉ row.names ∨ ∃ i, LastAt name row.names i ∧ row.values.length ≤ i) ∧
      (∀ v, row.require name = .ok v ↔ row.get? name = some v) ∧
      (row.require name = .error (.conversion (.missingColumn name)) ↔ row.get? name = none) := by
  intro rs
  have records : Records calls rs := records_after calls
  refine ⟨⟨records.affected.trans records.length,records.length,records.length⟩,records.values,
    records.origin,fun more => ?_,fun row _ name => ⟨fun i => lastIndexOf_eq_some,?_,
      fun v => Row.get?_eq_some,Row.get?_eq_none,fun v => ?_,?_⟩⟩
  · rw [after,List.foldl_append]
    exact rows_prefix more rs
  · rw [Fields.ofList,get?_filled row.names 0 []]
    simp [Row.index?,Fields.get?]
  · unfold Row.require
    cases row.get? name <;> simp
  · unfold Row.require
    cases row.get? name <;> simp

def patchwork : List Call :=
  [.add [.int 0],.setNames ["A","B","A"],.add [.int 1,.int 2],.setNames ["B"],.add [.int 3,.int 4]]

theorem result_set_keeps_rows_patchwork :
    (after patchwork).rows[0]? = some ⟨["A","B","A"],[.int 1,.int 2]⟩ ∧
    (after patchwork).affected = 2 ∧
    (∃ before later, patchwork = before ++ .add [.int 1,.int 2] :: later ∧
      inForce before = some ["A","B","A"] ∧ (added before).length = 0) ∧
    (⟨["A","B","A"],[.int 1,.int 2]⟩ : Row).get? "A" = none ∧
    (⟨["A","B","A"],[.int 1,.int 2]⟩ : Row).get? "B" = some (.int 2) := by
  have first : (after patchwork).rows[0]? = some ⟨["A","B","A"],[.int 1,.int 2]⟩ := rfl
  obtain ⟨⟨counted,_⟩,_,origin,_,lookup⟩ := result_set_keeps_rows patchwork
  have reads := lookup _ (List.mem_of_getElem? first)
  obtain ⟨_,_,_,absent,_⟩ := reads "A"
  obtain ⟨_,_,found,_⟩ := reads "B"
  exact ⟨first,counted,origin 0 _ first,
    absent.mpr (.inr ⟨2,lastIndexOf_eq_some.mp rfl,Nat.le_refl 2⟩),
    (found _).mpr ⟨1,lastIndexOf_eq_some.mp rfl,rfl⟩⟩

end ResultSet

end TypedRows
