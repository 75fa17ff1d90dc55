import Mathlib.Data.Set.List
import TypedRows.Database.PreparedQuery
import TypedRows.Proofs.Steps
import TypedRows.Query.Run

namespace TypedRows

-- What can be read from a stream: its items one after the other, all of its records, and the parts
-- of it that lie between two bounds.

theorem cons_ok {α : Type} {first : Except Error α} {others : Except Error (List α)} {as : List α} :
    (do
      let a ← first
      return a :: (← others)) = Except.ok (ε := Error) as ↔
      ∃ a rest, as = a :: rest ∧ first = .ok a ∧ others = .ok rest := by
  rw [bind_ok]
  constructor
  · rintro ⟨a,found,whole⟩
    obtain ⟨rest,read,rfl⟩ := return_ok.mp whole
    exact ⟨a,rest,rfl,found,read⟩
  · rintro ⟨a,rest,rfl,found,read⟩
    exact ⟨a,found,return_ok.mpr ⟨rest,read,rfl⟩⟩

theorem exists_map_ok {α : Type} {items : List (Except Error α)} :
    (∃ as : List α, items = as.map .ok) ↔ ∀ item ∈ items, ∃ a, item = .ok a := by
  have covered := Set.ext_iff.mp (Set.range_list_map (Except.ok (ε := Error) (α := α))) items
  simpa only [Set.mem_range,Set.mem_ofPred_eq,@eq_comm _ items,@eq_comm _ (Except.ok _)] using covered

variable {ρ : Type} {decode : Row → Except Error ρ} {names : List String} {failure : Option Error}
  {rows : List (Except Error (List Value))} {records : List ρ} {s : Stream} {e : Entity ρ}

theorem Entity.decodeAll_ok {rows : List Row} :
    e.decodeAll rows = .ok records ↔ rows.map e.decode = records.map .ok := by
  induction rows generalizing records with
  | nil => cases records <;> simp [decodeAll]
  | cons row rest ih =>
    rw [decodeAll,cons_ok,List.map_cons,@eq_comm _ (_ :: _),List.map_eq_cons_iff]
    simp only [ih,eq_comm]

namespace Stream

def items (decode : Row → Except Error ρ) (s : Stream) : List (Except Error ρ) :=
  s.rows.map (decodeRow decode s.names) ++ (s.failure.map .error).toList

theorem readAll_ok : readAll decode names failure rows = .ok records ↔
    (⟨names,rows,failure⟩ : Stream).items decode = records.map .ok := by
  unfold items
  induction rows generalizing records with
  | nil => cases failure <;> cases records <;> simp [readAll]
  | cons row rest ih =>
    rw [readAll,cons_ok,List.map_cons,List.cons_append,@eq_comm _ (_ :: _),List.map_eq_cons_iff]
    simp only [ih,eq_comm]

def resultSet (s : Stream) : Except Error ResultSet := do
  let rows ← readAll (fun row => .ok row.values) s.names s.failure s.rows
  return rows.foldl (fun rs values => rs.add values) (ResultSet.empty.setNames s.names)

end Stream

theorem ResultSet.rows_added (values : List (List Value)) (rs : ResultSet)
    (named : rs.names = some names) :
    (values.foldl (fun rs values => rs.add values) rs).rows =
      rs.rows ++ values.map fun values => ⟨names,values⟩ := by
  induction values generalizing rs with
  | nil => simp
  | cons first rest ih =>
    have added : rs.add first =
        {rs with rows := rs.rows ++ [⟨names,first⟩],affected := rs.affected + 1} := by
      rw [add,named]
    rw [List.foldl_cons,ih (rs.add first) (by rw [added,named]),added]
    simp

namespace Stream

-- A row that cannot be read is one that cannot be decoded, whatever the decoding.
theorem items_eq (decode : Row → Except Error ρ) (s : Stream) :
    s.items decode = (s.items fun row => .ok row.values).map (· >>= fun values =>
      decode ⟨s.names,values⟩) := by
  unfold items
  rw [List.map_append,List.map_map]
  congr 1
  · refine List.map_congr_left fun row _ => ?_
    cases row <;> rfl
  · cases s.failure <;> rfl

theorem records_ok : (do e.decodeAll (← s.resultSet).rows) = .ok records ↔
    s.items e.decode = records.map .ok := by
  have rows (values : List (List Value)) : (values.foldl (fun rs values => rs.add values)
      (ResultSet.empty.setNames s.names)).rows = values.map fun values => ⟨s.names,values⟩ :=
    ResultSet.rows_added values _ rfl
  rw [bind_ok,items_eq]
  simp only [resultSet,return_ok,readAll_ok,Entity.decodeAll_ok]
  constructor
  · rintro ⟨_,⟨values,read,rfl⟩,decoded⟩
    rw [rows,List.map_map] at decoded
    rw [read,List.map_map]
    exact decoded
  · intro decoded
    have each : ∀ item ∈ s.items (fun row => .ok row.values), ∃ values, item = .ok values := by
      intro item present
      have sent := List.mem_map_of_mem (f := (· >>= fun values => e.decode ⟨s.names,values⟩)) present
      rw [decoded] at sent
      obtain ⟨record,_,ran⟩ := List.mem_map.mp sent
      obtain ⟨values,known,_⟩ := bind_ok.mp ran.symm
      exact ⟨values,known⟩
    obtain ⟨values,read⟩ := exists_map_ok.mpr each
    refine ⟨_,⟨values,read,rfl⟩,?_⟩
    rw [rows,List.map_map]
    rw [read,List.map_map] at decoded
    exact decoded

end Stream

section

variable {σ : Type} {engine : Engine σ} {state : σ} {q : Query ρ} {st : Statement}

def Engine.answer (engine : Engine σ) (state : σ) (st : Statement) : Except Error ResultSet :=
  ((engine.select st.text st.args).runFrom state).1

theorem Query.toList_answer (compiled : q.statement = .ok st) :
    ((q.toList engine).runFrom state).1 = (do
      q.entity.decodeAll (← engine.answer state st).rows) := by
  unfold toList Engine.answer
  rw [Step.runFrom_bind,Step.runFrom_ofExcept,compiled]
  dsimp only
  rw [Step.runFrom_bind]
  rcases (engine.select st.text st.args).runFrom state with ⟨e | rs,after⟩ <;> rfl

end

end TypedRows
