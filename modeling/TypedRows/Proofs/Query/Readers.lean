import TypedRows.Proofs.Database.Selecting
import TypedRows.Proofs.Expr.PlaceholderOrder

namespace TypedRows

-- The three ways to read a query: as a list, in advance, and one record at a time.

variable {σ ρ : Type}

namespace Cursor

def items : Cursor ρ → List (Except Error ρ)
  | .onDemand decode s => s.items decode
  | .inAdvance records => records.map .ok

theorem next_items (c : Cursor ρ) : c.next.1 = c.items.head? ∧ c.next.2.items = c.items.tail := by
  fun_cases Cursor.next c with
  | case1 => exact ⟨rfl,rfl⟩
  | case2 record rest => exact ⟨rfl,rfl⟩
  | case3 decode s row rest listed => simp [items,Stream.items,listed]
  | case4 decode s e listed failed => simp [items,Stream.items,listed,failed]
  | case5 decode s listed failed => simp [items,Stream.items,listed,failed]

def after : Nat → Cursor ρ → Cursor ρ
  | 0, c => c
  | k + 1, c => c.next.2.after k

def item (k : Nat) (c : Cursor ρ) : Option (Except Error ρ) := (c.after k).next.1

theorem item_eq (k : Nat) (c : Cursor ρ) : c.item k = c.items[k]? := by
  induction k generalizing c with
  | zero => rw [item,after,c.next_items.1,List.head?_eq_getElem?]
  | succ k ih => rw [← List.getElem?_tail,← c.next_items.2,← ih,item,item,after]

def Gives (c : Cursor ρ) (records : List ρ) : Prop := ∀ k, c.item k = records[k]?.map .ok

theorem items_gives {c : Cursor ρ} {records : List ρ} :
    c.items = records.map .ok ↔ c.Gives records := by
  simp only [Gives,List.ext_getElem?_iff,item_eq,List.getElem?_map]

theorem items_fail (c : Cursor ρ) :
    (∃ records : List ρ, c.items = records.map .ok) ↔ ∀ k e, c.item k ≠ some (.error e) := by
  simp only [exists_map_ok,item_eq]
  constructor
  · intro each k e failed
    obtain ⟨record,absurd⟩ := each _ (List.mem_of_getElem? failed)
    cases absurd
  · intro free item present
    obtain ⟨k,found⟩ := List.mem_iff_getElem?.mp present
    cases item with
    | error e => exact absurd found (free k e)
    | ok record => exact ⟨record,rfl⟩

end Cursor

namespace Stream

variable {decode : Row → Except Error ρ} {s : Stream}

theorem cursor_eager {eager : Cursor ρ} :
    s.cursor decode true = .ok eager ↔
      ∃ records, eager = .inAdvance records ∧ s.items decode = records.map .ok := by
  have whole (records : List ρ) : s.items decode = records.map .ok ↔
      readAll decode s.names s.failure s.rows = .ok records := readAll_ok.symm
  simp only [whole]
  unfold cursor
  cases readAll decode s.names s.failure s.rows with
  | error e => simp [Except.map]
  | ok read => simp [Except.map,eq_comm]

-- A row for each step, then the failure, then nothing.
theorem items_row {k : Nat} {row : Except Error (List Value)} (listed : s.rows[k]? = some row) :
    (s.items decode)[k]? = some (decodeRow decode s.names row) := by
  obtain ⟨inside,_⟩ := List.getElem?_eq_some_iff.mp listed
  rw [items,List.getElem?_append_left (by simpa using inside),List.getElem?_map,listed]
  rfl

theorem items_failure : (s.items decode)[s.rows.length]? = s.failure.map .error := by
  rw [items,List.getElem?_append_right (by simp)]
  cases s.failure <;> simp

theorem items_end {k : Nat} (behind : s.rows.length < k) : (s.items decode)[k]? = none := by
  refine List.getElem?_eq_none ?_
  rw [items,List.length_append,List.length_map]
  cases s.failure <;> simp <;> omega

end Stream

namespace Query

variable {q : Query ρ} {st : Statement}

theorem statement_select (compiled : q.statement = .ok st) :
    ∃ rest, st.text.toList = "select ".toList ++ rest := by
  unfold statement render at compiled
  obtain ⟨condition,_,rendered⟩ := bind_ok.mp compiled
  cases rendered
  simp only [String.toList_append,List.append_assoc]
  exact ⟨_,rfl⟩

end Query

namespace PreparedQuery

variable {p : PreparedQuery ρ} {q : Query ρ} {st : Statement} {now later : Database}

theorem iterate_runFrom (p : PreparedQuery ρ) (now : Database) :
    p.iterate.runFrom now =
      (((Database.run p.prepared (p.args.map .ofStored)).run now).1.mapError .engine >>= fun scan =>
        (streamOf scan).cursor p.decode p.eager,
      ((Database.run p.prepared (p.args.map .ofStored)).run now).2) := by
  unfold iterate
  rw [Step.runFrom_bind,Database.step_runFrom]
  rcases (Database.run p.prepared (p.args.map .ofStored)).run now with ⟨e | scan,after⟩ <;> rfl

theorem prepare_ok (compiled : q.statement = .ok st) (prepared : q.prepare.runFrom now = (.ok p,later)) :
    p.decode = q.entity.decode ∧ p.eager = q.eager ∧
      p.args.map .ofStored = Database.argumentsOf st.args ∧ ∃ s, p.prepared.command = .select s := by
  unfold Query.prepare at prepared
  rw [Step.runFrom_bind,Step.runFrom_ofExcept,compiled] at prepared
  dsimp only at prepared
  rw [Step.runFrom_bind,Database.step_runFrom] at prepared
  rcases ran : (Database.prepare st.text).run now with ⟨e | found,after⟩
  · rw [ran] at prepared
    cases prepared
  · rw [ran] at prepared
    cases prepared
    obtain ⟨rest,shaped⟩ := Query.statement_select compiled
    refine ⟨rfl,rfl,List.map_map,?_⟩
    obtain ⟨parsed,read,same⟩ := Database.prepare_command ran
    rw [shaped] at read
    rw [same]
    exact Sql.parse_select read

theorem iterate_again {s : Sql.Selection} {outcome : Except Error (Cursor ρ)}
    (selected : p.prepared.command = .select s) (ran : p.iterate.runFrom now = (outcome,later))
    (undisturbed : outcome ≠ .error (.engine .interrupted)) :
    p.iterate.runFrom later = (outcome,later) := by
  rw [iterate_runFrom] at ran ⊢
  rcases first : (Database.run p.prepared (p.args.map .ofStored)).run now with ⟨found,after⟩
  rw [first] at ran
  cases ran
  have quiet : found ≠ .error .interrupted := by
    rintro rfl
    exact undisturbed rfl
  rw [Database.run_again selected first quiet]

end PreparedQuery

-- A list, a reading in advance and a reading on demand have the same records, or none of the first
-- two has any and the third one shows where it fails; and to iterate again is to start again.
theorem readers_agree (engine : Engine σ) (state : σ) (q : Query ρ) (st : Statement) (s : Stream)
    (compiled : q.statement = .ok st)
    (answered : engine.answer state st = s.resultSet) :
    (∃ lazy, s.cursor q.entity.decode false = .ok lazy ∧
      (∀ records, ((q.toList engine).runFrom state).1 = .ok records ↔
        ∃ eager, s.cursor q.entity.decode true = .ok eager ∧ eager.Gives records) ∧
      (∀ records, ((q.toList engine).runFrom state).1 = .ok records ↔ lazy.Gives records) ∧
      ((∃ records, ((q.toList engine).runFrom state).1 = .ok records) ↔
        ∃ eager, s.cursor q.entity.decode true = .ok eager) ∧
      ((∃ records, ((q.toList engine).runFrom state).1 = .ok records) ↔
        ∀ k e, lazy.item k ≠ some (.error e)) ∧
      (∀ k row, s.rows[k]? = some row →
        lazy.item k = some (Stream.decodeRow q.entity.decode s.names row)) ∧
      lazy.item s.rows.length = s.failure.map .error ∧
      ∀ k, s.rows.length < k → lazy.item k = none) ∧
    ∀ (p : PreparedQuery ρ) (now ready : Database), q.prepare.runFrom now = (.ok p,ready) →
      (∀ db, (p.iterate.runFrom db).1 =
        ((Database.run p.prepared (Database.argumentsOf st.args)).run db).1.mapError .engine >>=
          fun scan => (streamOf scan).cursor q.entity.decode q.eager) ∧
      ∀ (db later : Database) (outcome : Except Error (Cursor ρ)),
        p.iterate.runFrom db = (outcome,later) → outcome ≠ .error (.engine .interrupted) →
        p.iterate.runFrom later = (outcome,later) := by
  -- All readings are compared by the items of the stream, not with each other.
  have listed (records : List ρ) : ((q.toList engine).runFrom state).1 = .ok records ↔
      s.items q.entity.decode = records.map .ok := by
    rw [Query.toList_answer compiled,answered,Stream.records_ok]
  refine ⟨⟨.onDemand q.entity.decode s,rfl,fun records => ?_,fun records => ?_,?_,?_,
    fun k row present => ?_,?_,fun k behind => ?_⟩,fun p now ready prepared => ?_⟩
  · rw [listed]
    constructor
    · intro same
      exact ⟨_,Stream.cursor_eager.mpr ⟨records,rfl,same⟩,Cursor.items_gives.mp rfl⟩
    · rintro ⟨eager,read,gives⟩
      obtain ⟨all,rfl,same⟩ := Stream.cursor_eager.mp read
      exact same.trans (Cursor.items_gives.mpr gives)
  · rw [listed]
    exact Cursor.items_gives (c := .onDemand q.entity.decode s)
  · simp only [listed,Stream.cursor_eager]
    exact ⟨fun ⟨records,same⟩ => ⟨_,records,rfl,same⟩,fun ⟨_,records,_,same⟩ => ⟨records,same⟩⟩
  · simp only [listed]
    exact Cursor.items_fail (.onDemand q.entity.decode s)
  · exact (Cursor.item_eq _ _).trans (Stream.items_row present)
  · exact (Cursor.item_eq _ _).trans Stream.items_failure
  · exact (Cursor.item_eq _ _).trans (Stream.items_end behind)
  · obtain ⟨decoded,mode,same,selection,selected⟩ := PreparedQuery.prepare_ok compiled prepared
    refine ⟨fun db => ?_,fun db later outcome ran undisturbed => p.iterate_again selected ran undisturbed⟩
    rw [p.iterate_runFrom,decoded,mode,same]

def Sql.Table.guests : Sql.Table where
  name := "Person"
  columns := [⟨"Id",.integer,false,false⟩,⟨"Name",.text,false,false⟩,⟨"Age",.integer,false,false⟩]
  rowKey := some 0
  counts := false
  highest := 3
  rows := [⟨1,[.integer 1,.text [97],.integer 30]⟩,⟨2,[.integer 2,.text [98],.text [120]]⟩,
    ⟨3,[.integer 3,.text [99],.integer 40]⟩]

def Database.hosting : Database where
  disk := { Disk.empty with volumes := [{ Volume.empty with contents := [Sql.Table.guests] }], handles := 1 }
  handle := { Handle.new 0 0 false with knowsTables := true }

def guestList : Statement := ⟨"select \"Id\", \"Name\", \"Age\" from \"Person\"",[]⟩

theorem readers_agree_guests :
    ∃ (s : Stream) (lazy : Cursor (List Value)) (problem : Error) (p : PreparedQuery (List Value))
      (c : Cursor (List Value)) (ready later : Database),
      (Query.all person.valuesEntity).statement = .ok guestList ∧
      Database.engine.answer Database.hosting guestList = s.resultSet ∧
      s.cursor person.valuesEntity.decode false = .ok lazy ∧
      lazy.item 0 = some (.ok [.int 1,.text "a",.int 30]) ∧ lazy.item 1 = some (.error problem) ∧
      lazy.item 2 = some (.ok [.int 3,.text "c",.int 40]) ∧ lazy.item 3 = none ∧
      (¬ ∃ records, (((Query.all person.valuesEntity).toList Database.engine).runFrom
        Database.hosting).1 = .ok records) ∧
      (Query.all person.valuesEntity).prepare.runFrom Database.hosting = (.ok p,ready) ∧
      p.iterate.runFrom ready = (.ok c,later) ∧ p.iterate.runFrom later = (.ok c,later) := by
  have read : ((Database.runKept guestList.text []).run Database.hosting).1.toOption.map
      (fun found => (found.1,found.2.rows,found.2.failure.isNone)) =
      some (["Id","Name","Age"],Sql.Table.guests.rows.map Sql.TableRow.values,true) := by
    decide +kernel
  have prepared : (((Query.all person.valuesEntity).prepare >>= PreparedQuery.iterate).runFrom
      Database.hosting).1.toOption.isSome = true := by
    decide +kernel
  rcases ran : (Database.runKept guestList.text []).run Database.hosting with ⟨e | ⟨names,scan⟩,after⟩
  · rw [ran] at read
    cases read
  rw [ran] at read
  obtain ⟨named,listed,complete⟩ : names = ["Id","Name","Age"] ∧
      scan.rows = Sql.Table.guests.rows.map Sql.TableRow.values ∧ scan.failure.isNone = true := by
    simpa [Except.toOption] using read
  have compiled : (Query.all person.valuesEntity).statement = .ok guestList := rfl
  let s := streamOf {scan with names}
  have answered : Database.engine.answer Database.hosting guestList = s.resultSet := by
    rw [Engine.answer,Database.engine_select,show guestList.args = [] from rfl,ran]
  obtain ⟨⟨lazy,started,_,_,_,whole,row,ended,_⟩,again⟩ :=
    readers_agree Database.engine Database.hosting _ _ s compiled answered
  have sent : s.rows = [.ok [.int 1,.text "a",.int 30],.ok [.int 2,.text "b",.text "x"],
      .ok [.int 3,.text "c",.int 40]] := by
    simp only [s,streamOf,listed]
    rfl
  have first := row 0 _ (by rw [sent]; rfl)
  have second := row 1 _ (by rw [sent]; rfl)
  have third := row 2 _ (by rw [sent]; rfl)
  rw [show s.names = ["Id","Name","Age"] from named] at first second third
  have last : lazy.item 3 = none := by
    rw [sent] at ended
    exact ended.trans (by simpa [s,streamOf] using complete)
  rcases made : (Query.all person.valuesEntity).prepare.runFrom Database.hosting with ⟨e | p,ready⟩
  · rw [Step.runFrom_bind,made] at prepared
    cases prepared
  rw [Step.runFrom_bind,made] at prepared
  rcases iterated : p.iterate.runFrom ready with ⟨e | c,later⟩
  · simp only [iterated] at prepared
    cases prepared
  obtain ⟨problem,failed⟩ : ∃ problem, lazy.item 1 = some (.error problem) := ⟨_,second⟩
  exact ⟨s,lazy,problem,p,c,ready,later,compiled,answered,started,first,failed,third,last,
    fun all => whole.mp all 1 problem failed,rfl,iterated,
    (again p Database.hosting ready made).2 ready later (.ok c) iterated nofun⟩

end TypedRows
