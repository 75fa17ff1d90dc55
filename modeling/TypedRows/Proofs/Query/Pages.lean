import TypedRows.Proofs.Query.Clauses
import TypedRows.Proofs.Query.Streams

namespace TypedRows

-- Paging: what stands for it in the text of a selection, and what an engine makes of it.

variable {σ ρ : Type}

def boundsText : Option Nat → Option Nat → String
  | none, none => ""
  | limit, offset =>
      " limit " ++ limit.elim "-1" shownNat ++ offset.elim "" fun n => " offset " ++ shownNat n

theorem pageText_bounds (limit offset : Option UInt64) :
    pageText limit offset = boundsText (limit.map UInt64.toNat) (offset.map UInt64.toNat) := by
  cases limit with
  | none =>
    cases offset with
    | none => rfl
    | some offset => exact @String.append_assoc " limit -1" " offset " _
  | some limit =>
    cases offset with
    | none => exact String.append_empty.symm
    | some offset => exact String.append_assoc

def cut {α : Type} (limit : Option Nat) (offset : Nat) (all : List α) : List α :=
  match limit with
  | none => all.drop offset
  | some n => (all.drop offset).take n

namespace Stream

def page (limit : Option Nat) (offset : Nat) (s : Stream) : Stream where
  names := s.names
  rows := cut limit offset s.rows
  failure := match limit with
    | none => s.failure
    | some n => if (s.rows.drop offset).length < n then s.failure else none

theorem page_page {s : Stream} {limit : Option Nat} {start offset count : Nat}
    (inside : ∀ n ∈ limit, offset + count ≤ n) :
    (s.page limit start).page (some count) offset = s.page (some count) (start + offset) := by
  cases limit with
  | none => simp only [page,cut,List.drop_drop]
  | some n =>
    have inside : offset + count ≤ n := inside n rfl
    have rows : (((s.rows.drop start).take n).drop offset).take count =
        (s.rows.drop (start + offset)).take count := by
      rw [List.drop_take,List.take_take,List.drop_drop,Nat.min_eq_left (by omega)]
    simp only [page,cut,rows,List.length_drop,List.length_take]
    congr 1
    by_cases ends : s.rows.length - (start + offset) < count
    · rw [if_pos (by omega),if_pos (by omega),if_pos ends]
    · rw [if_neg (by omega),if_neg ends]

theorem page_items {decode : Row → Except Error ρ} {s : Stream} {records : List ρ}
    (listed : s.items decode = records.map .ok) (limit : Option Nat) (offset : Nat) :
    (s.page limit offset).items decode = (cut limit offset records).map .ok := by
  have ended : s.failure = none := by
    cases failed : s.failure with
    | none => rfl
    | some e =>
      have last : Except.error e ∈ s.items decode := by simp [items,failed]
      rw [listed] at last
      obtain ⟨_,_,absurd⟩ := List.mem_map.mp last
      cases absurd
  have rows : s.rows.map (decodeRow decode s.names) = records.map .ok := by
    simpa [items,ended] using listed
  cases limit with
  | none => simp [items,page,cut,ended,List.map_drop,rows]
  | some n => simp [items,page,cut,ended,List.map_drop,List.map_take,rows]

end Stream

-- A numeral has to fit in a signed integer. A limit of zero ends the reading before the offset is
-- looked at.
def Readable (limit offset : Option Nat) : Prop :=
  (∀ n ∈ limit, n < 2 ^ 63) ∧ (limit = some 0 ∨ ∀ n ∈ offset, n < 2 ^ 63)

instance (limit offset : Option Nat) : Decidable (Readable limit offset) :=
  inferInstanceAs (Decidable (_ ∧ _))

namespace Engine

variable (engine : Engine σ)

def Slices (s : σ) (st : Statement) (found : Except Error Stream) : Prop :=
  ∀ limit offset, Readable limit offset →
    engine.answer s ⟨st.text ++ boundsText limit offset,st.args⟩ = do
      ((← found).page limit (offset.getD 0)).resultSet

structure ReadsNumerals (s : σ) (st : Statement) (found : Except Error Stream) : Prop where
  slices : engine.Slices s st found
  refuses : ∀ limit offset, ¬ Readable limit offset →
    engine.answer s ⟨st.text ++ boundsText limit offset,st.args⟩ = do
      let _ ← found
      .error (.engine .typeMismatch)

end Engine

namespace Query

variable {engine : Engine σ} {s : σ} {q : Query ρ} {st : Statement}
  {found : Except Error Stream}

def unpaged (q : Query ρ) : Query ρ := {q with limit := none,offset := none}

def most (q : Query ρ) : Option Nat := q.limit.map UInt64.toNat

def start (q : Query ρ) : Option Nat := q.offset.map UInt64.toNat

theorem unpaged_whole (whole : q.isPaged = false) :
    q.unpaged = q ∧ q.limit = none ∧ q.offset = none := by
  obtain ⟨unlimited,unmoved⟩ : q.limit = none ∧ q.offset = none := by simpa [isPaged] using whole
  rcases q with ⟨entity,predicate,orderings,limit,offset,eager⟩
  cases unlimited
  cases unmoved
  exact ⟨rfl,rfl,rfl⟩

theorem statement_paged (q : Query ρ) : q.statement = do
    let st ← q.unpaged.statement
    return ⟨st.text ++ boundsText q.most q.start,st.args⟩ := by
  simp only [statement,render,unpaged,pageText_bounds q.limit q.offset]
  cases q.entity.mapping.whereClause q.predicate with
  | error cause => rfl
  | ok condition =>
    have unbounded (text : String) : text ++ pageText none none = text := String.append_empty
    simp only [unbounded]
    rfl

theorem toList_compiled {records : List ρ} (listed : ((q.toList engine).runFrom s).1 = .ok records) :
    ∃ st, q.unpaged.statement = .ok st := by
  unfold toList at listed
  rw [Step.runFrom_bind,Step.runFrom_ofExcept,statement_paged] at listed
  cases compiled : q.unpaged.statement with
  | error cause =>
    rw [compiled] at listed
    cases listed
  | ok st => exact ⟨st,rfl⟩

theorem toList_bounds (compiled : q.unpaged.statement = .ok st) :
    ((q.toList engine).runFrom s).1 = (do
      q.entity.decodeAll (← engine.answer s ⟨st.text ++ boundsText q.most q.start,st.args⟩).rows) := by
  refine toList_answer ?_
  rw [statement_paged,compiled]
  rfl

theorem toList_slice {records : List ρ} (slices : engine.Slices s st found)
    (compiled : q.unpaged.statement = .ok st) (readable : Readable q.most q.start) :
    ((q.toList engine).runFrom s).1 = .ok records ↔ ∃ stream, found = .ok stream ∧
      (stream.page q.most (q.start.getD 0)).items q.entity.decode = records.map .ok := by
  rw [toList_bounds compiled,slices _ _ readable]
  cases found with
  | error cause => exact ⟨fun absurd => (by cases absurd),fun ⟨_,absurd,_⟩ => (by cases absurd)⟩
  | ok stream =>
    refine Stream.records_ok.trans ⟨fun listed => ⟨stream,rfl,listed⟩,?_⟩
    rintro ⟨_,same,listed⟩
    cases same
    exact listed

theorem toList_readable {records : List ρ} (reads : engine.ReadsNumerals s st found)
    (compiled : q.unpaged.statement = .ok st)
    (listed : ((q.toList engine).runFrom s).1 = .ok records) : Readable q.most q.start := by
  by_contra unreadable
  rw [toList_bounds compiled,reads.refuses _ _ unreadable] at listed
  cases found <;> cases listed

theorem toList_refused {stream : Stream} (reads : engine.ReadsNumerals s st (.ok stream))
    (compiled : q.unpaged.statement = .ok st) (unreadable : ¬ Readable q.most q.start) :
    ((q.toList engine).runFrom s).1 = .error (.engine .typeMismatch) := by
  rw [toList_bounds compiled,reads.refuses _ _ unreadable]
  rfl

theorem extended_paging {calls : List QueryCall} (paging : ∀ call ∈ calls, call.pages) (q : Query ρ) :
    q.extended calls = .ok {q with
      limit := (QueryCall.takes calls).getLast?.or q.limit
      offset := (QueryCall.skips calls).getLast?.or q.offset } := by
  induction calls generalizing q with
  | nil => rfl
  | cons call rest ih =>
    have later := ih fun call present => paging call (List.mem_cons_of_mem _ present)
    cases call with
    | skip n =>
      refine (later (q.skip n)).trans ?_
      simp [skip,QueryCall.takes,QueryCall.skips,QueryCall.take?,QueryCall.skip?,List.getLast?_cons]
    | take n =>
      refine (later (q.take n)).trans ?_
      simp [take,QueryCall.takes,QueryCall.skips,QueryCall.take?,QueryCall.skip?,List.getLast?_cons]
    | _ =>
      exact absurd (paging _ List.mem_cons_self)
        (by simp [QueryCall.pages,QueryCall.take?,QueryCall.skip?])

end Query

theorem Query.toList_whole {engine : Engine σ} {s : σ} {q : Query ρ} {st : Statement}
    {found : Except Error Stream} {records : List ρ} (slices : engine.Slices s st found)
    (compiled : q.unpaged.statement = .ok st) :
    ((q.unpaged.toList engine).runFrom s).1 = .ok records ↔
      ∃ stream, found = .ok stream ∧ stream.items q.entity.decode = records.map .ok :=
  q.unpaged.toList_slice slices compiled ⟨nofun,.inr nofun⟩

def readBounds (text : List Char) : Option Nat × Option Nat :=
  let limit := text.drop " limit ".length
  (Text.readNumeral (limit.takeWhile (· ≠ ' ')),
    Text.readNumeral ((limit.dropWhile (· ≠ ' ')).drop " offset ".length))

theorem readBounds_written {limit : List Char} (solid : ∀ c ∈ limit, c ≠ ' ') (offset : Option Nat) :
    readBounds (" limit ".toList ++ (limit ++ offset.elim [] fun n => " offset ".toList ++ Text.numeral n)) =
      (Text.readNumeral limit,offset) := by
  have solid : ∀ c ∈ limit, decide (c ≠ ' ') = true := fun c present => decide_eq_true (solid c present)
  unfold readBounds
  dsimp only
  rw [show " limit ".length = " limit ".toList.length from rfl,List.drop_left,
    List.takeWhile_append_of_pos solid,List.dropWhile_append_of_pos solid]
  cases offset with
  | none => exact congrArg (·,none) (congrArg _ (List.append_nil limit))
  | some n =>
    have rest : (((" offset ".toList ++ Text.numeral n).dropWhile (· ≠ ' ')).drop " offset ".length) =
        Text.numeral n := rfl
    have stop : (" offset ".toList ++ Text.numeral n).takeWhile (· ≠ ' ') = [] := rfl
    simp only [Option.elim,stop,rest,List.append_nil,Text.readNumeral_numeral]

theorem readBounds_boundsText (limit offset : Option Nat) :
    readBounds (boundsText limit offset).toList = (limit,offset) := by
  have solid (n : Nat) : ∀ c ∈ Text.numeral n, c ≠ ' ' := by
    rintro c digit rfl
    exact absurd (Text.isDigit_of_mem_numeral digit) (by decide)
  have written (limit : List Char) : (" limit " ++ String.ofList limit ++
      offset.elim "" fun n => " offset " ++ shownNat n).toList = " limit ".toList ++
      (limit ++ offset.elim [] fun n => " offset ".toList ++ Text.numeral n) := by
    cases offset <;> simp [shownNat]
  cases limit with
  | some n =>
    have text : boundsText (some n) offset = " limit " ++ String.ofList (Text.numeral n) ++
        offset.elim "" fun n => " offset " ++ shownNat n := by cases offset <;> rfl
    rw [text,written,readBounds_written (solid n),Text.readNumeral_numeral]
  | none =>
    cases offset with
    | none => rfl
    | some m =>
      have text : boundsText none (some m) = " limit " ++ String.ofList ['-','1'] ++
          (some m).elim "" fun n => " offset " ++ shownNat n := rfl
      rw [text,written,readBounds_written (by simp)]
      rfl

def Engine.listing (asked : String) : Engine Stream where
  execute _ _ := return 0
  select text _ := do
    let bounds := readBounds (text.toList.drop asked.toList.length)
    if Readable bounds.1 bounds.2 then
      Step.ofExcept ((← get).page bounds.1 (bounds.2.getD 0)).resultSet
    else throw (.engine .typeMismatch)
  lastInsertRowid := return 0

theorem Engine.listing_reads (st : Statement) (s : Stream) :
    (Engine.listing st.text).ReadsNumerals s st (.ok s) := by
  have bounds (limit offset : Option Nat) : readBounds ((st.text ++ boundsText limit offset).toList.drop
      st.text.toList.length) = (limit,offset) := by
    rw [String.toList_append,List.drop_left,readBounds_boundsText]
  constructor
  · intro limit offset readable
    simp only [Engine.answer,Engine.listing,bounds,if_pos readable]
    rfl
  · intro limit offset unreadable
    simp only [Engine.answer,Engine.listing,bounds,if_neg unreadable]
    rfl

-- A page is a part of the whole result exactly if its bounds can be read.
theorem paging_cuts (engine : Engine σ) (s : σ) (q : Query ρ) (records : List ρ)
    (calls : List QueryCall) (whole : q.isPaged = false)
    (reads : ∀ st, q.statement = .ok st → ∃ found, engine.ReadsNumerals s st found)
    (listed : ((q.toList engine).runFrom s).1 = .ok records)
    (paging : ∀ call ∈ calls, call.pages) :
    ∃ paged, q.extended calls = .ok paged ∧ paged.limit = (QueryCall.takes calls).getLast? ∧
      paged.offset = (QueryCall.skips calls).getLast? ∧
      ((paged.toList engine).runFrom s).1 =
        if Readable paged.most paged.start then .ok (cut paged.most (paged.start.getD 0) records)
        else .error (.engine .typeMismatch) := by
  obtain ⟨st,compiled⟩ := q.toList_compiled listed
  obtain ⟨same,unlimited,unmoved⟩ := q.unpaged_whole whole
  obtain ⟨found,reads⟩ := reads st (same ▸ compiled)
  rw [← same,q.toList_whole reads.slices compiled] at listed
  obtain ⟨stream,rfl,items⟩ := listed
  refine ⟨_,q.extended_paging paging,by simp [unlimited],by simp [unmoved],?_⟩
  set paged : Query ρ := {q with
    limit := (QueryCall.takes calls).getLast?.or q.limit
    offset := (QueryCall.skips calls).getLast?.or q.offset }
  have compiled' : paged.unpaged.statement = .ok st := compiled
  split
  · rename_i readable
    exact (paged.toList_slice reads.slices compiled' readable).mpr
      ⟨stream,rfl,Stream.page_items items _ _⟩
  · rename_i unreadable
    exact paged.toList_refused reads compiled' unreadable

def twoPeople : Stream where
  names := ["Id","Name","Age"]
  rows := [.ok [.int 1,.text "a",.int 30],.ok [.int 2,.text "b",.null]]
  failure := none

def peopleText : String := "select \"Id\", \"Name\", \"Age\" from \"Person\""

def everyone : Query (List Value) := Query.all person.valuesEntity

theorem everyone_reads (st : Statement) (compiled : everyone.statement = .ok st) :
    ∃ found, (Engine.listing peopleText).ReadsNumerals twoPeople st found := by
  cases compiled
  exact ⟨.ok twoPeople,Engine.listing_reads ⟨peopleText,[]⟩ twoPeople⟩

theorem everyone_listed : ((everyone.toList (Engine.listing peopleText)).runFrom twoPeople).1 =
    .ok [[.int 1,.text "a",.int 30],[.int 2,.text "b",.null]] :=
  (everyone.toList_whole (Engine.listing_reads ⟨peopleText,[]⟩ twoPeople).slices rfl).mpr ⟨twoPeople,rfl,rfl⟩

theorem paging_cuts_people :
    ∃ paged, everyone.extended [.skip 0,.take 9,.skip 1] = .ok paged ∧
      ((paged.toList (Engine.listing peopleText)).runFrom twoPeople).1 = .ok [[.int 2,.text "b",.null]] := by
  obtain ⟨paged,built,limit,offset,listed⟩ := paging_cuts (Engine.listing peopleText) twoPeople everyone _
    [.skip 0,.take 9,.skip 1] rfl everyone_reads everyone_listed
    (by simp [QueryCall.pages,QueryCall.take?,QueryCall.skip?])
  have most : paged.most = some 9 := by rw [Query.most,limit]; rfl
  have start : paged.start = some 1 := by rw [Query.start,offset]; rfl
  rw [most,start,if_pos (by decide)] at listed
  exact ⟨paged,built,listed⟩

-- A limit that is no signed integer is refused, though it is a number of rows.
theorem paging_refuses_great_limit :
    ¬ ∀ (engine : Engine Stream) (s : Stream) (q : Query (List Value)) (records : List (List Value))
      (calls : List QueryCall), q.isPaged = false →
      (∀ st, q.statement = .ok st → ∃ found, engine.ReadsNumerals s st found) →
      ((q.toList engine).runFrom s).1 = .ok records → (∀ call ∈ calls, call.pages) →
      ∃ paged, q.extended calls = .ok paged ∧
        ((paged.toList engine).runFrom s).1 = .ok (cut ((QueryCall.takes calls).getLast?.map UInt64.toNat)
          (((QueryCall.skips calls).getLast?.map UInt64.toNat).getD 0) records) := by
  intro slices
  obtain ⟨paged,built,listed⟩ := slices (Engine.listing peopleText) twoPeople everyone _
    [.take 9223372036854775808] rfl everyone_reads everyone_listed
    (List.forall_mem_singleton.mpr (.inl nofun))
  cases built
  have refused := (everyone.take 9223372036854775808).toList_refused
    (Engine.listing_reads ⟨peopleText,[]⟩ twoPeople) rfl (by decide)
  rw [refused] at listed
  cases listed

end TypedRows
