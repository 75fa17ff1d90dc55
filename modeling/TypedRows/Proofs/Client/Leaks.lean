import TypedRows.Proofs.Client.Calls

namespace TypedRows

-- Which calls of clients leave a transaction open on the connection that they give back, and
-- what becomes of it.

namespace ClientCall

section

variable {δ η α : Type} {journal : δ × η → Journal α} (opener : Opener δ η)
  (t : Transactor (δ × η)) (engine : Engine (δ × η))

def StartsIdle (call : ClientCall journal) (ps : Pools δ η) : Prop :=
  ∀ l, call.finds opener ps = .ok l → Idle journal l

def PanicsInside (call : ClientCall journal) (ps : Pools δ η) : Prop :=
  ∃ l, call.finds opener ps = .ok l ∧
    ((call.closure t engine).runFrom l).1 = .error .panicked ∧
    0 < ((call.closure t engine).runFrom l).2.depth

-- Afterwards the session is at depth zero, and the database has a transaction open.
def LosesTrack (call : ClientCall journal) (ps : Pools δ η) : Prop :=
  ∃ l, call.finds opener ps = .ok l ∧ ((call.closure t engine).runFrom l).2.depth = 0 ∧
    (journal ((call.closure t engine).runFrom l).2.handle).levels ≠ []

-- Where the work of a transaction panics, its writes are still in a transaction that is open,
-- or they were rolled back; what the work did outside of it afterwards is another matter.
def PanicsUncommitted (call : ClientCall journal) (ps : Pools δ η) : Prop :=
  call.isTransaction = true → ∀ l, call.finds opener ps = .ok l → Idle journal l →
    ((call.closure t engine).runFrom l).1 = .error .panicked →
    (∃ c, (call.after opener t engine ps).Holds journal (journal l.handle).current c) ∨
    RolledBack t journal (journal l.handle).current ((call.closure t engine).runFrom l)

def CommitsNone (call : ClientCall journal) (ps : Pools δ η) : Prop :=
  ∀ c contents, ps.Holds journal contents c →
    (call.after opener t engine ps).Holds journal contents c ∨
    ∃ l, call.finds opener ps = .ok l ∧ Inside journal contents l ∧
      RolledBack t journal contents ((call.closure t engine).runFrom l)

end

variable {δ η α : Type} {journal : δ × η → Journal α} {opener : Opener δ η}
  {t : Transactor (δ × η)} {engine : Engine (δ × η)} {refusable : TransactionCommand → Prop}

theorem idle_of_footing {l : Locked (δ × η)} : l.footing journal = (0,[]) ↔ Idle journal l :=
  Prod.ext_iff.trans ⟨fun ⟨depth,levels⟩ => ⟨depth,levels⟩,fun idle => ⟨idle.depth,idle.levels⟩⟩

theorem startsIdle (separate : Separate journal opener) (call : ClientCall journal) {ps : Pools δ η}
    (idle : ps.AllIdle journal) : call.StartsIdle opener ps := by
  intro l found
  rw [finds] at found
  rcases call.client.runCancellable_footing separate call.token ps with
    ⟨e,ps',_,_,refused⟩ | ⟨c,l1,before,worked⟩
  · rw [refused] at found
    cases found
  · obtain ⟨ps1,looked,_⟩ := worked _ fun l => (.ok l,l)
    rw [looked] at found
    cases found
    rcases before with present | ⟨_,fresh⟩
    · exact idle_of_footing.mp (idle c _ present)
    · exact idle_of_footing.mp fresh

theorem panicsInside_iff {call : ClientCall journal} {ps : Pools δ η} {l : Locked (δ × η)}
    (found : call.finds opener ps = .ok l) : call.PanicsInside opener t engine ps ↔
      ((call.closure t engine).runFrom l).1 = .error .panicked ∧
      0 < ((call.closure t engine).runFrom l).2.depth := by
  refine ⟨fun ⟨l1,found1,panicked⟩ => ?_,fun panicked => ⟨l,found,panicked⟩⟩
  cases found.symm.trans found1
  exact panicked

theorem losesTrack_iff {call : ClientCall journal} {ps : Pools δ η} {l : Locked (δ × η)}
    (found : call.finds opener ps = .ok l) : call.LosesTrack opener t engine ps ↔
      ((call.closure t engine).runFrom l).2.depth = 0 ∧
      (journal ((call.closure t engine).runFrom l).2.handle).levels ≠ [] := by
  refine ⟨fun ⟨l1,found1,lost⟩ => ?_,fun lost => ⟨l,found,lost⟩⟩
  cases found.symm.trans found1
  exact lost

theorem allIdle_grown {c : Nat} {ps ps' : Pools δ η} (grown : ps.GrownBy journal c ps')
    (idle : ps.AllIdle journal) : ps'.AllIdle journal := by
  intro n footing present
  rcases grown with same | ⟨_,added⟩
  · exact idle n footing (by rw [← same]; exact present)
  · rw [added] at present
    split at present
    · exact (Option.some.inj present).symm
    · exact idle n footing present

section

variable (rules : StackRules t journal refusable) (firm : ¬ refusable .rollback)
  (inserting : Inserting journal engine)

include rules firm inserting

theorem closure_leaves (call : ClientCall journal) (l : Locked (δ × η)) :
    Leaves journal refusable l ((call.closure t engine).runFrom l) := by
  obtain ⟨work,same⟩ := closure_work t inserting call
  rw [same]
  exact work.run_leaves rules firm l

theorem closure_confined (call : ClientCall journal) {contents : α} {l : Locked (δ × η)}
    (inside : Inside journal contents l) :
    Confined t journal contents ((call.closure t engine).runFrom l) := by
  obtain ⟨work,same⟩ := closure_work t inserting call
  rw [same]
  exact work.run_confined rules firm inside

variable (separate : Separate journal opener)

include separate

-- A call from level ground leaves level ground, unless its work breaks off inside a transaction
-- or leaves one behind that the session does not know of.
theorem after_idle (call : ClientCall journal) {ps : Pools δ η} (idle : ps.AllIdle journal) :
    (call.after opener t engine ps).AllIdle journal ↔
      ¬ call.PanicsInside opener t engine ps ∧ ¬ call.LosesTrack opener t engine ps := by
  rcases call.after_footing t engine separate ps with
    ⟨e,c,refused,grown⟩ | ⟨c,l,found,before,left⟩
  · refine iff_of_true (allIdle_grown grown idle) ⟨?_,?_⟩ <;>
    · rintro ⟨l,found,_⟩
      rw [refused] at found
      cases found
  · have there : (call.after opener t engine ps).AllIdle journal ↔
        Idle journal ((call.closure t engine).runFrom l).2 := by
      rw [← idle_of_footing]
      refine ⟨fun level => level c _ (by rw [left,if_pos rfl]),fun level n footing present => ?_⟩
      rw [left] at present
      split at present
      · exact (Option.some.inj present).symm.trans level
      · exact idle n footing present
    rw [there,panicsInside_iff found,losesTrack_iff found]
    have level := startsIdle separate call idle l found
    have leaves := closure_leaves rules firm inserting call l
    rcases ran : (call.closure t engine).runFrom l with ⟨outcome,l'⟩
    rw [ran] at leaves
    refine ⟨fun level => ⟨fun ⟨_,inside⟩ => ?_,fun ⟨_,opened⟩ => opened level.levels⟩,
      fun ⟨calm,known⟩ => ?_⟩
    · have := level.depth
      omega
    · cases leaves with
      | same depth levels => exact ⟨depth.trans level.depth,levels.trans level.levels⟩
      | idle level => exact level
      | broken inside => exact absurd ⟨rfl,inside⟩ calm
      | adrift name refused outside =>
        exact ⟨outside,Classical.byContradiction fun opened => known ⟨outside,opened⟩⟩

theorem keepsTrack (call : ClientCall journal) {ps : Pools δ η} (idle : ps.AllIdle journal)
    (lenient : ∀ name, ¬ refusable (.release name)) : ¬ call.LosesTrack opener t engine ps := by
  rintro ⟨l,found,outside,opened⟩
  have level := startsIdle separate call idle l found
  have leaves := closure_leaves rules firm inserting call l
  rcases ran : (call.closure t engine).runFrom l with ⟨outcome,l'⟩
  rw [ran] at leaves outside opened
  cases leaves with
  | same depth levels => exact opened (levels.trans level.levels)
  | idle level => exact opened level.levels
  | broken inside => exact Nat.ne_of_gt inside outside
  | adrift name refused _ => exact lenient name refused

theorem commitsNone (call : ClientCall journal) (ps : Pools δ η) :
    call.CommitsNone opener t engine ps := by
  rintro c0 contents ⟨footing,present,deep,began⟩
  rcases call.after_footing t engine separate ps with
    ⟨e,c,_,grown⟩ | ⟨c,l,found,before,left⟩
  · refine .inl ⟨footing,?_,deep,began⟩
    rcases grown with same | ⟨absent,added⟩
    · rw [same,present]
    · rw [added,if_neg,present]
      rintro rfl
      rw [absent] at present
      cases present
  · by_cases here : c0 = c
    · subst here
      rw [present] at before
      rcases before with same | ⟨absent,_⟩
      · have same := Option.some.inj same
        rw [same] at deep began
        have inside : Inside journal contents l := ⟨deep,began⟩
        rcases closure_confined rules firm inserting call inside with still | rolledBack
        · exact .inl ⟨_,by rw [left,if_pos rfl],still.deep,still.began⟩
        · exact .inr ⟨l,found,inside,rolledBack⟩
      · cases absent
    · exact .inl ⟨footing,by rw [left,if_neg here,present],deep,began⟩

theorem panicsUncommitted (call : ClientCall journal) (ps : Pools δ η) :
    call.PanicsUncommitted opener t engine ps := by
  intro within l found level panicked
  obtain ⟨work,same⟩ := closure_transaction t inserting within
  rcases ran : (call.closure t engine).runFrom l with ⟨outcome,l'⟩
  rw [ran] at panicked
  cases panicked
  have broken : (t.runInTransaction (work.run t)).runFrom l = (.error .panicked,l') := by
    rw [← same]
    exact ran
  rcases runInTransaction_panicked rules firm level.levels broken with still | rolledBack
  · refine .inl ?_
    rcases call.after_footing t engine separate ps with
      ⟨e,_,refused,_⟩ | ⟨c,l1,found1,_,left⟩
    · rw [found] at refused
      cases refused
    · cases found.symm.trans found1
      exact ⟨c,_,by rw [left,if_pos rfl,ran],still.deep,still.began⟩
  · exact .inr rolledBack

end

-- No call finds a transaction on its connection, as long as no work breaks off inside one and
-- no release is refused. The transaction that broken work leaves is never committed: later work
-- only continues it, or rolls it back.
theorem connections_stay_idle (rules : StackRules t journal refusable) (firm : ¬ refusable .rollback)
    (inserting : Inserting journal engine) (separate : Separate journal opener)
    (calls : List (ClientCall journal)) {ps : Pools δ η} (idle : ps.AllIdle journal) :
    (Along opener t engine (fun call ps => (call.after opener t engine ps).AllIdle journal) calls ps ↔
      Along opener t engine (fun call ps => ¬ call.PanicsInside opener t engine ps ∧
        ¬ call.LosesTrack opener t engine ps) calls ps) ∧
    ((∀ name, ¬ refusable (.release name)) →
      (Along opener t engine (fun call ps => (call.after opener t engine ps).AllIdle journal) calls ps ↔
        Along opener t engine (fun call ps => ¬ call.PanicsInside opener t engine ps) calls ps)) ∧
    (Along opener t engine (fun call ps => (call.after opener t engine ps).AllIdle journal) calls ps →
      Along opener t engine (fun call ps => call.StartsIdle opener ps) calls ps) ∧
    Along opener t engine (fun call ps => call.PanicsUncommitted opener t engine ps) calls ps ∧
    Along opener t engine (fun call ps => call.CommitsNone opener t engine ps) calls ps := by
  refine ⟨?_,fun lenient => ?_,?_,?_,?_⟩
  · exact along_iff (fun call ps => after_idle rules firm inserting separate call) calls idle
  · refine along_iff (fun call ps level => ?_) calls idle
    rw [after_idle rules firm inserting separate call level]
    exact and_iff_left (keepsTrack rules firm inserting separate call level lenient)
  · exact along_of_invariant (I := Pools.AllIdle journal)
      (fun call _ level => startsIdle separate call level) calls idle
  · exact along_all (panicsUncommitted rules firm inserting separate) calls ps
  · exact along_all (commitsNone rules firm inserting separate) calls ps

end ClientCall

-- A process whose databases are journals of the inserts that they were given.

def Journal.engine : Engine (Journal (List (String × List Value))) where
  execute text args := fun j => (.ok 1,{j with current := Ledger.append text args j.current})
  select _ _ := pure .empty
  lastInsertRowid := fun j => (Int64.ofNat j.current.length,j)

namespace Journals

abbrev Handle := Unit × Journal (List (String × List Value))

def opener : Opener Unit (Journal (List (String × List Value))) where
  openAt _ _ := .ok (⟨[],[]⟩,())

def transactor : Transactor Handle := Journal.transactor.on Prod.snd fun j b => (b.1,j)

def engine : Engine Handle := Journal.engine.on Prod.snd fun j b => (b.1,j)

theorem rules : StackRules transactor (fun b : Handle => b.2) fun _ => False :=
  Journal.stackRules.on fun _ _ => rfl

theorem inserting : Inserting (fun b : Handle => b.2) engine where
  execute _ _ _ _ := rfl
  rowid _ := rfl

theorem separate : Separate (fun b : Handle => b.2) opener where
  own _ _ _ := rfl
  fresh opened := by cases opened; rfl

def client : Client := { pool := 0, spec := .forAsync "owners.db" }

def inserts (outcome : Except Halt Unit) : Work (fun b : Handle => b.2) Unit :=
  .perform (owners.insert engine.locked [.text "Ada"]) (quiet_insert inserting _ _) fun _ =>
    .finish outcome

theorem start_idle : (Pools.start () : Pools Unit (Journal (List (String × List Value)))).AllIdle
    (fun b => b.2) := fun _ _ absurd => by cases absurd

def careful : List (ClientCall (fun b : Handle => b.2)) :=
  [.run client (inserts (.error .panicked)),.runInTransaction client (inserts (.ok ()))]

def careless : List (ClientCall (fun b : Handle => b.2)) :=
  [.runInTransaction client (inserts (.error .panicked)),.run client (inserts (.ok ()))]

end Journals

theorem connections_stay_idle_journals :
    ClientCall.Along Journals.opener Journals.transactor Journals.engine
      (fun call ps => call.StartsIdle Journals.opener ps) Journals.careful (Pools.start ()) ∧
    ¬ ClientCall.Along Journals.opener Journals.transactor Journals.engine
      (fun call ps => (call.after Journals.opener Journals.transactor Journals.engine ps).AllIdle
        fun b => b.2) Journals.careless (Pools.start ()) := by
  constructor
  · obtain ⟨_,lenient,starts,_,_⟩ := ClientCall.connections_stay_idle Journals.rules id
      Journals.inserting Journals.separate Journals.careful Journals.start_idle
    refine starts ((lenient fun _ => id).mpr ⟨?_,?_,trivial⟩) <;>
    · rintro ⟨l,found,_,inside⟩
      cases found
      exact absurd inside (by decide +kernel)
  · obtain ⟨level,_⟩ := ClientCall.connections_stay_idle Journals.rules id
      Journals.inserting Journals.separate Journals.careless Journals.start_idle
    intro idle
    exact (level.mp idle).1.1 ⟨_,rfl,rfl,Nat.one_pos⟩

theorem panic_leaks_transaction : ¬ ∀ (δ η α : Type) (opener : Opener δ η) (t : Transactor (δ × η))
    (engine : Engine (δ × η)) (journal : δ × η → Journal α),
    StackRules t journal (fun _ => False) → Inserting journal engine → Separate journal opener →
    ∀ (calls : List (ClientCall journal)) (ps : Pools δ η), ps.AllIdle journal →
    ClientCall.Along opener t engine (fun call ps => call.StartsIdle opener ps) calls ps := by
  intro start
  have along := start _ _ _ Journals.opener _ _ _ Journals.rules Journals.inserting Journals.separate
    Journals.careless (Pools.start ()) Journals.start_idle
  have level := along.2.1 _ rfl
  exact absurd level.depth (by decide)

end TypedRows
