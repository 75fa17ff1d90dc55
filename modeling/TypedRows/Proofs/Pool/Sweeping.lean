import TypedRows.Proofs.Pool.Operations

namespace TypedRows

-- What sweeping does to the view: which slots go, and which connections are closed.

def Badge.shut (badge : Badge) : Badge := {badge with closed := true}

def Closes (gone : Nat → Prop) (badges badges' : List Badge) : Prop :=
  ∀ c, (gone c → badges'[c]? = (badges[c]?).map Badge.shut) ∧ (¬ gone c → badges'[c]? = badges[c]?)

namespace Closes

variable {gone gone' : Nat → Prop} {first second third : List Badge}

theorem none (badges : List Badge) : Closes (fun _ => False) badges badges :=
  fun _ => ⟨False.elim,fun _ => rfl⟩

theorem one (c : Nat) (badges : List Badge) :
    Closes (fun n => n = c) badges (badges.modify c Badge.shut) := by
  intro n
  rw [List.getElem?_modify]
  constructor
  · rintro rfl
    cases badges[n]? <;> simp
  · intro other
    cases badges[n]? <;> simp [Ne.symm other]

theorem trans (one : Closes gone first second) (two : Closes gone' second third) :
    Closes (fun c => gone c ∨ gone' c) first third := by
  intro c
  by_cases before : gone c <;> by_cases after : gone' c
  · refine ⟨fun _ => ?_,fun neither => absurd (.inl before) neither⟩
    rw [(two c).1 after,(one c).1 before]
    cases first[c]? <;> rfl
  · refine ⟨fun _ => ?_,fun neither => absurd (.inl before) neither⟩
    rw [(two c).2 after,(one c).1 before]
  · refine ⟨fun _ => ?_,fun neither => absurd (.inr after) neither⟩
    rw [(two c).1 after,(one c).2 before]
  · refine ⟨fun either => absurd either (by simp [before,after]),fun _ => ?_⟩
    rw [(two c).2 after,(one c).2 before]

theorem congr (closes : Closes gone first second) (same : ∀ c, gone c ↔ gone' c) :
    Closes gone' first second :=
  fun c => ⟨fun inside => (closes c).1 ((same c).mpr inside),
    fun outside => (closes c).2 fun inside => outside ((same c).mp inside)⟩

end Closes

structure Swept (kept : String → Slot → Bool) (p : Nat) (v v' : View) : Prop where
  slots : ∀ q key, v'.slots q key = if q = p then (v.slots q key).filter (kept key) else v.slots q key
  lastId : v'.lastId = v.lastId
  badges : Closes (fun c => ∃ key, ∃ slot ∈ v.slots p key, kept key slot = false ∧
    slot.state = .idle ∧ slot.connection = c) v.badges v'.badges

namespace Pools

variable {δ η : Type} {ps : Pools δ η}

theorem closeAll_kept (slots : List Slot) (ps : Pools δ η) :
    (slots.foldl (fun ps slot => ps.close slot.connection) ps).entries = ps.entries ∧
    (slots.foldl (fun ps slot => ps.close slot.connection) ps).pools = ps.pools := by
  induction slots generalizing ps with
  | nil => exact ⟨rfl,rfl⟩
  | cons slot rest ih => exact ih (ps.close slot.connection)

theorem closeAll_closes (slots : List Slot) (ps : Pools δ η) :
    Closes (fun c => ∃ slot ∈ slots, slot.connection = c) ps.view.badges
      (slots.foldl (fun ps slot => ps.close slot.connection) ps).view.badges := by
  induction slots generalizing ps with
  | nil => exact (Closes.none _).congr fun c => by simp
  | cons slot rest ih =>
    have first : Closes (fun c => c = slot.connection) ps.view.badges
        (ps.close slot.connection).view.badges := by
      rw [view_close]
      exact .one slot.connection ps.view.badges
    refine (first.trans (ih (ps.close slot.connection))).congr fun c => ?_
    simp [eq_comm]

theorem drained_unswept (limit : Option Nat) (entry : Entry) :
    ∀ slot ∈ (entry.drain limit).2.slots, slot.isSwept limit = false := by
  intro slot present
  simpa using (List.mem_filter.mp present).2

theorem drain_drain (limit : Option Nat) (entry : Entry) :
    ((entry.drain limit).2.drain limit).2 = (entry.drain limit).2 := by
  simp [Entry.drain]

def InEntries (limit : Option Nat) (es : List Nat) (ps : Pools δ η) (c : Nat) : Prop :=
  ∃ e ∈ es, ∃ entry, ps.entries[e]? = some entry ∧
    ∃ slot ∈ entry.slots, slot.isSwept limit = true ∧ slot.connection = c

theorem sweep_cases (limit : Option Nat) (es : List Nat) (ps : Pools δ η) :
    (ps.sweep limit es).2.pools = ps.pools ∧
    (∀ e, (ps.sweep limit es).2.entries[e]? =
      if e ∈ es then (ps.entries[e]?).map fun entry => (entry.drain limit).2 else ps.entries[e]?) ∧
    Closes (InEntries limit es ps) ps.view.badges (ps.sweep limit es).2.view.badges := by
  induction es generalizing ps with
  | nil => exact ⟨rfl,fun e => by simp [sweep],(Closes.none _).congr fun c => by simp [InEntries]⟩
  | cons e rest ih =>
    rw [sweep]
    cases found : ps.entries[e]? with
    | none =>
      obtain ⟨pools,entries,closes⟩ := ih ps
      refine ⟨pools,fun e' => ?_,closes.congr fun c => ?_⟩
      · dsimp only
        rw [entries]
        by_cases here : e' = e
        · subst here
          simp [found]
        · simp [here]
      · simp [InEntries,found]
    | some entry =>
      let ps1 := (entry.drain limit).1.foldl (fun ps slot => ps.close slot.connection)
        (ps.setEntry e (entry.drain limit).2)
      have valid : e < ps.entries.length := (List.getElem?_eq_some_iff.mp found).1
      have kept := closeAll_kept (entry.drain limit).1 (ps.setEntry e (entry.drain limit).2)
      have entries1 : ∀ e', ps1.entries[e']? =
          if e' = e then some (entry.drain limit).2 else ps.entries[e']? := by
        intro e'
        rw [show ps1.entries = ps.entries.set e (entry.drain limit).2 from kept.1,List.getElem?_set]
        by_cases here : e = e'
        · subst here
          simp [valid]
        · simp [here,Ne.symm here]
      have closes1 : Closes (fun c => ∃ slot ∈ entry.slots, slot.isSwept limit = true ∧
          slot.connection = c) ps.view.badges ps1.view.badges := by
        refine (closeAll_closes (entry.drain limit).1 (ps.setEntry e (entry.drain limit).2)).congr
          fun c => ?_
        simp only [Entry.drain,List.mem_filter,and_assoc]
      -- The rest is swept where this entry holds nothing to sweep any more.
      obtain ⟨pools,entries,closes⟩ := ih ps1
      refine ⟨pools.trans kept.2,fun e' => ?_,(closes1.trans closes).congr fun c => ?_⟩
      · change (ps1.sweep limit rest).2.entries[e']? = _
        rw [entries,entries1]
        by_cases here : e' = e
        · -- An entry that comes up twice has nothing left to sweep.
          subst here
          simp [found,drain_drain]
        · simp [here]
      · constructor
        · rintro (⟨slot,member,swept,same⟩ | ⟨e',later,entry',found',slot,member,swept,same⟩)
          · exact ⟨e,List.mem_cons_self,entry,found,slot,member,swept,same⟩
          · rw [entries1] at found'
            split at found'
            · cases found'
              rw [drained_unswept limit entry slot member] at swept
              cases swept
            · exact ⟨e',List.mem_cons_of_mem _ later,entry',found',slot,member,swept,same⟩
        · rintro ⟨e',present,entry',found',slot,member,swept,same⟩
          by_cases here : e' = e
          · subst here
            rw [found] at found'
            cases found'
            exact .inl ⟨slot,member,swept,same⟩
          · have later := (List.mem_cons.mp present).resolve_left here
            exact .inr ⟨e',later,entry',by rw [entries1,if_neg here]; exact found',slot,member,swept,same⟩

theorem pool_sweep (limit : Option Nat) (es : List Nat) (ps : Pools δ η) (q : Nat) :
    (ps.sweep limit es).2.pool q = ps.pool q := by
  rw [Pools.pool,Pools.pool,(sweep_cases limit es ps).1]

section Entries

variable {limit : Option Nat} {es : List Nat} {p q : Nat} {key : String}

theorem slotsOf_sweep_inside {e : Nat} (registered : (ps.pool q).entryOf? key = some e)
    (inside : e ∈ es) : (ps.sweep limit es).2.slotsOf q key =
      (ps.slotsOf q key).filter fun slot => !slot.isSwept limit := by
  unfold slotsOf
  rw [pool_sweep,registered,Option.bind_some,Option.bind_some,(sweep_cases limit es ps).2.1 e,
    if_pos inside]
  cases ps.entries[e]? <;> rfl

theorem slotsOf_sweep_outside (outside : ∀ e, (ps.pool q).entryOf? key = some e → e ∉ es) :
    (ps.sweep limit es).2.slotsOf q key = ps.slotsOf q key := by
  unfold slotsOf
  rw [pool_sweep]
  cases registered : (ps.pool q).entryOf? key with
  | none => rfl
  | some e =>
    rw [Option.bind_some,Option.bind_some,(sweep_cases limit es ps).2.1 e,
      if_neg (outside e registered)]

theorem registry_sweep (registry : ps.Registry) (limit : Option Nat) (es : List Nat) :
    (ps.sweep limit es).2.Registry where
  keys q := by
    rw [pool_sweep]
    exact registry.keys q
  valid {q key e} registered := by
    rw [pool_sweep] at registered
    obtain ⟨entry,found⟩ := registry.entry registered
    have still := (sweep_cases limit es ps).2.1 e
    rw [found] at still
    split at still <;> exact (List.getElem?_eq_some_iff.mp still).1
  once registered registered' := by
    rw [pool_sweep] at registered registered'
    exact registry.once registered registered'

def keyed (p : Nat) (chosen : String → Bool) (ps : Pools δ η) : List Nat :=
  ((ps.pool p).entries.filter fun entry => chosen entry.1).map Prod.snd

theorem mem_entries_iff (registry : ps.Registry) {e : Nat} :
    (key,e) ∈ (ps.pool p).entries ↔ (ps.pool p).entryOf? key = some e :=
  ⟨lookup_of_mem (registry.keys p),mem_of_lookup⟩

theorem mem_keyed_iff (registry : ps.Registry) {chosen : String → Bool} {e : Nat}
    (registered : (ps.pool q).entryOf? key = some e) :
    e ∈ ps.keyed p chosen ↔ q = p ∧ chosen key = true := by
  unfold keyed
  rw [List.mem_map]
  constructor
  · rintro ⟨⟨key',e'⟩,present,rfl⟩
    obtain ⟨member,picked⟩ := List.mem_filter.mp present
    obtain ⟨rfl,rfl⟩ := registry.once registered ((mem_entries_iff registry).mp member)
    exact ⟨rfl,picked⟩
  · rintro ⟨rfl,picked⟩
    exact ⟨(key,e),List.mem_filter.mpr ⟨(mem_entries_iff registry).mpr registered,picked⟩,rfl⟩

theorem inEntries_keyed (registry : ps.Registry) {chosen : String → Bool} {c : Nat} :
    InEntries limit (ps.keyed p chosen) ps c ↔ ∃ key, chosen key = true ∧
      ∃ slot ∈ ps.slotsOf p key, slot.isSwept limit = true ∧ slot.connection = c := by
  constructor
  · rintro ⟨e,present,entry,found,slot,member,swept,same⟩
    obtain ⟨⟨key,e'⟩,inside,rfl⟩ := List.mem_map.mp present
    obtain ⟨member',picked⟩ := List.mem_filter.mp inside
    have registered := (mem_entries_iff registry).mp member'
    exact ⟨key,picked,slot,by rw [slotsOf_registered registered found]; exact member,swept,same⟩
  · rintro ⟨key,picked,slot,member,swept,same⟩
    obtain ⟨e,registered⟩ := registered_of_mem member
    obtain ⟨entry,found⟩ := registry.entry registered
    rw [slotsOf_registered registered found] at member
    exact ⟨e,(mem_keyed_iff registry registered).mpr ⟨rfl,picked⟩,entry,found,slot,member,swept,same⟩

theorem isSwept_none (slot : Slot) : slot.isSwept none = true ↔ slot.state = .idle := by
  simp [Slot.isSwept,Slot.isIdle]

theorem idle_of_swept {slot : Slot} (swept : slot.isSwept limit = true) : slot.state = .idle := by
  rw [Slot.isSwept,Bool.and_eq_true] at swept
  simpa [Slot.isIdle] using swept.1

theorem reclaimExpired_cases (registry : ps.Registry) :
    (ps.reclaimExpired p).2.Registry ∧ (ps.reclaimExpired p).2.pools.length = ps.pools.length ∧
    Swept (fun _ slot => !slot.isSwept (some ps.clock)) p ps.view (ps.reclaimExpired p).2.view := by
  have swept : ps.reclaimExpired p = ps.sweep (some ps.clock) (ps.keyed p fun _ => true) := by
    rw [reclaimExpired,keyed,List.filter_eq_self.mpr fun _ _ => rfl]
  obtain ⟨pools,_,closes⟩ := sweep_cases (some ps.clock) (ps.keyed p fun _ => true) ps
  rw [swept]
  refine ⟨registry_sweep registry _ _,by rw [pools],?_,?_,closes.congr fun c => ?_⟩
  · intro q key
    change (ps.sweep _ _).2.slotsOf q key = if q = p then (ps.slotsOf q key).filter _ else ps.slotsOf q key
    by_cases here : q = p
    · subst here
      rw [if_pos rfl]
      cases registered : (ps.pool q).entryOf? key with
      | none =>
        rw [slotsOf_sweep_outside (by simp [registered]),slotsOf_unregistered registered]
        rfl
      | some e => exact slotsOf_sweep_inside registered ((mem_keyed_iff registry registered).mpr ⟨rfl,rfl⟩)
    · rw [if_neg here]
      exact slotsOf_sweep_outside fun e registered present =>
        here ((mem_keyed_iff registry registered).mp present).1
  · exact funext fun q => congrArg Pool.lastId (pool_sweep _ _ ps q)
  · rw [inEntries_keyed registry]
    constructor
    · rintro ⟨key,_,slot,member,swept,same⟩
      exact ⟨key,slot,member,by rw [swept]; rfl,idle_of_swept swept,same⟩
    · rintro ⟨key,slot,member,unkept,_,same⟩
      exact ⟨key,rfl,slot,member,by simpa using unkept,same⟩

end Entries

def isScoped (scope : ReclaimScope) (key : String) : Bool := Pool.inScope scope (key,0)

theorem inScope_eq (scope : ReclaimScope) : Pool.inScope scope = fun entry => isScoped scope entry.1 := by
  funext entry
  cases scope <;> rfl

theorem lookup_filter {entries : List (String × Nat)} (picked : String → Bool) (key : String) :
    (entries.filter fun entry => picked entry.1).lookup key =
      if picked key then entries.lookup key else none := by
  induction entries with
  | nil => simp
  | cons entry rest ih =>
    obtain ⟨k,e⟩ := entry
    rw [List.filter_cons,List.lookup_cons]
    by_cases same : key = k
    · subst same
      by_cases chosen : picked key = true
      · simp [chosen]
      · rw [if_neg chosen,ih,if_neg chosen]
        simp [chosen]
    · rw [beq_false_of_ne same]
      by_cases chosen : picked k = true
      · simp only [chosen,if_true]
        rw [List.lookup_cons,beq_false_of_ne same]
        exact ih
      · simp only [chosen]
        exact ih

def forgotten (p : Nat) (scope : ReclaimScope) (ps : Pools δ η) : Pools δ η :=
  ps.setPool p {ps.pool p with
    entries := (ps.pool p).entries.filter fun entry => !isScoped scope entry.1}

section Forgotten

variable {p : Nat}

theorem lastId_forgotten (present : p < ps.pools.length) (scope : ReclaimScope) (q : Nat) :
    ((ps.forgotten p scope).pool q).lastId = (ps.pool q).lastId := by
  rw [forgotten,pool_setPool present]
  split
  · rename_i here
    rw [here]
  · rfl

theorem entryOf_forgotten (present : p < ps.pools.length) (scope : ReclaimScope) (q : Nat)
    (key : String) : ((ps.forgotten p scope).pool q).entryOf? key =
      if q = p ∧ isScoped scope key = true then none else (ps.pool q).entryOf? key := by
  rw [forgotten,pool_setPool present]
  by_cases here : q = p
  · subst here
    rw [if_pos rfl,Pool.entryOf?,lookup_filter fun key => !isScoped scope key]
    cases isScoped scope key <;> simp [Pool.entryOf?]
  · simp [here]

theorem registered_of_forgotten (present : p < ps.pools.length) {scope : ReclaimScope} {q e : Nat}
    {key : String} (registered : ((ps.forgotten p scope).pool q).entryOf? key = some e) :
    ¬ (q = p ∧ isScoped scope key = true) ∧ (ps.pool q).entryOf? key = some e := by
  rw [entryOf_forgotten present] at registered
  split at registered
  · cases registered
  · rename_i kept
    exact ⟨kept,registered⟩

theorem registry_forgotten (registry : ps.Registry) (present : p < ps.pools.length)
    (scope : ReclaimScope) : (ps.forgotten p scope).Registry where
  keys q := by
    rw [forgotten,pool_setPool present]
    split
    · exact (registry.keys p).sublist (List.filter_sublist.map Prod.fst)
    · exact registry.keys q
  valid registered := registry.valid (registered_of_forgotten present registered).2
  once registered registered' := registry.once (registered_of_forgotten present registered).2
    (registered_of_forgotten present registered').2

theorem slotsOf_forgotten (present : p < ps.pools.length) (scope : ReclaimScope) (q : Nat)
    (key : String) : (ps.forgotten p scope).slotsOf q key =
      if q = p then (ps.slotsOf q key).filter fun _ => !isScoped scope key else ps.slotsOf q key := by
  unfold slotsOf
  rw [entryOf_forgotten present]
  by_cases here : q = p
  · rw [if_pos here]
    cases chosen : isScoped scope key
    · rw [if_neg (by simp)]
      exact (List.filter_eq_self.mpr fun _ _ => rfl).symm
    · simp [here]
  · simp only [here,false_and,if_false]
    rfl

-- The entries in scope are swept of all idle connections, and forgotten before.
theorem reclaimIdle_eq (p : Nat) (scope : ReclaimScope) (ps : Pools δ η) :
    ps.reclaimIdle p scope = (ps.forgotten p scope).sweep none (ps.keyed p (isScoped scope)) := by
  rw [reclaimIdle,forgotten,keyed,inScope_eq]

theorem reclaimIdle_cases (registry : ps.Registry) (present : p < ps.pools.length)
    (scope : ReclaimScope) :
    (ps.reclaimIdle p scope).2.Registry ∧ (ps.reclaimIdle p scope).2.pools.length = ps.pools.length ∧
    Swept (fun key _ => !isScoped scope key) p ps.view (ps.reclaimIdle p scope).2.view := by
  obtain ⟨pools,_,closes⟩ := sweep_cases none (ps.keyed p (isScoped scope)) (ps.forgotten p scope)
  rw [reclaimIdle_eq]
  refine ⟨registry_sweep (registry_forgotten registry present scope) _ _,?_,?_,?_,closes.congr fun c => ?_⟩
  · rw [pools]
    exact List.length_set
  · intro q key
    refine (slotsOf_sweep_outside fun e registered inside => ?_).trans (slotsOf_forgotten present scope q key)
    obtain ⟨kept,registered⟩ := registered_of_forgotten present registered
    exact kept ((mem_keyed_iff registry registered).mp inside)
  · exact funext fun q => (congrArg Pool.lastId (pool_sweep _ _ _ q)).trans (lastId_forgotten present scope q)
  · refine (inEntries_keyed registry).trans ?_
    constructor
    · rintro ⟨key,chosen,slot,member,swept,same⟩
      exact ⟨key,slot,member,by rw [chosen]; rfl,idle_of_swept swept,same⟩
    · rintro ⟨key,slot,member,unkept,idle,same⟩
      exact ⟨key,by simpa using unkept,slot,member,(isSwept_none slot).mpr idle,same⟩

end Forgotten

end Pools

end TypedRows
