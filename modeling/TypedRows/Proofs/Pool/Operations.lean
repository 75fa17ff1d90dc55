import TypedRows.Proofs.Pool.View

namespace TypedRows

-- What each operation of a pool does to the view. Later proofs use these facts and do not
-- open the operations again.

theorem Entry.changeFirst_cases {test : Slot → Bool} {change : Slot → Except Error Slot}
    {slots : List Slot} (able : ∀ slot ∈ slots, test slot = true → ∃ changed, change slot = .ok changed) :
    (Entry.changeFirst test change slots = .ok (none,slots) ∧ ∀ slot ∈ slots, test slot = false) ∨
    ∃ before slot after changed, slots = before ++ slot :: after ∧
      (∀ other ∈ before, test other = false) ∧ test slot = true ∧ change slot = .ok changed ∧
      Entry.changeFirst test change slots = .ok (some slot.connection,before ++ changed :: after) := by
  induction slots with
  | nil => exact .inl ⟨rfl,by simp⟩
  | cons slot rest ih =>
    rw [Entry.changeFirst]
    by_cases passes : test slot = true
    · obtain ⟨changed,done⟩ := able slot List.mem_cons_self passes
      rw [if_pos passes,done]
      exact .inr ⟨[],slot,rest,changed,rfl,by simp,passes,done,rfl⟩
    · have fails : test slot = false := by simpa using passes
      rw [if_neg passes]
      rcases ih fun other present => able other (List.mem_cons_of_mem _ present) with
        ⟨ran,none⟩ | ⟨before,found,after,changed,rfl,earlier,passed,done,ran⟩
      · rw [ran]
        exact .inl ⟨rfl,List.forall_mem_cons.mpr ⟨fails,none⟩⟩
      · rw [ran]
        exact .inr ⟨slot :: before,found,after,changed,rfl,List.forall_mem_cons.mpr ⟨fails,earlier⟩,
          passed,done,rfl⟩

namespace Pools

variable {δ η : Type}

-- Why there is no new connection: it cannot be opened, or it refuses the timeout of its pool.
def NotOpened (timeout : Option Nat) (spec : Spec) (e : Error) : Prop :=
  ∃ cause, e = .connection spec.path cause ∨ e = .engine cause ∧ timeout ≠ none

-- A hand-out of a pool: of the first slot that was idle, or of a new connection where none was.
-- Only a new connection can fail.
inductive CheckedOut (v : View) (timeout : Option Nat) (p : Nat) (spec : Spec) :
    Except Error Nat → View → Prop where
  | failed {e : Error} : NotOpened timeout spec e →
      (∀ other ∈ v.slots p spec.key, other.isIdle = false) →
      CheckedOut v timeout p spec (.error e) v
  | reused {before after : List Slot} {slot : Slot} (expiresAt : Nat) :
      v.slots p spec.key = before ++ slot :: after → slot.state = .idle →
      (∀ other ∈ before, other.isIdle = false) →
      CheckedOut v timeout p spec (.ok slot.connection)
        (v.put p spec.key (before ++ {slot with state := .inUse, expiresAt := expiresAt} :: after))
  | opened {slot : Slot} : (∀ other ∈ v.slots p spec.key, other.isIdle = false) →
      slot.id = v.lastId p + 1 → slot.connection = v.badges.length → slot.state = .inUse →
      CheckedOut v timeout p spec (.ok slot.connection) (v.opened p spec.key slot)

inductive CheckedIn (v : View) (p c : Nat) : CheckinOutcome → View → Prop where
  | unknown : v.badges[c]? = none → CheckedIn v p c .closedOrphan v
  | returned {badge : Badge} {before after : List Slot} {slot : Slot} : v.badges[c]? = some badge →
      v.slots p badge.key = before ++ slot :: after → slot.id = badge.id →
      CheckedIn v p c .returned
        (v.put p badge.key (before ++ {slot with state := .idle} :: after))
  | orphaned {badge : Badge} : v.badges[c]? = some badge →
      (∀ slot ∈ v.slots p badge.key, slot.id ≠ badge.id) →
      CheckedIn v p c .closedOrphan (v.close c)

section Entries

variable {ps : Pools δ η} {p : Nat}

theorem lookup_enrolled {entries : List (String × Nat)} {key : String} {n : Nat}
    (absent : entries.lookup key = none) (k : String) :
    (entries ++ [(key,n)]).lookup k = if k = key then some n else entries.lookup k := by
  rw [List.lookup_append,List.lookup_cons,List.lookup_nil]
  by_cases same : k = key
  · subst same
    rw [absent]
    simp
  · rw [beq_false_of_ne same,if_neg same]
    simp

theorem keys_enrolled {entries : List (String × Nat)} {key : String} {n : Nat}
    (distinct : (entries.map Prod.fst).Nodup) (absent : entries.lookup key = none) :
    ((entries ++ [(key,n)]).map Prod.fst).Nodup := by
  rw [List.map_append,List.nodup_append]
  refine ⟨distinct,by simp,?_⟩
  intro other present last here
  rw [List.map_singleton,List.mem_singleton] at here
  subst here
  rintro rfl
  obtain ⟨entry,member,same⟩ := List.mem_map.mp present
  rw [lookup_of_mem (e := entry.2) distinct (by rw [← same]; exact member)] at absent
  cases absent

def enrolled (p : Nat) (spec : Spec) (ps : Pools δ η) : Pools δ η :=
  (ps.addEntry spec).2.setPool p {ps.pool p with
    entries := (ps.pool p).entries ++ [(spec.key,ps.entries.length)]}

theorem pool_enrolled (present : p < ps.pools.length) (spec : Spec) (q : Nat) :
    (ps.enrolled p spec).pool q = if q = p then {ps.pool p with
      entries := (ps.pool p).entries ++ [(spec.key,ps.entries.length)]} else ps.pool q := by
  have grown : p < (ps.addEntry spec).2.pools.length := present
  exact pool_setPool grown _ q

section Enrolled

variable {spec : Spec} (present : p < ps.pools.length) (absent : (ps.pool p).entryOf? spec.key = none)

include present absent

theorem entryOf_enrolled (q : Nat) (key : String) : ((ps.enrolled p spec).pool q).entryOf? key =
    if q = p ∧ key = spec.key then some ps.entries.length else (ps.pool q).entryOf? key := by
  rw [pool_enrolled present]
  by_cases same : q = p
  · subst same
    rw [if_pos rfl]
    simp only [true_and]
    exact lookup_enrolled absent key
  · simp [same]

theorem registry_enrolled (registry : ps.Registry) : (ps.enrolled p spec).Registry where
  keys q := by
    rw [pool_enrolled present]
    split
    · exact keys_enrolled (registry.keys p) absent
    · exact registry.keys q
  valid {q key e} found := by
    have long : (ps.enrolled p spec).entries.length = ps.entries.length + 1 := by
      simp [enrolled,setPool,addEntry]
    rw [entryOf_enrolled present absent] at found
    split at found
    · cases found
      omega
    · have valid := registry.valid found
      omega
  once {q q' key key' e} found found' := by
    rw [entryOf_enrolled present absent] at found found'
    split at found <;> split at found'
    · rename_i here here'
      exact ⟨here.1.trans here'.1.symm,here.2.trans here'.2.symm⟩
    · cases found
      exact absurd (registry.valid found') (Nat.lt_irrefl _)
    · cases found'
      exact absurd (registry.valid found) (Nat.lt_irrefl _)
    · exact registry.once found found'

theorem view_enrolled (registry : ps.Registry) : (ps.enrolled p spec).view = ps.view := by
  refine View.ext (funext fun q => funext fun key => ?_) (funext fun q => ?_) rfl
  · change (((((ps.enrolled p spec).pool q).entryOf? key).bind fun e =>
      (ps.entries ++ [Entry.new spec])[e]?).map Entry.slots).getD [] = ps.slotsOf q key
    rw [entryOf_enrolled present absent]
    split
    · rename_i here
      rw [here.1,here.2,slotsOf_unregistered absent]
      simp [Entry.new]
    · unfold slotsOf
      cases other : (ps.pool q).entryOf? key with
      | none => rfl
      | some e => rw [Option.bind_some,Option.bind_some,List.getElem?_append_left (registry.valid other)]
  · change ((ps.enrolled p spec).pool q).lastId = (ps.pool q).lastId
    rw [pool_enrolled present]
    split
    · rename_i here
      rw [here]
    · rfl

end Enrolled

theorem entryFor_cases (registry : ps.Registry) (present : p < ps.pools.length) (spec : Spec) :
    ∃ e ps', ps.entryFor p spec = (e,ps') ∧ ps'.Registry ∧
      (ps'.pool p).entryOf? spec.key = some e ∧ ps'.view = ps.view ∧
      ps'.pools.length = ps.pools.length ∧ (ps'.pool p).options = (ps.pool p).options := by
  cases registered : (ps.pool p).entryOf? spec.key with
  | some e => exact ⟨e,ps,by simp only [entryFor,registered],registry,registered,rfl,rfl,rfl⟩
  | none =>
    have entered : ps.entryFor p spec = (ps.entries.length,ps.enrolled p spec) := by
      simp only [entryFor,registered]
      rfl
    refine ⟨_,_,entered,registry_enrolled present registered registry,?_,
      view_enrolled present registered registry,List.length_set,?_⟩
    · rw [entryOf_enrolled present registered,if_pos ⟨rfl,rfl⟩]
    · rw [pool_enrolled present,if_pos rfl]

variable {key : String} {e : Nat} {entry : Entry} {found : Option Nat} {slots : List Slot}

theorem takeIdle_runFrom (present : ps.entries[e]? = some entry)
    (ran : Entry.changeFirst Slot.isIdle (Slot.setInUse ps.clock) entry.slots = .ok (found,slots)) :
    (takeIdle e).runFrom ps = (.ok found,ps.setEntry e {entry with slots}) := by
  simp only [takeIdle,Step.runFrom,ExceptT.run,present,Entry.takeIdle,ran]
  rfl

theorem finished_runFrom {id : Nat} (present : ps.entries[e]? = some entry)
    (ran : Entry.changeFirst (fun slot => slot.id = id) Slot.setIdle entry.slots = .ok (found,slots)) :
    (finished e id).runFrom ps = (.ok found.isSome,ps.setEntry e {entry with slots}) := by
  simp only [finished,Step.runFrom,ExceptT.run,present,Entry.finished,ran]
  rfl

theorem takeIdle_cases (registry : ps.Registry) (registered : (ps.pool p).entryOf? key = some e) :
    ∃ found ps', (takeIdle e).runFrom ps = (.ok found,ps') ∧ ps'.Registry ∧ ps'.pools = ps.pools ∧
      ((found = none ∧ ps'.view = ps.view ∧ ∀ slot ∈ ps.slotsOf p key, slot.isIdle = false) ∨
      ∃ before slot after expiresAt, ps.slotsOf p key = before ++ slot :: after ∧
        slot.state = .idle ∧ (∀ other ∈ before, other.isIdle = false) ∧
        found = some slot.connection ∧ ps'.view = ps.view.put p key
          (before ++ {slot with state := .inUse, expiresAt := expiresAt} :: after)) := by
  obtain ⟨entry,present⟩ := registry.entry registered
  have slots := slotsOf_registered registered present
  have able : ∀ slot ∈ entry.slots, slot.isIdle = true →
      ∃ changed, slot.setInUse ps.clock = .ok changed := by
    intro slot _ idle
    have state : slot.state = .idle := by simpa [Slot.isIdle] using idle
    exact ⟨_,by rw [Slot.setInUse,if_neg (by simp [state])]⟩
  rcases Entry.changeFirst_cases able with ⟨ran,busy⟩ |
      ⟨before,slot,after,changed,split,first,idle,done,ran⟩
  · refine ⟨none,ps.setEntry e entry,?_,registry.setEntry entry,rfl,.inl ⟨rfl,?_,?_⟩⟩
    · exact takeIdle_runFrom present ran
    · rw [view_setEntry registry registered,← slots]
      exact ps.view.put_same p key
    · rw [slots]
      exact busy
  · have state : slot.state = .idle := by simpa [Slot.isIdle] using idle
    rw [Slot.setInUse,if_neg (by simp [state])] at done
    cases done
    refine ⟨some slot.connection,ps.setEntry e {entry with slots := before ++ _ :: after},?_,
      registry.setEntry _,rfl,.inr ⟨before,slot,after,ps.clock + slot.idleFor,slots.trans split,state,
        first,rfl,view_setEntry registry registered _⟩⟩
    exact takeIdle_runFrom present ran

theorem finished_cases (registry : ps.Registry) (registered : (ps.pool p).entryOf? key = some e)
    (opens : ∀ slot ∈ ps.slotsOf p key, slot.state ≠ .closed) (id : Nat) :
    ∃ found ps', (finished e id).runFrom ps = (.ok found,ps') ∧ ps'.Registry ∧ ps'.pools = ps.pools ∧
      ((found = false ∧ ps'.view = ps.view ∧ ∀ slot ∈ ps.slotsOf p key, slot.id ≠ id) ∨
      ∃ before slot after, ps.slotsOf p key = before ++ slot :: after ∧ slot.id = id ∧ found = true ∧
        ps'.view = ps.view.put p key (before ++ {slot with state := .idle} :: after)) := by
  obtain ⟨entry,present⟩ := registry.entry registered
  have slots := slotsOf_registered registered present
  have able : ∀ slot ∈ entry.slots, decide (slot.id = id) = true →
      ∃ changed, slot.setIdle = .ok changed := by
    intro slot member _
    exact ⟨_,by rw [Slot.setIdle,if_neg (opens slot (slots ▸ member))]⟩
  rcases Entry.changeFirst_cases able with ⟨ran,others⟩ | ⟨before,slot,after,changed,split,_,same,done,ran⟩
  · refine ⟨false,ps.setEntry e entry,?_,registry.setEntry entry,rfl,.inl ⟨rfl,?_,?_⟩⟩
    · exact finished_runFrom present ran
    · rw [view_setEntry registry registered,← slots]
      exact ps.view.put_same p key
    · rw [slots]
      exact fun slot member => of_decide_eq_false (others slot member)
  · have member : slot ∈ ps.slotsOf p key := by rw [slots,split]; simp
    rw [Slot.setIdle,if_neg (opens slot member)] at done
    cases done
    refine ⟨true,ps.setEntry e {entry with slots := before ++ _ :: after},?_,
      registry.setEntry _,rfl,.inr ⟨before,slot,after,slots.trans split,of_decide_eq_true same,
        rfl,view_setEntry registry registered _⟩⟩
    exact finished_runFrom present ran

def numbered (p id : Nat) (shared : δ) (connection : Connection η) (ps : Pools δ η) : Pools δ η :=
  ({ps with shared, connections := ps.connections ++ [connection]}).setPool p
    {ps.pool p with lastId := id}

theorem pool_numbered (present : p < ps.pools.length) (id : Nat) (shared : δ)
    (connection : Connection η) (q : Nat) : (ps.numbered p id shared connection).pool q =
      if q = p then {ps.pool p with lastId := id} else ps.pool q := by
  let connected : Pools δ η := {ps with shared, connections := ps.connections ++ [connection]}
  have within : p < connected.pools.length := present
  exact pool_setPool within _ q

theorem entryOf_numbered (present : p < ps.pools.length) (id : Nat) (shared : δ)
    (connection : Connection η) (q : Nat) (k : String) :
    ((ps.numbered p id shared connection).pool q).entryOf? k = (ps.pool q).entryOf? k := by
  rw [pool_numbered present]
  split
  · rename_i here
    rw [here]
    rfl
  · rfl

theorem registry_numbered (registry : ps.Registry) (present : p < ps.pools.length) (id : Nat)
    (shared : δ) (connection : Connection η) : (ps.numbered p id shared connection).Registry where
  keys q := by
    rw [pool_numbered present]
    split
    · exact registry.keys p
    · exact registry.keys q
  valid registered := by
    rw [entryOf_numbered present] at registered
    exact registry.valid registered
  once registered registered' := by
    rw [entryOf_numbered present] at registered registered'
    exact registry.once registered registered'

def newSlot (p : Nat) (ps : Pools δ η) : Slot :=
  Slot.new ((ps.pool p).lastId + 1) ps.connections.length ps.clock (ps.pool p).options.idleExpiration

def tracking (e : Nat) (slot : Slot) (ps : Pools δ η) : Pools δ η :=
  match ps.entries[e]? with
  | some entry => ps.setEntry e (entry.push slot)
  | none => ps

theorem tracking_eq (ps : Pools δ η) (found : ps.entries[e]? = some entry) (slot : Slot) :
    ps.tracking e slot = ps.setEntry e (entry.push slot) := by
  simp only [tracking,found]

theorem timeout_of_refused {opener : Opener δ η} {timeout : Option Nat} {handle : η}
    {cause : EngineError} (refused : opener.limitWait timeout handle = .error cause) :
    timeout ≠ none := by
  rintro rfl
  cases refused

-- A handle that refuses the timeout is lost, but what it has done to the rest of the process stays.
theorem openNew_outcomes (opener : Opener δ η) (p : Nat) (spec : Spec) (e : Nat) (ps : Pools δ η) :
    (∃ cause, (openNew opener p spec e).runFrom ps = (.error (.connection spec.path cause),ps)) ∨
    (∃ cause handle shared, opener.limitWait (ps.pool p).options.busyTimeout handle = .error cause ∧
      (openNew opener p spec e).runFrom ps = (.error (.engine cause),{ps with shared})) ∨
    ∃ handle shared, opener.openAt spec ps.shared = .ok (handle,shared) ∧
      (openNew opener p spec e).runFrom ps = (.ok ps.connections.length,
        (ps.numbered p (ps.newSlot p).id shared ⟨Session.new (ps.newSlot p).id spec.key,handle⟩).tracking
          e (ps.newSlot p)) := by
  cases reached : opener.openAt spec ps.shared with
  | error cause => exact .inl ⟨cause,by simp only [openNew,Step.runFrom,ExceptT.run,reached]⟩
  | ok result =>
    obtain ⟨handle,shared⟩ := result
    cases limited : opener.limitWait (ps.pool p).options.busyTimeout handle with
    | error cause =>
      refine .inr (.inl ⟨cause,handle,shared,limited,?_⟩)
      simp only [openNew,Step.runFrom,ExceptT.run,reached,limited]
    | ok _ =>
      refine .inr (.inr ⟨handle,shared,rfl,?_⟩)
      simp only [openNew,Step.runFrom,ExceptT.run,reached,limited]
      rfl

theorem openNew_cases (opener : Opener δ η) (registry : ps.Registry) (present : p < ps.pools.length)
    {spec : Spec} (registered : (ps.pool p).entryOf? spec.key = some e)
    (busy : ∀ slot ∈ ps.slotsOf p spec.key, slot.isIdle = false) :
    ∃ outcome ps', (openNew opener p spec e).runFrom ps = (outcome,ps') ∧ ps'.Registry ∧
      ps'.pools.length = ps.pools.length ∧
      CheckedOut ps.view (ps.pool p).options.busyTimeout p spec outcome ps'.view := by
  obtain ⟨entry,found⟩ := registry.entry registered
  rcases openNew_outcomes opener p spec e ps with ⟨cause,ran⟩ |
      ⟨cause,handle,shared,refused,ran⟩ | ⟨handle,shared,_,ran⟩
  · exact ⟨_,ps,ran,registry,rfl,.failed ⟨cause,.inl rfl⟩ busy⟩
  · exact ⟨_,_,ran,⟨registry.keys,registry.valid,registry.once⟩,rfl,
      .failed ⟨cause,.inr ⟨rfl,timeout_of_refused refused⟩⟩ busy⟩
  · let slot := ps.newSlot p
    let ps1 := ps.numbered p slot.id shared ⟨Session.new slot.id spec.key,handle⟩
    have registry1 : ps1.Registry := registry_numbered registry present _ _ _
    have registered1 : (ps1.pool p).entryOf? spec.key = some e :=
      (entryOf_numbered present _ _ _ p spec.key).trans registered
    have tracked : ps1.tracking e slot = ps1.setEntry e (entry.push slot) :=
      ps1.tracking_eq found slot
    refine ⟨.ok slot.connection,_,ran.trans (congrArg _ tracked),registry1.setEntry _,
      List.length_set,?_⟩
    -- The number is taken in the pool and the slot goes to the entry; all else is seen as before.
    have view : (ps1.setEntry e (entry.push slot)).view = ps.view.opened p spec.key slot := by
      rw [view_setEntry registry1 registered1]
      refine View.ext (funext fun q => funext fun k => ?_) (funext fun q => ?_) (List.map_append)
      · change (if q = p ∧ k = spec.key then (entry.push slot).slots else ps1.slotsOf q k) =
          if q = p ∧ k = spec.key then ps.slotsOf p spec.key ++ [slot] else ps.slotsOf q k
        rw [slotsOf_registered registered found]
        have others : ps1.slotsOf q k = ps.slotsOf q k := by
          unfold slotsOf
          rw [entryOf_numbered present]
          rfl
        rw [others]
        rfl
      · change (ps1.pool q).lastId = if q = p then slot.id else (ps.pool q).lastId
        rw [pool_numbered present]
        split <;> rfl
    rw [view]
    exact .opened busy rfl (List.length_map _).symm rfl

theorem checkout_cases (opener : Opener δ η) (registry : ps.Registry) (present : p < ps.pools.length)
    (spec : Spec) : ∃ outcome ps', (checkout opener p spec).runFrom ps = (outcome,ps') ∧ ps'.Registry ∧
      ps'.pools.length = ps.pools.length ∧
      CheckedOut ps.view (ps.pool p).options.busyTimeout p spec outcome ps'.view := by
  obtain ⟨e,ps1,entered,registry1,registered,view1,length1,options1⟩ :=
    entryFor_cases registry present spec
  obtain ⟨found,ps2,taken,registry2,pools2,cases⟩ := takeIdle_cases registry1 registered
  have start : (checkout opener p spec).runFrom ps = match found with
      | some c => (.ok c,ps2)
      | none => (openNew opener p spec e).runFrom ps2 := by
    simp only [checkout,Step.runFrom_bind,Step.runFrom_get,Step.runFrom_set,entered,taken]
    cases found <;> rfl
  rcases cases with ⟨rfl,view2,busy⟩ | ⟨before,slot,after,expiresAt,split,idle,first,rfl,view2⟩
  · have registered2 : (ps2.pool p).entryOf? spec.key = some e := by
      rw [Pools.pool,pools2]
      exact registered
    have busy2 : ∀ slot ∈ ps2.slotsOf p spec.key, slot.isIdle = false := by
      rw [show ps2.slotsOf = ps1.slotsOf from congrArg View.slots view2]
      exact busy
    have present2 : p < ps2.pools.length := by rw [pools2,length1]; exact present
    obtain ⟨outcome,ps3,ran,registry3,length3,done⟩ :=
      openNew_cases opener registry2 present2 registered2 busy2
    have timeout : (ps2.pool p).options.busyTimeout = (ps.pool p).options.busyTimeout := by
      rw [Pools.pool,pools2]
      exact congrArg PoolOptions.busyTimeout options1
    rw [view2,view1,timeout] at done
    exact ⟨outcome,ps3,start.trans ran,registry3,by rw [length3,pools2,length1],done⟩
  · refine ⟨_,ps2,start,registry2,by rw [pools2,length1],?_⟩
    rw [view2,view1]
    have slots : ps.view.slots p spec.key = before ++ slot :: after := by rw [← view1]; exact split
    exact .reused expiresAt slots idle first

theorem badges_view (c : Nat) : ps.view.badges[c]? = (ps.session? c).map Session.badge := by
  simp [Pools.view,session?]
  rfl

theorem Registry.close (registry : ps.Registry) (c : Nat) : (ps.close c).Registry where
  keys := registry.keys
  valid := registry.valid
  once := registry.once

theorem view_close (c : Nat) : (ps.close c).view = ps.view.close c := by
  refine View.ext rfl rfl (List.ext_getElem? fun n => ?_)
  change ((ps.connections.modify c _).map _)[n]? = ((ps.connections.map _).modify c _)[n]?
  rw [List.getElem?_map,List.getElem?_modify,List.getElem?_modify,List.getElem?_map]
  cases ps.connections[n]? with
  | none => rfl
  | some connection =>
    by_cases here : c = n
    · simp only [here,if_true]
      rfl
    · simp only [here,if_false]
      rfl

theorem giveBack_cases (registry : ps.Registry)
    (opens : ∀ key, ∀ slot ∈ ps.slotsOf p key, slot.state ≠ .closed) (session : Session) :
    ∃ found ps', ps.giveBack p session = (found,ps') ∧ ps'.Registry ∧
      ps'.pools.length = ps.pools.length ∧
      ((found = false ∧ ps'.view = ps.view ∧
        ∀ slot ∈ ps.slotsOf p session.key, slot.id ≠ session.id) ∨
      ∃ before slot after, ps.slotsOf p session.key = before ++ slot :: after ∧
        slot.id = session.id ∧ found = true ∧ ps'.view = ps.view.put p session.key
          (before ++ {slot with state := .idle} :: after)) := by
  unfold giveBack
  cases registered : (ps.pool p).entryOf? session.key with
  | none =>
    refine ⟨false,ps,rfl,registry,rfl,.inl ⟨rfl,rfl,?_⟩⟩
    simp [slotsOf_unregistered registered]
  | some e =>
    obtain ⟨found,ps',ran,registry',pools,cases⟩ :=
      finished_cases registry registered (opens session.key) session.id
    exact ⟨found,ps',by simp only [ran],registry',by rw [pools],cases⟩

theorem checkin_cases (registry : ps.Registry)
    (opens : ∀ key, ∀ slot ∈ ps.slotsOf p key, slot.state ≠ .closed) (c : Nat) :
    ∃ outcome ps', ps.checkin p c = (outcome,ps') ∧ ps'.Registry ∧
      ps'.pools.length = ps.pools.length ∧ CheckedIn ps.view p c outcome ps'.view := by
  unfold checkin
  have badges : ps.view.badges[c]? = (ps.session? c).map Session.badge := badges_view c
  cases known : ps.session? c with
  | none =>
    rw [known] at badges
    exact ⟨_,ps,rfl,registry,rfl,.unknown badges⟩
  | some session =>
    rw [known] at badges
    obtain ⟨found,ps1,gave,registry1,length1,cases⟩ := giveBack_cases registry opens session
    rcases cases with ⟨rfl,view1,others⟩ | ⟨before,slot,after,split,same,rfl,view1⟩
    · refine ⟨_,ps1.close c,by simp only [gave]; rfl,registry1.close c,length1,?_⟩
      rw [view_close,view1]
      exact .orphaned badges others
    · refine ⟨_,ps1,by simp only [gave]; rfl,registry1,length1,?_⟩
      rw [view1]
      exact .returned badges split same

end Entries

end Pools

end TypedRows
