import Mathlib.Data.List.Induction
import TypedRows.Proofs.Pool.Checkins
import TypedRows.Proofs.Text.Numerals

namespace TypedRows

-- Connections are shared between equal keys, and equal keys come from equal specs only. So what a
-- pool hands out was opened just as asked for.

section Parts

variable {α : Type} {mark : α} {first first' rest rest' : List α}

theorem split_at_mark (absent : mark ∉ first) (absent' : mark ∉ first')
    (same : first ++ mark :: rest = first' ++ mark :: rest') : first = first' ∧ rest = rest' := by
  induction first generalizing first' with
  | nil =>
    cases first' with
    | nil => exact ⟨rfl,(List.cons.inj same).2⟩
    | cons a first' =>
      rw [(List.cons.inj same).1] at absent'
      exact absurd List.mem_cons_self absent'
  | cons a first ih =>
    cases first' with
    | nil =>
      rw [(List.cons.inj same).1] at absent
      exact absurd List.mem_cons_self absent
    | cons b first' =>
      obtain ⟨rfl,later⟩ := List.cons.inj same
      rw [List.mem_cons,not_or] at absent absent'
      obtain ⟨rfl,rfl⟩ := ih absent.2 absent'.2 later
      exact ⟨rfl,rfl⟩

end Parts

theorem Text.signed_injective {m n : Int} (same : signed m = signed n) : m = n := by
  have read := readSigned_eq_some.mpr (Denotes.signed m)
  rw [same,readSigned_eq_some.mpr (Denotes.signed n)] at read
  exact (Option.some.inj read).symm

theorem Text.bar_notMem_signed (n : Int) : '|' ∉ signed n := by
  have solid : '|' ∉ numeral n.natAbs := fun present =>
    absurd (isDigit_of_mem_numeral present) (by decide)
  unfold signed
  split
  · simpa using solid
  · exact solid

theorem bar_notMem_shownBool (b : Bool) : '|' ∉ (shownBool b).toList := by
  cases b <;> decide

theorem Spec.key_toList (s : Spec) : s.key.toList =
    Text.signed s.bits ++ '|' :: ((shownBool s.explicit).toList ++ '|' :: s.path.toList) := by
  simp [Spec.key,shownInt]

-- Neither number nor truth value holds a bar, so the path begins after the second one, whatever is
-- in it.
theorem Spec.key_inj {s s' : Spec} : s.key = s'.key ↔ s = s' := by
  constructor
  · intro same
    have texts := congrArg String.toList same
    rw [key_toList,key_toList] at texts
    obtain ⟨bits,texts⟩ := split_at_mark (Text.bar_notMem_signed _) (Text.bar_notMem_signed _) texts
    obtain ⟨truth,path⟩ :=
      split_at_mark (bar_notMem_shownBool _) (bar_notMem_shownBool _) texts
    have explicit : s.explicit = s'.explicit := by
      revert truth
      cases s.explicit <;> cases s'.explicit <;> decide
    cases s
    cases s'
    rw [Spec.mk.injEq]
    exact ⟨String.toList_inj.mp path,Text.signed_injective bits,explicit⟩
  · rintro rfl
    rfl

-- What anyone can do with the pools of a process. Entries are used by those who have kept them,
-- also after the pool has forgotten them.
inductive Deed (δ η : Type) where
  | checkout (p : Nat) (spec : Spec)
  | takeIdle (e : Nat)
  | finished (e id : Nat)
  | checkin (p c : Nat)
  | close (c : Nat)
  | reclaimIdle (p : Nat) (scope : ReclaimScope)
  | reclaimExpired (p : Nat)
  | addPool (options : PoolOptions)
  | resetCurrent
  | elapse (time : Nat)
  | locked (c : Nat) (action : Action (Locked (δ × η)) Unit)

theorem Entry.changeFirst_connections {test : Slot → Bool} {change : Slot → Except Error Slot}
    {slots slots' : List Slot} {found : Option Nat}
    (keeps : ∀ slot changed, change slot = .ok changed → changed.connection = slot.connection)
    (ran : Entry.changeFirst test change slots = .ok (found,slots')) :
    slots'.map Slot.connection = slots.map Slot.connection ∧
      ∀ c, found = some c → c ∈ slots.map Slot.connection := by
  induction slots generalizing found slots' with
  | nil =>
    cases ran
    exact ⟨rfl,fun c none => by cases none⟩
  | cons slot rest ih =>
    rw [Entry.changeFirst] at ran
    split at ran
    · cases changed : change slot with
      | error cause =>
        rw [changed] at ran
        cases ran
      | ok slot' =>
        rw [changed] at ran
        cases ran
        rw [List.map_cons,List.map_cons,keeps slot slot' changed]
        exact ⟨rfl,fun c same => by cases same; exact List.mem_cons_self⟩
    · cases later : Entry.changeFirst test change rest with
      | error cause =>
        rw [later] at ran
        cases ran
      | ok result =>
        rw [later] at ran
        cases ran
        obtain ⟨connections,inside⟩ := ih later
        rw [List.map_cons,List.map_cons,connections]
        exact ⟨rfl,fun c same => List.mem_cons_of_mem _ (inside c same)⟩

theorem Slot.setInUse_connection {now : Nat} {slot changed : Slot}
    (done : slot.setInUse now = .ok changed) : changed.connection = slot.connection := by
  unfold setInUse at done
  split at done
  · cases done
  · cases done
    rfl

theorem Slot.setIdle_connection {slot changed : Slot} (done : slot.setIdle = .ok changed) :
    changed.connection = slot.connection := by
  unfold setIdle at done
  split at done
  · cases done
  · cases done
    rfl

namespace Pools

variable {δ η : Type} (opener : Opener δ η)

def after (ps : Pools δ η) : Deed δ η → Pools δ η
  | .checkout p spec => ((checkout opener p spec).runFrom ps).2
  | .takeIdle e => ((takeIdle e).runFrom ps).2
  | .finished e id => ((finished e id).runFrom ps).2
  | .checkin p c => (ps.checkin p c).2
  | .close c => ps.close c
  | .reclaimIdle p scope => (ps.reclaimIdle p scope).2
  | .reclaimExpired p => (ps.reclaimExpired p).2
  | .addPool options => (ps.addPool options).2
  | .resetCurrent => ps.resetCurrent
  | .elapse time => {ps with clock := ps.clock + time}
  | .locked c action => ((locked c action).runFrom ps).2

def afterAll (ps : Pools δ η) (deeds : List (Deed δ η)) : Pools δ η :=
  deeds.foldl (after opener) ps

def Opens (ps : Pools δ η) (deed : Deed δ η) (spec : Spec) : Prop :=
  ∃ p handle shared session, deed = .checkout p spec ∧
    opener.openAt spec ps.shared = .ok (handle,shared) ∧
    (ps.after opener deed).connections = ps.connections ++ [⟨session,handle⟩]

def OpenedWith (ps : Pools δ η) (deeds : List (Deed δ η)) (c : Nat) (spec : Spec) : Prop :=
  ∃ earlier deed later, deeds = earlier ++ deed :: later ∧
    (ps.afterAll opener earlier).connections.length = c ∧
    (ps.afterAll opener earlier).Opens opener deed spec

def specOf? (e : Nat) (ps : Pools δ η) : Option Spec := (ps.entries[e]?).map Entry.spec

-- Every entry goes under the key of its spec and holds connections that were opened with it.
structure Filed (ps : Pools δ η) (opened : List Spec) : Prop where
  count : opened.length = ps.connections.length
  registered : ∀ p key e, (key,e) ∈ (ps.pool p).entries →
    ∃ spec, ps.specOf? e = some spec ∧ spec.key = key
  filed : ∀ (e : Nat) entry, ps.entries[e]? = some entry →
    ∀ slot ∈ entry.slots, opened[slot.connection]? = some entry.spec

section

variable {opener : Opener δ η} {ps ps' : Pools δ η} {opened : List Spec} {p e c : Nat}
  {entry entry' : Entry} {spec : Spec}

theorem mem_entries_setPool {pool : Pool} {q : Nat} {registered : String × Nat}
    (present : registered ∈ ((ps.setPool p pool).pool q).entries) :
    (q = p ∧ registered ∈ pool.entries) ∨ registered ∈ (ps.pool q).entries := by
  unfold setPool Pools.pool at present
  dsimp only at present
  rw [List.getElem?_set] at present
  split at present
  · rename_i here
    split at present
    · exact .inl ⟨here.symm,present⟩
    · cases present
  · exact .inr present

theorem specOf_setEntry (found : ps.entries[e]? = some entry) (spec : entry'.spec = entry.spec)
    (e' : Nat) : (ps.setEntry e entry').specOf? e' = ps.specOf? e' := by
  rw [specOf?,specOf?,Pools.setEntry,List.getElem?_set]
  by_cases here : e = e'
  · subst here
    obtain ⟨valid,_⟩ := List.getElem?_eq_some_iff.mp found
    rw [if_pos rfl,if_pos valid,found,Option.map_some,Option.map_some,spec]
  · rw [if_neg here]

namespace Filed

theorem start (shared : δ) : (Pools.start shared : Pools δ η).Filed [] where
  count := rfl
  registered p key e present := by
    rcases p with _ | p <;> cases present
  filed e entry found := by cases found

theorem fewer (filed : ps.Filed opened) (count : ps'.connections.length = ps.connections.length)
    (entries : ps'.entries = ps.entries)
    (pools : ∀ p, (ps'.pool p).entries ⊆ (ps.pool p).entries) : ps'.Filed opened where
  count := filed.count.trans count.symm
  registered p key e present := by
    rw [specOf?,entries]
    exact filed.registered p key e (pools p present)
  filed := by
    rw [entries]
    exact filed.filed

theorem setEntry (filed : ps.Filed opened) (found : ps.entries[e]? = some entry)
    (spec : entry'.spec = entry.spec)
    (slots : ∀ slot ∈ entry'.slots, slot.connection ∈ entry.slots.map Slot.connection) :
    (ps.setEntry e entry').Filed opened where
  count := filed.count
  registered p key e' present := by
    rw [specOf_setEntry found spec]
    exact filed.registered p key e' present
  filed e' entry'' found' slot member := by
    rw [Pools.setEntry,List.getElem?_set] at found'
    split at found'
    · split at found'
      · cases found'
        obtain ⟨old,member',same⟩ := List.mem_map.mp (slots slot member)
        rw [spec,← same]
        exact filed.filed e entry found old member'
      · cases found'
    · exact filed.filed e' entry'' found' slot member

end Filed

structure Stays (opened : List Spec) (ps ps' : Pools δ η) : Prop where
  filed : ps'.Filed opened
  connections : ps'.connections = ps.connections
  shared : ps'.shared = ps.shared
  specs : ∀ e, ps'.specOf? e = ps.specOf? e

theorem Filed.stays (filed : ps.Filed opened) : Stays opened ps ps := ⟨filed,rfl,rfl,fun _ => rfl⟩

theorem Filed.changed (filed : ps.Filed opened) (found : ps.entries[e]? = some entry)
    {test : Slot → Bool} {change : Slot → Except Error Slot} {first : Option Nat} {slots : List Slot}
    (keeps : ∀ slot changed, change slot = .ok changed → changed.connection = slot.connection)
    (ran : Entry.changeFirst test change entry.slots = .ok (first,slots)) :
    Stays opened ps (ps.setEntry e {entry with slots := slots}) ∧
      ∀ c, first = some c → opened[c]? = some entry.spec := by
  obtain ⟨connections,inside⟩ := Entry.changeFirst_connections keeps ran
  have stays : (ps.setEntry e {entry with slots := slots}).Filed opened := by
    refine filed.setEntry found rfl fun slot member => ?_
    rw [← connections]
    exact List.mem_map_of_mem member
  refine ⟨⟨stays,rfl,rfl,specOf_setEntry found rfl⟩,fun c here => ?_⟩
  obtain ⟨slot,member,rfl⟩ := List.mem_map.mp (inside c here)
  exact filed.filed e entry found slot member

theorem Filed.takeIdle (filed : ps.Filed opened) (e : Nat) :
    Stays opened ps ((takeIdle e).runFrom ps).2 ∧
      ∀ c, ((takeIdle e).runFrom ps).1 = .ok (some c) → opened[c]? = ps.specOf? e := by
  cases found : ps.entries[e]? with
  | none =>
    have left : (Pools.takeIdle e).runFrom ps = (.ok none,ps) := by
      simp only [Pools.takeIdle,Step.runFrom,ExceptT.run,found]
    rw [left]
    exact ⟨filed.stays,fun c none => by cases none⟩
  | some entry =>
    cases ran : Entry.changeFirst Slot.isIdle (Slot.setInUse ps.clock) entry.slots with
    | error cause =>
      have left : (Pools.takeIdle e).runFrom ps = (.error cause,ps) := by
        simp only [Pools.takeIdle,Step.runFrom,ExceptT.run,found,Entry.takeIdle,ran]
        rfl
      rw [left]
      exact ⟨filed.stays,fun c none => by cases none⟩
    | ok result =>
      obtain ⟨stays,inside⟩ := filed.changed found (fun _ _ => Slot.setInUse_connection) ran
      rw [takeIdle_runFrom found ran,specOf?,found]
      exact ⟨stays,fun c same => inside c (Except.ok.inj same)⟩

theorem Filed.finished (filed : ps.Filed opened) (e id : Nat) :
    Stays opened ps ((finished e id).runFrom ps).2 := by
  cases found : ps.entries[e]? with
  | none =>
    have left : (Pools.finished e id).runFrom ps = (.ok false,ps) := by
      simp only [Pools.finished,Step.runFrom,ExceptT.run,found]
    rw [left]
    exact filed.stays
  | some entry =>
    cases ran : Entry.changeFirst (fun slot => slot.id = id) Slot.setIdle entry.slots with
    | error cause =>
      have left : (Pools.finished e id).runFrom ps = (.error cause,ps) := by
        simp only [Pools.finished,Step.runFrom,ExceptT.run,found,Entry.finished,ran]
        rfl
      rw [left]
      exact filed.stays
    | ok result =>
      rw [finished_runFrom found ran]
      exact (filed.changed found (fun _ _ => Slot.setIdle_connection) ran).1

theorem specOf_concat {spec' : Spec} (known : ps.specOf? e = some spec')
    (entries : ps'.entries = ps.entries ++ [entry]) : ps'.specOf? e = some spec' := by
  obtain ⟨entry',found,same⟩ := Option.map_eq_some_iff.mp known
  rw [specOf?,entries,getElem?_concat.mpr (.inl found),Option.map_some,same]

theorem specOf_enrolled (p : Nat) (spec : Spec) :
    (ps.enrolled p spec).specOf? ps.entries.length = some spec := by
  rw [specOf?,show (ps.enrolled p spec).entries = ps.entries ++ [Entry.new spec] from rfl,
    List.getElem?_concat_length]
  rfl

theorem Filed.enrolled (filed : ps.Filed opened) (p : Nat) (spec : Spec) :
    (ps.enrolled p spec).Filed opened where
  count := filed.count
  registered q key e present := by
    have old : ∀ {q}, (key,e) ∈ (ps.pool q).entries →
        ∃ spec', (ps.enrolled p spec).specOf? e = some spec' ∧ spec'.key = key := by
      intro q earlier
      obtain ⟨spec',known,same⟩ := filed.registered q key e earlier
      exact ⟨spec',specOf_concat known rfl,same⟩
    rcases mem_entries_setPool present with ⟨_,new⟩ | earlier
    · rcases List.mem_append.mp new with earlier | last
      · exact old earlier
      · cases List.mem_singleton.mp last
        exact ⟨spec,specOf_enrolled p spec,rfl⟩
    · exact old earlier
  filed e entry found slot member := by
    rcases getElem?_concat.mp found with earlier | ⟨_,rfl⟩
    · exact filed.filed e entry earlier slot member
    · cases member

theorem Filed.entryFor (filed : ps.Filed opened) (p : Nat) (spec : Spec) :
    ∃ e ps', ps.entryFor p spec = (e,ps') ∧ ps'.Filed opened ∧ ps'.connections = ps.connections ∧
      ps'.shared = ps.shared ∧ ps'.specOf? e = some spec := by
  cases registered : (ps.pool p).entryOf? spec.key with
  | some e =>
    obtain ⟨spec',known,same⟩ := filed.registered p spec.key e (mem_of_lookup registered)
    rw [Spec.key_inj] at same
    rw [same] at known
    exact ⟨e,ps,by simp only [Pools.entryFor,registered],filed,rfl,rfl,known⟩
  | none =>
    have entered : ps.entryFor p spec = (ps.entries.length,ps.enrolled p spec) := by
      simp only [Pools.entryFor,registered]
      rfl
    exact ⟨_,_,entered,filed.enrolled p spec,rfl,rfl,specOf_enrolled p spec⟩

theorem Filed.numbered (filed : ps.Filed opened) (p : Nat) (found : ps.entries[e]? = some entry)
    {slot : Slot} (last : slot.connection = ps.connections.length) (shared : δ)
    (connection : Connection η) :
    ((ps.numbered p slot.id shared connection).setEntry e (entry.push slot)).Filed
      (opened ++ [entry.spec]) := by
  have found' : (ps.numbered p slot.id shared connection).entries[e]? = some entry := found
  constructor
  case count =>
    change (opened ++ [entry.spec]).length = (ps.connections ++ [connection]).length
    rw [List.length_append,List.length_append,filed.count]
    rfl
  case registered =>
    intro q key e' present
    rw [specOf_setEntry found' (show (entry.push slot).spec = entry.spec from rfl)]
    rcases mem_entries_setPool present with ⟨_,earlier⟩ | earlier
    · exact filed.registered p key e' earlier
    · exact filed.registered q key e' earlier
  case filed =>
    intro e' entry' present slot' member
    change (ps.entries.set e _)[e']? = some entry' at present
    rw [List.getElem?_set] at present
    split at present
    · rename_i here
      split at present
      · cases present
        rcases List.mem_append.mp member with earlier | new
        · exact getElem?_concat.mpr (.inl (filed.filed e entry found slot' earlier))
        · cases List.mem_singleton.mp new
          exact getElem?_concat.mpr (.inr ⟨last.trans filed.count.symm,rfl⟩)
      · cases present
    · exact getElem?_concat.mpr (.inl (filed.filed e' entry' present slot' member))

inductive HandsOut (opener : Opener δ η) (ps : Pools δ η) (opened : List Spec) (spec : Spec) :
    Except Error Nat × Pools δ η → Prop where
  | earlier {outcome : Except Error Nat} {ps' : Pools δ η} : ps'.Filed opened →
      ps'.connections = ps.connections → (∀ c, outcome = .ok c → opened[c]? = some spec) →
      HandsOut opener ps opened spec (outcome,ps')
  | now {ps' : Pools δ η} {handle : η} {shared : δ} (session : Session) :
      opener.openAt spec ps.shared = .ok (handle,shared) →
      ps'.connections = ps.connections ++ [⟨session,handle⟩] → ps'.Filed (opened ++ [spec]) →
      HandsOut opener ps opened spec (.ok ps.connections.length,ps')

theorem HandsOut.before {result : Except Error Nat × Pools δ η}
    (handed : HandsOut opener ps' opened spec result)
    (connections : ps'.connections = ps.connections) (shared : ps'.shared = ps.shared) :
    HandsOut opener ps opened spec result := by
  cases handed with
  | earlier filed same told => exact .earlier filed (same.trans connections) told
  | now session reached grown filed =>
    rw [connections] at grown ⊢
    rw [shared] at reached
    exact .now session reached grown filed

theorem Filed.openNew (filed : ps.Filed opened) (opener : Opener δ η) (p : Nat)
    (known : ps.specOf? e = some spec) :
    HandsOut opener ps opened spec ((openNew opener p spec e).runFrom ps) := by
  obtain ⟨entry,found,same⟩ := Option.map_eq_some_iff.mp known
  rcases openNew_outcomes opener p spec e ps with ⟨cause,ran⟩ | ⟨cause,handle,shared,_,ran⟩ |
      ⟨handle,shared,reached,ran⟩ <;> rw [ran]
  · exact .earlier filed rfl fun c none => by cases none
  · refine .earlier ?_ rfl fun c none => by cases none
    exact filed.fewer rfl rfl fun _ => List.Subset.refl _
  · let connection : Connection η := ⟨Session.new (ps.newSlot p).id spec.key,handle⟩
    have last : (ps.newSlot p).connection = ps.connections.length := rfl
    have opens := filed.numbered p found last shared connection
    rw [same] at opens
    rw [(ps.numbered p (ps.newSlot p).id shared connection).tracking_eq found]
    exact .now _ reached rfl opens

theorem Filed.checkout (filed : ps.Filed opened) (opener : Opener δ η) (p : Nat) (spec : Spec) :
    HandsOut opener ps opened spec ((checkout opener p spec).runFrom ps) := by
  obtain ⟨e,ps1,entered,filed1,connections1,shared1,known⟩ := filed.entryFor p spec
  obtain ⟨stays,inside⟩ := filed1.takeIdle e
  have start : (Pools.checkout opener p spec).runFrom ps = match (Pools.takeIdle e).runFrom ps1 with
      | (.ok (some c),ps2) => (.ok c,ps2)
      | (.ok none,ps2) => (Pools.openNew opener p spec e).runFrom ps2
      | (.error cause,ps2) => (.error cause,ps2) := by
    simp only [Pools.checkout,Step.runFrom_bind,Step.runFrom_get,Step.runFrom_set,entered]
    rcases (Pools.takeIdle e).runFrom ps1 with ⟨cause | (_ | c),ps2⟩ <;> rfl
  rw [start]
  generalize (Pools.takeIdle e).runFrom ps1 = taken at stays inside
  obtain ⟨outcome,ps2⟩ := taken
  have connections : ps2.connections = ps.connections := stays.connections.trans connections1
  rcases outcome with cause | (_ | c)
  · exact .earlier stays.filed connections fun c none => by cases none
  · have opens := stays.filed.openNew opener p ((stays.specs e).trans known)
    exact opens.before connections (stays.shared.trans shared1)
  · refine .earlier stays.filed connections fun c' same => ?_
    cases same
    rw [inside c rfl,known]

section

variable (filed : ps.Filed opened)

include filed

theorem Filed.close (c : Nat) : (ps.close c).Filed opened :=
  filed.fewer (List.length_modify _ _ _) rfl fun _ => List.Subset.refl _

theorem Filed.closeAll (slots : List Slot) :
    (slots.foldl (fun ps slot => ps.close slot.connection) ps).Filed opened := by
  induction slots generalizing ps with
  | nil => exact filed
  | cons slot rest ih => exact ih (filed.close slot.connection)

theorem Filed.sweep (limit : Option Nat) (es : List Nat) : (ps.sweep limit es).2.Filed opened := by
  induction es generalizing ps with
  | nil => exact filed
  | cons e rest ih =>
    rw [Pools.sweep]
    cases found : ps.entries[e]? with
    | none => exact ih filed
    | some entry =>
      have drained : (ps.setEntry e (entry.drain limit).2).Filed opened :=
        filed.setEntry found rfl fun slot member =>
          List.mem_map_of_mem (List.mem_of_mem_filter member)
      exact ih (drained.closeAll (entry.drain limit).1)

theorem Filed.giveBack (p : Nat) (session : Session) : (ps.giveBack p session).2.Filed opened := by
  unfold Pools.giveBack
  cases (ps.pool p).entryOf? session.key with
  | none => exact filed
  | some e =>
    have left := (filed.finished e session.id).filed
    dsimp only
    generalize (Pools.finished e session.id).runFrom ps = given at left
    rcases given with ⟨cause | found,ps'⟩ <;> exact left

theorem Filed.checkin (p c : Nat) : (ps.checkin p c).2.Filed opened := by
  unfold Pools.checkin
  cases ps.session? c with
  | none => exact filed
  | some session =>
    have left := filed.giveBack p session
    dsimp only
    split
    · exact left
    · exact left.close c

theorem Filed.addPool (options : PoolOptions) : (ps.addPool options).2.Filed opened :=
  filed.fewer rfl rfl fun q => by
    rw [(pool_addPool options ps q).1]
    exact List.Subset.refl _

theorem Filed.reclaimIdle (p : Nat) (scope : ReclaimScope) :
    (ps.reclaimIdle p scope).2.Filed opened := by
  have forgotten : (ps.forgotten p scope).Filed opened := by
    refine filed.fewer rfl rfl fun q entry present => ?_
    rcases mem_entries_setPool present with ⟨rfl,kept⟩ | same
    · exact List.mem_of_mem_filter kept
    · exact same
  rw [reclaimIdle_eq]
  exact forgotten.sweep none _

theorem Filed.locked (c : Nat) (action : Action (Locked (δ × η)) Unit) :
    ((locked c action).runFrom ps).2.Filed opened := by
  simp only [Pools.locked,Action.runFrom,ExceptT.run]
  split
  · exact filed
  · split
    · exact filed
    · exact filed.fewer List.length_set rfl fun _ => List.Subset.refl _

end

theorem not_opens {deed : Deed δ η} (filed : ps.Filed opened)
    (left : (ps.after opener deed).Filed opened) (spec : Spec) : ¬ ps.Opens opener deed spec := by
  rintro ⟨p,handle,shared,session,_,_,grown⟩
  have count := left.count
  rw [grown,List.length_append,filed.count] at count
  exact absurd count (Nat.ne_of_lt (Nat.lt_succ_self _))

theorem Filed.checkout_opens (filed : ps.Filed opened) (opener : Opener δ η) (p : Nat) (spec : Spec) :
    ((ps.after opener (.checkout p spec)).Filed opened ∧
      (∀ s, ¬ ps.Opens opener (.checkout p spec) s) ∧
      ∀ c, ((Pools.checkout opener p spec).runFrom ps).1 = .ok c → opened[c]? = some spec) ∨
    ((ps.after opener (.checkout p spec)).Filed (opened ++ [spec]) ∧
      (∀ s, ps.Opens opener (.checkout p spec) s ↔ s = spec) ∧
      ((Pools.checkout opener p spec).runFrom ps).1 = .ok ps.connections.length) := by
  have handed := filed.checkout opener p spec
  have left : ps.after opener (.checkout p spec) = ((Pools.checkout opener p spec).runFrom ps).2 := rfl
  generalize (Pools.checkout opener p spec).runFrom ps = result at handed left
  cases handed with
  | @earlier outcome ps' filed' same told =>
    obtain rfl : ps.after opener (.checkout p spec) = ps' := left
    exact .inl ⟨filed',not_opens filed filed',told⟩
  | @now ps' handle shared session reached grown filed' =>
    obtain rfl : ps.after opener (.checkout p spec) = ps' := left
    refine .inr ⟨filed',fun s => ⟨?_,?_⟩,rfl⟩
    · rintro ⟨_,_,_,_,asked,_⟩
      cases asked
      rfl
    · rintro rfl
      exact ⟨p,handle,shared,session,rfl,reached,grown⟩

theorem Filed.after (filed : ps.Filed opened) (opener : Opener δ η) (deed : Deed δ η) :
    ((ps.after opener deed).Filed opened ∧ ∀ s, ¬ ps.Opens opener deed s) ∨
      ∃ spec, (ps.after opener deed).Filed (opened ++ [spec]) ∧
        ∀ s, ps.Opens opener deed s ↔ s = spec := by
  suffices still : (ps.after opener deed).Filed opened ∨ ∃ spec,
      (ps.after opener deed).Filed (opened ++ [spec]) ∧ ∀ s, ps.Opens opener deed s ↔ s = spec from
    still.imp_left fun left => ⟨left,not_opens filed left⟩
  cases deed with
  | checkout p spec =>
    obtain ⟨left,_⟩ | ⟨left,opens,_⟩ := filed.checkout_opens opener p spec
    · exact .inl left
    · exact .inr ⟨spec,left,opens⟩
  | takeIdle e => exact .inl (filed.takeIdle e).1.filed
  | finished e id => exact .inl (filed.finished e id).filed
  | checkin p c => exact .inl (filed.checkin p c)
  | close c => exact .inl (filed.close c)
  | reclaimIdle p scope => exact .inl (filed.reclaimIdle p scope)
  | reclaimExpired p => exact .inl (filed.sweep _ _)
  | addPool options => exact .inl (filed.addPool options)
  | resetCurrent => exact .inl ((filed.addPool .default).fewer rfl rfl fun _ => List.Subset.refl _)
  | elapse time => exact .inl (filed.fewer rfl rfl fun _ => List.Subset.refl _)
  | locked c action => exact .inl (filed.locked c action)

theorem afterAll_concat (opener : Opener δ η) (ps : Pools δ η) (deeds : List (Deed δ η))
    (deed : Deed δ η) : ps.afterAll opener (deeds ++ [deed]) = (ps.afterAll opener deeds).after opener deed :=
  List.foldl_concat _ _ _ _

theorem openedWith_concat {deeds : List (Deed δ η)} {deed : Deed δ η} :
    ps.OpenedWith opener (deeds ++ [deed]) c spec ↔ ps.OpenedWith opener deeds c spec ∨
      (ps.afterAll opener deeds).connections.length = c ∧
        (ps.afterAll opener deeds).Opens opener deed spec := by
  constructor
  · rintro ⟨earlier,deed',later,split,place,opens⟩
    rcases List.eq_nil_or_concat later with rfl | ⟨later,last,rfl⟩
    · obtain ⟨rfl,same⟩ := List.append_inj' split rfl
      cases same
      exact .inr ⟨place,opens⟩
    · rw [List.concat_eq_append,← List.cons_append,← List.append_assoc] at split
      exact .inl ⟨earlier,deed',later,(List.append_inj' split rfl).1,place,opens⟩
  · rintro (⟨earlier,deed',later,rfl,place,opens⟩ | ⟨place,opens⟩)
    · exact ⟨earlier,deed',later ++ [deed],by simp,place,opens⟩
    · exact ⟨deeds,deed,[],rfl,place,opens⟩

theorem filed_run (opener : Opener δ η) (shared : δ) (deeds : List (Deed δ η)) :
    ∃ opened, ((Pools.start shared).afterAll opener deeds).Filed opened ∧
      ∀ c spec, (Pools.start shared).OpenedWith opener deeds c spec ↔ opened[c]? = some spec := by
  induction deeds using List.reverseRecOn with
  | nil =>
    refine ⟨[],.start shared,fun c spec => iff_of_false ?_ ?_⟩
    · rintro ⟨earlier,deed,later,split,_⟩
      exact absurd split (by simp)
    · simp
  | append_singleton deeds deed ih =>
    obtain ⟨opened,filed,told⟩ := ih
    simp only [openedWith_concat,told,afterAll_concat]
    rcases filed.after opener deed with ⟨left,closed⟩ | ⟨spec,left,opens⟩
    · refine ⟨opened,left,fun c s => ?_⟩
      simp [closed]
    · refine ⟨opened ++ [spec],left,fun c s => ?_⟩
      rw [getElem?_concat,opens,filed.count,@eq_comm _ c]

end

-- Equal keys are of equal specs, whatever is in their paths. So after anything that has been done
-- with the pools, what a hand-out returns was opened with the spec asked for and with no other.
theorem handed_out_as_opened (opener : Opener δ η) (shared : δ) :
    (∀ s s' : Spec, s.key = s'.key ↔
      s.path = s'.path ∧ s.bits = s'.bits ∧ s.explicit = s'.explicit) ∧
    ∀ deeds p spec c,
      ((checkout opener p spec).runFrom ((Pools.start shared).afterAll opener deeds)).1 = .ok c →
      ∀ s, (Pools.start shared).OpenedWith opener (deeds ++ [.checkout p spec]) c s ↔ s = spec := by
  refine ⟨fun s s' => ?_,fun deeds p spec c handed s => ?_⟩
  · rw [Spec.key_inj]
    cases s
    cases s'
    exact Spec.mk.injEq .. ▸ Iff.rfl
  obtain ⟨opened,filed,told⟩ := filed_run opener shared deeds
  rw [openedWith_concat,told]
  rcases filed.checkout_opens opener p spec with ⟨_,closed,earlier⟩ | ⟨_,opens,now⟩
  · rw [earlier c handed]
    simp [closed,eq_comm]
  · rw [now] at handed
    cases handed
    rw [← filed.count,List.getElem?_length,opens]
    simp

-- The keys are `6|false|true|x` and `6|true|x`. Both connections wait, the first one again after a
-- user of its entry had taken it.
def barred : List (Deed Unit Unit) :=
  [.checkout 0 (.new "true|x"),.checkin 0 0,.checkout 0 (.withFlags "x" 6),.checkin 0 1,
    .takeIdle 0,.finished 0 1]

theorem handed_out_as_opened_barred :
    ((checkout anyOpener 0 (.new "true|x")).runFrom
      ((Pools.start ()).afterAll anyOpener barred)).1 = .ok 0 ∧
    (Pools.start ()).OpenedWith anyOpener (barred ++ [.checkout 0 (.new "true|x")]) 0
      (.new "true|x") ∧
    ¬ (Pools.start ()).OpenedWith anyOpener (barred ++ [.checkout 0 (.new "true|x")]) 0
      (.withFlags "x" 6) := by
  have handed : ((checkout anyOpener 0 (.new "true|x")).runFrom
      ((Pools.start ()).afterAll anyOpener barred)).1 = .ok 0 := by rfl
  have opened := (handed_out_as_opened anyOpener ()).2 barred 0 (.new "true|x") 0 handed
  exact ⟨handed,(opened _).mpr rfl,fun other => absurd ((opened _).mp other) (by decide)⟩

end Pools

end TypedRows
