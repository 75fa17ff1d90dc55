import TypedRows.Proofs.Pool.HandOut

namespace TypedRows

-- What reclaiming does, and that nothing that was reclaimed comes back.

namespace Pools

variable {δ η : Type} {ps : Pools δ η} {p c : Nat} {limit : Option Nat} {origins : List Nat}

def sweptOf (limit : Option Nat) (ps : Pools δ η) (e : Nat) : List Slot :=
  ((ps.entries[e]?).map fun entry => (entry.drain limit).1).getD []

theorem mem_sweptOf {e : Nat} {slot : Slot} : slot ∈ ps.sweptOf limit e ↔
    ∃ entry, ps.entries[e]? = some entry ∧ slot ∈ entry.slots ∧ slot.isSwept limit = true := by
  unfold sweptOf
  cases ps.entries[e]? <;> simp [Entry.drain]

theorem mem_swept {es : List Nat} :
    c ∈ (es.flatMap (ps.sweptOf limit)).map Slot.connection ↔ InEntries limit es ps c := by
  simp only [List.mem_map,List.mem_flatMap,mem_sweptOf,InEntries]
  constructor
  · rintro ⟨slot,⟨e,present,entry,found,member,swept⟩,same⟩
    exact ⟨e,present,entry,found,slot,member,swept,same⟩
  · rintro ⟨e,present,entry,found,slot,member,swept,same⟩
    exact ⟨slot,⟨e,present,entry,found,member,swept⟩,same⟩

theorem sweep_count {es : List Nat} (distinct : es.Nodup) (ps : Pools δ η) :
    (ps.sweep limit es).1 = (es.flatMap (ps.sweptOf limit)).length := by
  induction es generalizing ps with
  | nil => rfl
  | cons e rest ih =>
    obtain ⟨unseen,distinct⟩ := List.nodup_cons.mp distinct
    rw [sweep,List.flatMap_cons,List.length_append]
    cases found : ps.entries[e]? with
    | none => simp [ih distinct,sweptOf,found]
    | some entry =>
      let ps1 := (entry.drain limit).1.foldl (fun ps slot => ps.close slot.connection)
        (ps.setEntry e (entry.drain limit).2)
      -- The entries behind this one are still to be swept.
      have others : ∀ e' ∈ rest, ps1.sweptOf limit e' = ps.sweptOf limit e' := by
        intro e' later
        have differs : e ≠ e' := by
          rintro rfl
          exact unseen later
        have entries := (closeAll_kept (entry.drain limit).1 (ps.setEntry e (entry.drain limit).2)).1
        rw [sweptOf,sweptOf,show ps1.entries = ps.entries.set e _ from entries,
          List.getElem?_set_ne differs]
      have first : ps.sweptOf limit e = (entry.drain limit).1 := by simp [sweptOf,found]
      rw [first,← List.flatMap_congr others,← ih distinct ps1]

theorem nodup_keyed (registry : ps.Registry) (chosen : String → Bool) : (ps.keyed p chosen).Nodup := by
  have entries : (ps.pool p).entries.Nodup := .of_map _ (registry.keys p)
  refine List.Nodup.map_on ?_ (entries.filter _)
  rintro ⟨key,e⟩ present ⟨key',e'⟩ present' rfl
  have registered := (mem_entries_iff registry).mp (List.mem_of_mem_filter present)
  have registered' := (mem_entries_iff registry).mp (List.mem_of_mem_filter present')
  rw [(registry.once registered registered').2]

theorem sweptOf_registered {key : String} {e : Nat} (registered : (ps.pool p).entryOf? key = some e) :
    ps.sweptOf limit e = (ps.slotsOf p key).filter (Slot.isSwept limit) := by
  unfold sweptOf slotsOf
  rw [registered,Option.bind_some]
  cases ps.entries[e]? <;> rfl

theorem nodup_swept (registry : ps.Registry) (sound : Sound ps.view origins) (chosen : String → Bool)
    (limit : Option Nat) :
    (((ps.keyed p chosen).flatMap (ps.sweptOf limit)).map Slot.connection).Nodup := by
  have keys : ∀ e ∈ ps.keyed p chosen, ∃ key, (ps.pool p).entryOf? key = some e := by
    intro e present
    obtain ⟨⟨key,e⟩,member,rfl⟩ := List.mem_map.mp present
    exact ⟨key,(mem_entries_iff registry).mp (List.mem_of_mem_filter member)⟩
  rw [List.map_flatMap,List.nodup_flatMap]
  constructor
  · intro e present
    obtain ⟨key,registered⟩ := keys e present
    rw [sweptOf_registered registered]
    exact (sound.distinct p key).sublist (List.filter_sublist.map Slot.connection)
  · refine (nodup_keyed registry chosen).pairwise_of_forall_ne fun e present e' present' differs => ?_
    obtain ⟨key,registered⟩ := keys e present
    obtain ⟨key',registered'⟩ := keys e' present'
    dsimp only [Function.onFun]
    rw [sweptOf_registered registered,sweptOf_registered registered']
    intro c member member'
    obtain ⟨slot,inside,rfl⟩ := List.mem_map.mp member
    obtain ⟨slot',inside',same⟩ := List.mem_map.mp member'
    obtain ⟨_,rfl,_⟩ := sound.place (List.mem_of_mem_filter inside) (List.mem_of_mem_filter inside')
      same.symm
    exact differs (Option.some.inj (registered.symm.trans registered'))

def IdleIn (p : Nat) (scope : ReclaimScope) (ps : Pools δ η) (c : Nat) : Prop :=
  ∃ key, isScoped scope key = true ∧
    ∃ slot ∈ ps.slotsOf p key, slot.state = .idle ∧ slot.connection = c

-- Reclaiming closes what is idle in scope and nothing else, counts it, forgets the entries in
-- scope, and leaves all others as they are.
structure Reclaimed (p : Nat) (scope : ReclaimScope) (ps : Pools δ η) (count : Nat)
    (ps' : Pools δ η) : Prop where
  closed : Closes (ps.IdleIn p scope) ps.view.badges ps'.view.badges
  wereOpen : ∀ c, ps.IdleIn p scope c → ∃ session, ps.session? c = some session ∧
    session.closed = false
  counted : ∃ gone : List Nat, gone.Nodup ∧ gone.length = count ∧ ∀ c, c ∈ gone ↔ ps.IdleIn p scope c
  forgets : ∀ key, isScoped scope key = true → (ps'.pool p).entryOf? key = none
  others : ∀ q key, ¬ (q = p ∧ isScoped scope key = true) →
    (ps'.pool q).entryOf? key = (ps.pool q).entryOf? key ∧
    ∀ e, (ps.pool q).entryOf? key = some e → ps'.entries[e]? = ps.entries[e]?

theorem reclaimed (registry : ps.Registry) (sound : Sound ps.view origins) (live : ps.view.Live)
    (present : p < ps.pools.length) (scope : ReclaimScope) :
    ps.Reclaimed p scope (ps.reclaimIdle p scope).1 (ps.reclaimIdle p scope).2 := by
  have idle : ∀ c, InEntries none (ps.keyed p (isScoped scope)) ps c ↔ ps.IdleIn p scope c := by
    intro c
    simp only [inEntries_keyed registry,isSwept_none,IdleIn]
  obtain ⟨_,entries,closes⟩ := sweep_cases none (ps.keyed p (isScoped scope)) (ps.forgotten p scope)
  rw [reclaimIdle_eq]
  constructor
  case closed => exact closes.congr idle
  case wereOpen =>
    rintro c ⟨key,_,slot,member,_,rfl⟩
    obtain ⟨session,known,_,_,isOpen⟩ := session_of_slot sound live member
    exact ⟨session,known,isOpen⟩
  case counted =>
    have once := nodup_swept (p := p) registry sound (isScoped scope) none
    refine ⟨_,once,?_,fun c => ?_⟩
    · rw [List.length_map,sweep_count (nodup_keyed registry _)]
      rfl
    · rw [← idle,mem_swept]
  case forgets =>
    intro key chosen
    rw [pool_sweep,entryOf_forgotten present,if_pos ⟨rfl,chosen⟩]
  case others =>
    intro q key outside
    refine ⟨by rw [pool_sweep,entryOf_forgotten present,if_neg outside],fun e registered => ?_⟩
    rw [entries,if_neg fun inside => outside ((mem_keyed_iff registry registered).mp inside)]
    rfl

end Pools

def Operation.returns {δ η κ : Type} (c : Nat) : Operation δ η κ → Prop
  | .checkin _ _ c' => c' = c
  | _ => False

-- Sweeps close tracked connections only, so what is gone stays as it is until it comes back.
theorem Turn.badge_kept {δ η κ : Type} [DecidableEq κ] {b b' : Books κ} {op : Operation δ η κ}
    {c : Nat} (turn : Turn b op b') (gone : b.view.Gone c) (out : ¬ op.returns c) :
    b'.view.badges[c]? = b.view.badges[c]? := by
  cases turn with
  | still _ => rfl
  | absent _ => rfl
  | reused expiresAt split _ => rfl
  | opened _ connection _ => exact List.getElem?_append_left gone.1
  | swept _ swept =>
    apply (swept.badges c).2
    intro inside
    obtain ⟨key,slot,member,_,_,same⟩ := inside
    exact gone.2 ⟨_,key,slot,member,same⟩
  | checkin done =>
    cases done with
    | unknown _ => rfl
    | returned _ split _ => rfl
    | orphaned _ _ =>
      apply badges_close_of_ne
      intro same
      exact out same.symm

theorem Turn.badge_inUse {δ η κ : Type} [DecidableEq κ] {b b' : Books κ} {op : Operation δ η κ}
    {p : Nat} {key : String} {slot : Slot} (turn : Turn b op b') (sound : Sound b.view b.origins)
    (other : op.isCheckin = false) (member : slot ∈ b.view.slots p key) (inUse : slot.state = .inUse) :
    b'.view.badges[slot.connection]? = b.view.badges[slot.connection]? := by
  cases turn with
  | still _ => rfl
  | absent _ => cases other
  | checkin _ => cases other
  | reused expiresAt split _ => rfl
  | opened _ connection _ => exact List.getElem?_append_left (sound.connection_lt member)
  | swept _ swept =>
    apply (swept.badges slot.connection).2
    intro inside
    obtain ⟨key',slot',member',_,idle,same⟩ := inside
    obtain ⟨_,_,rfl⟩ := sound.place member member' same.symm
    rw [inUse] at idle
    cases idle

theorem Turn.origin {δ η κ : Type} [DecidableEq κ] {b b' : Books κ} {op : Operation δ η κ} {c p : Nat}
    (turn : Turn b op b') (home : b.origins[c]? = some p) : b'.origins[c]? = some p := by
  cases turn with
  | opened _ _ _ => exact getElem?_concat.mpr (.inl home)
  | _ => exact home

namespace Usage

variable {δ η κ : Type} {u : Usage δ η κ} {p c : Nat}

def Drops (u : Usage δ η κ) (p c : Nat) : Operation δ η κ → Prop
  | .reclaimIdle q scope => q = p ∧ ∃ key, Pools.isScoped scope key = true ∧
      ∃ slot ∈ u.pools.slotsOf p key, slot.connection = c
  | .reclaimExpired q => q = p ∧ ∃ key, ∃ slot ∈ u.pools.slotsOf p key,
      slot.isSwept (some u.pools.clock) = true ∧ slot.connection = c
  | _ => False

theorem Drops.isCheckin {op : Operation δ η κ} (drops : u.Drops p c op) : op.isCheckin = false := by
  cases op with
  | checkin _ _ _ => exact drops.elim
  | _ => rfl

variable [DecidableEq κ]

theorem run_badge (opener : Opener δ η) (ordered : u.Ordered) (gone : u.pools.view.Gone c)
    (ops : List (Operation δ η κ)) (out : ∀ op ∈ ops, ¬ op.returns c) :
    (u.run opener ops).pools.view.badges[c]? = u.pools.view.badges[c]? := by
  induction ops generalizing u with
  | nil => rfl
  | cons op rest ih =>
    obtain ⟨first,later⟩ := List.forall_mem_cons.mp out
    have turn := (step_turn opener ordered op).2
    have kept := turn.badge_kept gone first
    rw [← show _ = u.pools.view.badges[c]? from kept]
    exact ih (step_ordered opener ordered op) (turn.gone gone) later

theorem run_origin (opener : Opener δ η) (ordered : u.Ordered) (ops : List (Operation δ η κ))
    (home : u.origins[c]? = some p) : (u.run opener ops).origins[c]? = some p := by
  induction ops generalizing u with
  | nil => exact home
  | cons op rest ih =>
    have turn := (step_turn opener ordered op).2
    exact ih (step_ordered opener ordered op) (turn.origin home)

theorem Drops.gone {op : Operation δ η κ} (drops : u.Drops p c op) (opener : Opener δ η)
    (ordered : u.Ordered) : (u.step opener op).pools.view.Gone c ∧ u.origins[c]? = some p := by
  cases op with
  | reclaimIdle q scope =>
    obtain ⟨rfl,key,chosen,slot,member,rfl⟩ := drops
    have present := Pools.present_of_slot member
    obtain ⟨_,_,swept⟩ := Pools.reclaimIdle_cases ordered.registry present scope
    rw [step,if_pos present]
    exact ⟨.of_swept ordered.sound swept member (by rw [chosen]; rfl),
      ordered.sound.owned q key slot member⟩
  | reclaimExpired q =>
    obtain ⟨rfl,key,slot,member,goes,rfl⟩ := drops
    obtain ⟨_,_,swept⟩ := Pools.reclaimExpired_cases (p := q) ordered.registry
    exact ⟨.of_swept ordered.sound swept member (by rw [goes]; rfl),
      ordered.sound.owned q key slot member⟩
  | _ => exact drops.elim

end Usage

-- What the return of a connection that no pool tracks does: it is closed, and that is all.
structure Pools.Orphaned {δ η : Type} (c : Nat) (ps : Pools δ η) (outcome : CheckinOutcome)
    (ps' : Pools δ η) : Prop where
  outcome : outcome = .closedOrphan
  closed : ∃ session, ps'.session? c = some session ∧ session.closed = true
  slots : ∀ q key, ps'.slotsOf q key = ps.slotsOf q key
  others : ∀ d, d ≠ c → ps'.view.badges[d]? = ps.view.badges[d]?

section Runs

variable {δ η κ : Type} {u : Usage δ η κ} {p c : Nat}

theorem Usage.Ordered.orphaned (ordered : u.Ordered) (home : u.origins[c]? = some p)
    (gone : u.pools.view.Gone c) :
    u.pools.Orphaned c (u.pools.checkin p c).1 (u.pools.checkin p c).2 := by
  obtain ⟨outcome,ps,ran,_,_,done⟩ := Pools.checkin_cases ordered.registry (ordered.sound.opens p) c
  have misses := misses_of_gone ordered.sound home gone
  rw [ran]
  generalize view : ps.view = v at done
  cases done with
  | unknown absent => exact absurd gone.1 (Nat.not_lt.mpr (List.getElem?_eq_none_iff.mp absent))
  | returned known split number =>
    exact absurd number (misses _ known _ (by rw [split]; simp))
  | @orphaned badge known _ =>
    have shut : ps.view.badges[c]? = some badge.shut := by
      rw [view]
      exact badges_close known
    obtain ⟨session,found,same⟩ := Pools.session_of_badge shut
    exact {
      outcome := rfl
      closed := ⟨session,found,congrArg Badge.closed same⟩
      slots := fun q key => congrFun (congrFun (congrArg View.slots view) q) key
      others := fun d other => by rw [view]; exact badges_close_of_ne other }

theorem Usage.Ordered.not_handed_out (ordered : u.Ordered) (gone : u.pools.view.Gone c)
    (opener : Opener δ η) {q c' : Nat} {spec : Spec} {ps : Pools δ η} (present : q < u.pools.pools.length)
    (handed : (Pools.checkout opener q spec).runFrom u.pools = (.ok c',ps)) : c' ≠ c := by
  obtain ⟨outcome,ps',ran,_,_,done⟩ := Pools.checkout_cases opener ordered.registry present spec
  rw [handed] at ran
  obtain ⟨rfl,rfl⟩ := Prod.mk.inj ran
  intro same
  subst same
  generalize ps.view = v at done
  cases done with
  | @reused before after slot expiresAt split idle =>
    exact gone.2 ⟨q,spec.key,slot,by rw [split]; simp,rfl⟩
  | opened _ _ connection _ => exact Nat.ne_of_lt gone.1 connection

-- Reclaiming closes the idle connections in scope and no others. Whatever a reclaim takes out of
-- a pool is never tracked or handed out again, however the pools are used from then on: what was
-- in use stays usable until it comes back, and is closed then without any effect on others.
theorem reclaimed_never_return [DecidableEq κ] (opener : Opener δ η) (shared : δ)
    (ops : List (Operation δ η κ))
    (home : (Usage.start shared).Along opener (fun b op _ => op.Home b) ops) :
    let u := (Usage.start shared).run opener ops
    (∀ p scope, p < u.pools.pools.length → u.pools.Reclaimed p scope
      (u.pools.reclaimIdle p scope).1 (u.pools.reclaimIdle p scope).2) ∧
    (∀ p, Closes (fun c => u.Drops p c (.reclaimExpired p)) u.pools.view.badges
      (u.pools.reclaimExpired p).2.view.badges) ∧
    ∀ p c op, u.Drops p c op → ∀ later,
      let u' := (u.step opener op).run opener later
      (∀ q key, ∀ slot ∈ u'.pools.slotsOf q key, slot.connection ≠ c) ∧
      (∀ q spec c' ps, q < u'.pools.pools.length →
        (Pools.checkout opener q spec).runFrom u'.pools = (.ok c',ps) → c' ≠ c) ∧
      (∀ key, ∀ slot ∈ u.pools.slotsOf p key, slot.connection = c → slot.state = .inUse →
        (∀ op ∈ later, ¬ op.returns c) →
        ∃ session, u'.pools.session? c = some session ∧ session.lock = .ok ()) ∧
      u'.pools.Orphaned c (u'.pools.checkin p c).1 (u'.pools.checkin p c).2 := by
  intro u
  have ordered : u.Ordered := Usage.run_ordered opener (Usage.start_ordered shared) ops
  have live : u.pools.view.Live := by
    refine Usage.run_live opener (Usage.start_ordered shared) ?_ ops home
    rw [Usage.start,Pools.view_start]
    exact View.live_start
  refine ⟨?_,?_,?_⟩
  · intro p scope present
    exact Pools.reclaimed ordered.registry ordered.sound live present scope
  · intro p
    obtain ⟨_,_,swept⟩ := Pools.reclaimExpired_cases (p := p) ordered.registry
    refine swept.badges.congr fun c => ⟨?_,?_⟩
    · intro inside
      obtain ⟨key,slot,member,goes,_,same⟩ := inside
      exact ⟨rfl,key,slot,member,by simpa using goes,same⟩
    · intro drops
      obtain ⟨_,key,slot,member,goes,same⟩ := drops
      exact ⟨key,slot,member,by simp [goes],Pools.idle_of_swept goes,same⟩
  · intro p c op drops later u'
    obtain ⟨gone,owned⟩ := drops.gone opener ordered
    have next := Usage.step_ordered opener ordered op
    have ordered' : u'.Ordered := Usage.run_ordered opener next later
    have gone' : u'.pools.view.Gone c := Usage.run_gone opener next gone later
    have turn := (Usage.step_turn opener ordered op).2
    refine ⟨?_,?_,?_,?_⟩
    · intro q key slot member same
      exact gone'.2 ⟨q,key,slot,member,same⟩
    · intro q spec c' ps present handed
      exact ordered'.not_handed_out gone' opener present handed
    · intro key slot member same inUse out
      subst same
      obtain ⟨session,known,_,_,isOpen⟩ := Pools.session_of_slot ordered.sound live member
      -- Neither the sweep itself nor any later one reaches a connection that is in use.
      have kept : u'.pools.view.badges[slot.connection]? = u.pools.view.badges[slot.connection]? :=
        (Usage.run_badge opener next gone later out).trans
          (turn.badge_inUse ordered.sound drops.isCheckin member inUse)
      have before : u.pools.view.badges[slot.connection]? = some session.badge := by
        rw [Pools.badges_view,known]
        rfl
      obtain ⟨session',known',same⟩ := Pools.session_of_badge (kept.trans before)
      have isOpen' : session'.closed = false := (congrArg Badge.closed same).trans isOpen
      exact ⟨session',known',Session.lock_open isOpen'⟩
    · exact ordered'.orphaned (Usage.run_origin opener next later (turn.origin owned)) gone'

end Runs

def idleAndBusy : List (Operation Unit Unit String) :=
  [.checkout "ann" 0 (.new ":memory:"),.checkout "bob" 0 (.new ":memory:"),.checkin "bob" 0 1]

def madeAgain : Usage Unit Unit String :=
  (((Usage.start ()).run anyOpener idleAndBusy).step anyOpener (.reclaimIdle 0 .all)).run anyOpener
    [.checkout "cid" 0 (.new ":memory:")]

theorem reclaimed_never_return_madeAgain :
    (Usage.start ()).Along anyOpener (fun b op _ => op.Home b) idleAndBusy ∧
    (∃ session, madeAgain.pools.session? 0 = some session ∧ session.lock = .ok ()) ∧
    (madeAgain.pools.checkin 0 0).1 = .closedOrphan ∧
    (∀ key, ∀ slot ∈ madeAgain.pools.slotsOf 0 key, slot.connection ≠ 0) ∧
    ∃ slot ∈ madeAgain.pools.slotsOf 0 (Spec.new ":memory:").key, slot.connection = 2 := by
  have home : (Usage.start ()).Along anyOpener (fun b op _ => op.Home b) idleAndBusy :=
    ⟨trivial,trivial,rfl,trivial⟩
  obtain ⟨_,_,dropped⟩ := reclaimed_never_return anyOpener () idleAndBusy home
  have busy : Slot.new 1 0 0 7200000 ∈
      ((Usage.start ()).run anyOpener idleAndBusy).pools.slotsOf 0 (Spec.new ":memory:").key :=
    List.mem_cons_self
  have drops : ((Usage.start ()).run anyOpener idleAndBusy).Drops 0 0 (.reclaimIdle 0 .all) :=
    ⟨rfl,_,rfl,_,busy,rfl⟩
  obtain ⟨untracked,_,usable,orphaned⟩ := dropped 0 0 _ drops [.checkout "cid" 0 (.new ":memory:")]
  refine ⟨home,?_,orphaned.outcome,untracked 0,?_⟩
  · exact usable _ _ busy rfl rfl (by simp [Operation.returns])
  · exact ⟨Slot.new 3 2 0 7200000,List.mem_cons_self,rfl⟩

end TypedRows
