import TypedRows.Proofs.Pool.Checkins

namespace TypedRows

-- What the pools track is open, as long as nothing closes it under their hands; and a connection
-- that is tracked no more is never tracked again.

namespace View

def Tracks (v : View) (c : Nat) : Prop := ∃ p key, ∃ slot ∈ v.slots p key, slot.connection = c

def Live (v : View) : Prop :=
  ∀ p key, ∀ slot ∈ v.slots p key, ∀ badge, v.badges[slot.connection]? = some badge →
    badge.closed = false

def Gone (v : View) (c : Nat) : Prop := c < v.badges.length ∧ ¬ v.Tracks c

end View

section Changes

variable {v v' : View} {origins : List Nat} {p c : Nat} {key : String} {first last : List Slot}
  {slot slot' : Slot}

theorem badges_opened {badge : Badge} (known : (v.opened p key slot).badges[c]? = some badge) :
    v.badges[c]? = some badge ∨ (c = v.badges.length ∧ badge.closed = false) := by
  rcases getElem?_concat.mp known with old | ⟨here,rfl⟩
  · exact .inl old
  · exact .inr ⟨here,rfl⟩

theorem badges_close {badge : Badge} (known : v.badges[c]? = some badge) :
    (v.close c).badges[c]? = some badge.shut := by
  rw [View.close,List.getElem?_modify_eq,known]
  rfl

theorem badges_close_of_ne {d : Nat} (other : d ≠ c) : (v.close c).badges[d]? = v.badges[d]? := by
  rw [View.close,List.getElem?_modify]
  simp [Ne.symm other]

theorem Swept.old {kept : String → Slot → Bool} {q : Nat} (swept : Swept kept p v v')
    (present : slot ∈ v'.slots q key) :
    slot ∈ v.slots q key ∧ (q = p → kept key slot = true) := by
  rw [swept.slots] at present
  split at present
  · obtain ⟨member,stays⟩ := List.mem_filter.mp present
    exact ⟨member,fun _ => stays⟩
  · rename_i elsewhere
    exact ⟨present,fun here => absurd here elsewhere⟩

theorem Swept.length {kept : String → Slot → Bool} (swept : Swept kept p v v') :
    v'.badges.length = v.badges.length := by
  have marks := congrArg List.length (Turn.marks_of_closes swept.badges)
  rwa [View.marks,View.marks,List.length_map,List.length_map] at marks

namespace View.Live

theorem put (live : v.Live) (sound : Sound v origins)
    (split : v.slots p key = first ++ slot :: last) (same : slot'.connection = slot.connection) :
    (v.put p key (first ++ slot' :: last)).Live := by
  have member : slot ∈ v.slots p key := by rw [split]; simp
  intro q key' other present badge known
  rcases sound.put_cases split present with ⟨_,_,rfl⟩ | ⟨old,_⟩
  · rw [same] at known
    exact live p key slot member badge known
  · exact live q key' other old badge known

theorem opened (live : v.Live) (connection : slot.connection = v.badges.length) :
    (v.opened p key slot).Live := by
  intro q key' other present badge known
  rcases Sound.opened_cases present with old | ⟨_,_,rfl⟩
  · rcases badges_opened known with same | ⟨_,isOpen⟩
    · exact live q key' other old badge same
    · exact isOpen
  · rcases badges_opened known with same | ⟨_,isOpen⟩
    · have bound := (List.getElem?_eq_some_iff.mp same).1
      omega
    · exact isOpen

theorem close (live : v.Live) (untracked : ¬ v.Tracks c) : (v.close c).Live := by
  intro q key slot member badge known
  have other : slot.connection ≠ c := fun same => untracked ⟨q,key,slot,member,same⟩
  rw [badges_close_of_ne other] at known
  exact live q key slot member badge known

theorem swept {kept : String → Slot → Bool} (live : v.Live) (sound : Sound v origins)
    (swept : Swept kept p v v') : v'.Live := by
  intro q key slot present badge known
  obtain ⟨member,stays⟩ := swept.old present
  rw [(swept.badges slot.connection).2] at known
  · exact live q key slot member badge known
  · rintro ⟨key',slot',member',goes,_,same⟩
    obtain ⟨rfl,rfl,rfl⟩ := sound.place member member' same.symm
    rw [stays rfl] at goes
    cases goes

end View.Live

namespace View.Gone

theorem put (gone : v.Gone c) (split : v.slots p key = first ++ slot :: last)
    (same : slot'.connection = slot.connection) :
    (v.put p key (first ++ slot' :: last)).Gone c := by
  refine ⟨gone.1,?_⟩
  rintro ⟨q,key',other,present,rfl⟩
  refine gone.2 ?_
  rcases Sound.mem_put.mp present with ⟨_,_,here⟩ | ⟨_,old⟩
  · rcases List.mem_append.mp here with earlier | later
    · exact ⟨p,key,other,by rw [split]; exact List.mem_append_left _ earlier,rfl⟩
    · rcases List.mem_cons.mp later with rfl | later
      · exact ⟨p,key,slot,by rw [split]; simp,same.symm⟩
      · exact ⟨p,key,other,by rw [split]; simp [later],rfl⟩
  · exact ⟨q,key',other,old,rfl⟩

theorem opened (gone : v.Gone c) (connection : slot.connection = v.badges.length) :
    (v.opened p key slot).Gone c := by
  refine ⟨?_,?_⟩
  · rw [View.opened,List.length_append]
    exact Nat.lt_of_lt_of_le gone.1 (Nat.le_add_right _ _)
  · rintro ⟨q,key',other,present,rfl⟩
    rcases Sound.opened_cases present with old | ⟨_,_,rfl⟩
    · exact gone.2 ⟨q,key',other,old,rfl⟩
    · exact Nat.ne_of_lt gone.1 connection

theorem close (gone : v.Gone c) (d : Nat) : (v.close d).Gone c := by
  refine ⟨?_,gone.2⟩
  rw [View.close,List.length_modify]
  exact gone.1

theorem swept {kept : String → Slot → Bool} (gone : v.Gone c) (swept : Swept kept p v v') :
    v'.Gone c := by
  refine ⟨by rw [swept.length]; exact gone.1,?_⟩
  intro tracked
  obtain ⟨q,key,slot,present,rfl⟩ := tracked
  exact gone.2 ⟨q,key,slot,(swept.old present).1,rfl⟩

theorem of_swept {kept : String → Slot → Bool} (sound : Sound v origins) (swept : Swept kept p v v')
    (member : slot ∈ v.slots p key) (goes : kept key slot = false) : v'.Gone slot.connection := by
  refine ⟨by rw [swept.length]; exact sound.connection_lt member,?_⟩
  intro tracked
  obtain ⟨q,key',slot',present,same⟩ := tracked
  obtain ⟨member',stays⟩ := swept.old present
  obtain ⟨rfl,rfl,rfl⟩ := sound.place member member' same.symm
  rw [stays rfl] at goes
  cases goes

end View.Gone

end Changes

def View.Misses (v : View) (p c : Nat) : Prop :=
  ∀ badge, v.badges[c]? = some badge → ∀ slot ∈ v.slots p badge.key, slot.id ≠ badge.id

theorem misses_of_others {v : View} {p c : Nat} {badge : Badge} (known : v.badges[c]? = some badge)
    (others : ∀ slot ∈ v.slots p badge.key, slot.id ≠ badge.id) : v.Misses p c := by
  intro badge' known'
  cases known.symm.trans known'
  exact others

-- What is closed because a pool does not know it is known to no other pool.
def Operation.Spares {δ η κ : Type} (b : Books κ) : Operation δ η κ → Prop
  | .checkin _ p c => b.view.Misses p c → ¬ b.view.Tracks c
  | _ => True

def Operation.Home {δ η κ : Type} (b : Books κ) : Operation δ η κ → Prop
  | .checkin _ p c => b.origins[c]? = some p
  | _ => True

namespace Turn

variable {δ η κ : Type} [DecidableEq κ] {b b' : Books κ} {op : Operation δ η κ}

theorem live (turn : Turn b op b') (sound : Sound b.view b.origins) (before : b.view.Live)
    (spares : op.Spares b) : b'.view.Live := by
  cases turn with
  | still _ => exact before
  | absent _ => exact before
  | reused expiresAt split _ => exact before.put sound split rfl
  | opened _ connection _ => exact before.opened connection
  | swept _ swept => exact before.swept sound swept
  | checkin done =>
    cases done with
    | unknown _ => exact before
    | returned _ split _ => exact before.put sound split rfl
    | @orphaned badge known others =>
      exact before.close (spares (misses_of_others known others))

theorem gone {c : Nat} (turn : Turn b op b') (before : b.view.Gone c) : b'.view.Gone c := by
  cases turn with
  | still _ => exact before
  | absent _ => exact before
  | reused expiresAt split _ => exact before.put split rfl
  | opened _ connection _ => exact before.opened connection
  | swept _ swept => exact before.swept swept
  | checkin done =>
    cases done with
    | unknown _ => exact before
    | returned _ split _ => exact before.put split rfl
    | orphaned _ _ => exact before.close _

end Turn

theorem own_of_number {v : View} {origins : List Nat} (sound : Sound v origins) {p c : Nat}
    {badge : Badge} {slot : Slot} (home : origins[c]? = some p) (known : v.badges[c]? = some badge)
    (member : slot ∈ v.slots p badge.key) (number : slot.id = badge.id) : slot.connection = c := by
  have mark := sound.recorded p badge.key slot member
  rw [number] at mark
  exact sound.unique (sound.owned p badge.key slot member) home mark (Turn.mark_of_badge known)

theorem untracked_of_misses {v : View} {origins : List Nat} (sound : Sound v origins) {p c : Nat}
    (home : origins[c]? = some p) (misses : v.Misses p c) : ¬ v.Tracks c := by
  rintro ⟨q,key,slot,member,rfl⟩
  have recorded := sound.recorded q key slot member
  rw [View.marks,List.getElem?_map,Option.map_eq_some_iff] at recorded
  obtain ⟨badge,known,mark⟩ := recorded
  obtain ⟨number,rfl⟩ := Prod.mk.inj mark
  cases (sound.owned q badge.key slot member).symm.trans home
  exact misses badge known slot member number.symm

theorem misses_of_gone {v : View} {origins : List Nat} (sound : Sound v origins) {p c : Nat}
    (home : origins[c]? = some p) (gone : v.Gone c) : v.Misses p c :=
  fun badge known slot member number =>
    gone.2 ⟨p,badge.key,slot,member,own_of_number sound home known member number⟩

theorem Operation.spares_of_home {δ η κ : Type} {b : Books κ} {op : Operation δ η κ}
    (sound : Sound b.view b.origins) (home : op.Home b) : op.Spares b := by
  cases op with
  | checkin holder p c => exact untracked_of_misses sound home
  | _ => trivial

namespace Pools

variable {δ η : Type} {ps : Pools δ η} {origins : List Nat}

theorem present_of_slot {p : Nat} {key : String} {slot : Slot} (member : slot ∈ ps.slotsOf p key) :
    p < ps.pools.length := by
  apply Nat.lt_of_not_le
  intro absent
  obtain ⟨e,registered⟩ := registered_of_mem member
  rw [pool_absent absent] at registered
  cases registered

theorem session_of_badge {c : Nat} {badge : Badge} (known : ps.view.badges[c]? = some badge) :
    ∃ session, ps.session? c = some session ∧ session.badge = badge := by
  rw [badges_view,Option.map_eq_some_iff] at known
  exact known

theorem session_of_slot {p : Nat} {key : String} {slot : Slot} (sound : Sound ps.view origins)
    (live : ps.view.Live) (member : slot ∈ ps.slotsOf p key) :
    ∃ session, ps.session? slot.connection = some session ∧ session.id = slot.id ∧
      session.key = key ∧ session.closed = false := by
  have recorded := sound.recorded p key slot member
  rw [View.marks,List.getElem?_map,Option.map_eq_some_iff] at recorded
  obtain ⟨badge,known,mark⟩ := recorded
  have isOpen := live p key slot member badge known
  obtain ⟨session,found,rfl⟩ := session_of_badge known
  exact ⟨session,found,congrArg Prod.fst mark,congrArg Prod.snd mark,isOpen⟩

theorem CheckedOut.session {timeout : Option Nat} {p c : Nat} {spec : Spec} {v : View}
    (sound : Sound v origins) (live : v.Live)
    (done : CheckedOut v timeout p spec (.ok c) ps.view) :
    ∃ session, ps.session? c = some session ∧ session.key = spec.key ∧ session.closed = false := by
  generalize view : ps.view = v' at done
  cases done with
  | @reused before after slot expiresAt split idle =>
    have member : slot ∈ v.slots p spec.key := by rw [split]; simp
    have recorded := sound.recorded p spec.key slot member
    rw [View.marks,List.getElem?_map,Option.map_eq_some_iff] at recorded
    obtain ⟨badge,known,mark⟩ := recorded
    have isOpen := live p spec.key slot member badge known
    have same : ps.view.badges[slot.connection]? = some badge := by rw [view]; exact known
    obtain ⟨session,found,rfl⟩ := session_of_badge same
    exact ⟨session,found,congrArg Prod.snd mark,isOpen⟩
  | @opened slot busy id connection state =>
    have same : ps.view.badges[slot.connection]? = some ⟨slot.id,spec.key,false⟩ := by
      rw [view,connection]
      exact getElem?_concat.mpr (.inr ⟨rfl,rfl⟩)
    obtain ⟨session,found,badge⟩ := session_of_badge same
    exact ⟨session,found,congrArg Badge.key badge,congrArg Badge.closed badge⟩

end Pools

theorem View.live_start : View.Live ⟨fun _ _ => [],fun _ => 0,[]⟩ :=
  fun _ _ _ present => by cases present

namespace Usage

variable {δ η κ : Type} [DecidableEq κ]

theorem run_ordered (opener : Opener δ η) {u : Usage δ η κ} (ordered : u.Ordered)
    (ops : List (Operation δ η κ)) : (u.run opener ops).Ordered := by
  induction ops generalizing u with
  | nil => exact ordered
  | cons op rest ih => exact ih (step_ordered opener ordered op)

theorem run_live (opener : Opener δ η) {u : Usage δ η κ} (ordered : u.Ordered)
    (live : u.pools.view.Live) (ops : List (Operation δ η κ))
    (home : u.Along opener (fun b op _ => op.Home b) ops) : (u.run opener ops).pools.view.Live := by
  induction ops generalizing u with
  | nil => exact live
  | cons op rest ih =>
    obtain ⟨first,later⟩ := home
    have turn := (step_turn opener ordered op).2
    refine ih (step_ordered opener ordered op) ?_ later
    exact turn.live ordered.sound live (Operation.spares_of_home ordered.sound first)

theorem run_gone (opener : Opener δ η) {u : Usage δ η κ} (ordered : u.Ordered) {c : Nat}
    (gone : u.pools.view.Gone c) (ops : List (Operation δ η κ)) :
    (u.run opener ops).pools.view.Gone c := by
  induction ops generalizing u with
  | nil => exact gone
  | cons op rest ih =>
    exact ih (step_ordered opener ordered op) ((step_turn opener ordered op).2.gone gone)

end Usage

end TypedRows
