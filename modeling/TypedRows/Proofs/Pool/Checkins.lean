import TypedRows.Proofs.Pool.Usage

namespace TypedRows

-- When a checkin frees nothing but what its caller holds.

structure Exclusive {κ : Type} (b : Books κ) : Prop where
  idle : ∀ p key, ∀ slot ∈ b.view.slots p key, slot.state = .idle →
    slot.connection ∉ b.held.map Prod.snd
  once : (b.held.map Prod.snd).Nodup
  known : ∀ c ∈ b.held.map Prod.snd, c < b.view.badges.length

-- If the pool has a connection in use under the key and the number of the one that comes back,
-- then it is that very connection, and nobody but the caller holds it.
def Operation.Harmless {δ η κ : Type} (b : Books κ) : Operation δ η κ → Prop
  | .checkin holder p c => ∀ badge, b.view.badges[c]? = some badge →
      ∀ slot ∈ b.view.slots p badge.key, slot.id = badge.id → slot.state = .inUse →
        slot.connection = c ∧ ∀ other, (other,c) ∈ b.held → other = holder
  | _ => True

-- A checkin makes nothing idle that another holder holds, and leaves the connections of the
-- pool alone where it brings one of another pool; and no connection is held twice after it.
structure Operation.Safe {δ η κ : Type} (b : Books κ) (op : Operation δ η κ) (b' : Books κ) :
    Prop where
  freed : ∀ holder p c, op = .checkin holder p c → ∀ q key, ∀ slot ∈ b.view.slots q key,
    slot.state = .inUse → ∀ slot' ∈ b'.view.slots q key, slot'.connection = slot.connection →
      slot'.state = .idle → ∀ other, (other,slot.connection) ∈ b.held → other = holder
  foreign : ∀ holder p c, op = .checkin holder p c → b.origins[c]? ≠ some p →
    (∀ key, b'.view.slots p key = b.view.slots p key) ∧
      ∀ d : Nat, b.origins[d]? = some p → b'.view.badges[d]? = b.view.badges[d]?
  once : (b'.held.map Prod.snd).Nodup

section Held

variable {κ : Type} [DecidableEq κ] {held : List (κ × Nat)} {holder : κ} {c d : Nat}

theorem held_of_erase (present : d ∈ (held.erase (holder,c)).map Prod.snd) : d ∈ held.map Prod.snd :=
  (List.erase_sublist.map Prod.snd).subset present

theorem held_erase_of_ne (present : d ∈ held.map Prod.snd) (other : d ≠ c) :
    d ∈ (held.erase (holder,c)).map Prod.snd := by
  obtain ⟨⟨holder',d'⟩,member,rfl⟩ := List.mem_map.mp present
  refine List.mem_map.mpr ⟨(holder',d'),(List.mem_erase_of_ne ?_).mpr member,rfl⟩
  rintro ⟨⟩
  exact other rfl

theorem erased_of_alone (once : (held.map Prod.snd).Nodup)
    (alone : ∀ other, (other,c) ∈ held → other = holder) :
    c ∉ (held.erase (holder,c)).map Prod.snd := by
  intro present
  obtain ⟨⟨other,c'⟩,member,rfl⟩ := List.mem_map.mp present
  obtain rfl := alone other (List.mem_of_mem_erase member)
  exact (List.Nodup.of_map _ once).not_mem_erase member

end Held

namespace Exclusive

variable {κ : Type} {b : Books κ} {holder : κ} {p c : Nat} {key : String} {first last : List Slot}
  {slot : Slot}

theorem reused (before : Exclusive b) (sound : Sound b.view b.origins) (expiresAt : Nat)
    (split : b.view.slots p key = first ++ slot :: last) (idle : slot.state = .idle) : Exclusive
      ⟨b.view.put p key (first ++ {slot with state := .inUse, expiresAt := expiresAt} :: last),
        b.origins,(holder,slot.connection) :: b.held⟩ := by
  have member : slot ∈ b.view.slots p key := by rw [split]; simp
  constructor
  case idle =>
    intro q key' other present state
    rcases sound.put_cases split present with ⟨_,_,rfl⟩ | ⟨old,differs⟩
    · cases state
    · rw [List.map_cons,List.mem_cons,not_or]
      exact ⟨differs,before.idle q key' other old state⟩
  case once => exact List.nodup_cons.mpr ⟨before.idle p key slot member idle,before.once⟩
  case known => exact List.forall_mem_cons.mpr ⟨sound.connection_lt member,before.known⟩

theorem opened (before : Exclusive b) (sound : Sound b.view b.origins)
    (connection : slot.connection = b.view.badges.length) (state : slot.state = .inUse) :
    Exclusive ⟨b.view.opened p key slot,b.origins ++ [p],(holder,slot.connection) :: b.held⟩ := by
  constructor
  case idle =>
    intro q key' other present idle
    rcases Sound.opened_cases present with old | ⟨_,_,rfl⟩
    · have bound := sound.connection_lt old
      rw [List.map_cons,List.mem_cons,not_or]
      exact ⟨by omega,before.idle q key' other old idle⟩
    · rw [state] at idle
      cases idle
  case once =>
    refine List.nodup_cons.mpr ⟨fun present => ?_,before.once⟩
    have bound := before.known _ present
    omega
  case known =>
    have long : (b.view.opened p key slot).badges.length = b.view.badges.length + 1 := by
      simp [View.opened]
    rw [long]
    refine List.forall_mem_cons.mpr ⟨by omega,fun c present => ?_⟩
    exact Nat.lt_succ_of_lt (before.known c present)

theorem released [DecidableEq κ] (before : Exclusive b) :
    Exclusive ⟨b.view,b.origins,b.held.erase (holder,c)⟩ where
  idle q key slot member state present := before.idle q key slot member state (held_of_erase present)
  once := before.once.sublist (List.erase_sublist.map Prod.snd)
  known d present := before.known d (held_of_erase present)

theorem returned [DecidableEq κ] (before : Exclusive b) (sound : Sound b.view b.origins)
    (split : b.view.slots p key = first ++ slot :: last)
    (free : slot.connection ∉ (b.held.erase (holder,c)).map Prod.snd) : Exclusive
      ⟨b.view.put p key (first ++ {slot with state := .idle} :: last),b.origins,
        b.held.erase (holder,c)⟩ := by
  refine {before.released with idle := fun q key' other present state => ?_}
  rcases sound.put_cases split present with ⟨_,_,rfl⟩ | ⟨old,_⟩
  · exact free
  · exact before.released.idle q key' other old state

theorem closed [DecidableEq κ] (before : Exclusive b) :
    Exclusive ⟨b.view.close c,b.origins,b.held.erase (holder,c)⟩ := by
  refine {before.released with known := fun d present => ?_}
  rw [View.close,List.length_modify]
  exact before.released.known d present

theorem swept {kept : String → Slot → Bool} {v : View} (before : Exclusive b)
    (swept : Swept kept p b.view v) : Exclusive ⟨v,b.origins,b.held⟩ where
  idle q key slot present state := by
    rw [swept.slots] at present
    split at present
    · exact before.idle q key slot (List.mem_of_mem_filter present) state
    · exact before.idle q key slot present state
  once := before.once
  known c present := by
    have marks := congrArg List.length (Turn.marks_of_closes swept.badges)
    rw [View.marks,View.marks,List.length_map,List.length_map] at marks
    rw [marks]
    exact before.known c present

end Exclusive

theorem idle_of_abroad {δ η κ : Type} {b : Books κ} {holder : κ} {p c : Nat} {badge : Badge}
    {slot : Slot} (sound : Sound b.view b.origins)
    (harmless : (.checkin holder p c : Operation δ η κ).Harmless b) (abroad : b.origins[c]? ≠ some p)
    (known : b.view.badges[c]? = some badge) (member : slot ∈ b.view.slots p badge.key)
    (number : slot.id = badge.id) : slot.state = .idle := by
  cases state : slot.state with
  | idle => rfl
  | inUse =>
    obtain ⟨rfl,_⟩ := harmless badge known slot member number state
    exact absurd (sound.owned p badge.key slot member) abroad
  | closed => exact absurd state (sound.opens p badge.key slot member)

namespace Turn

variable {δ η κ : Type} [DecidableEq κ] {b b' : Books κ} {op : Operation δ η κ}

theorem freed_of_harmless {holder : κ} {p c : Nat} {badge : Badge} {slot : Slot}
    (sound : Sound b.view b.origins) (before : Exclusive b)
    (harmless : (Operation.checkin holder p c : Operation δ η κ).Harmless b)
    (known : b.view.badges[c]? = some badge) (member : slot ∈ b.view.slots p badge.key)
    (same : slot.id = badge.id) : slot.connection ∉ (b.held.erase (holder,c)).map Prod.snd := by
  cases state : slot.state with
  | idle => exact fun present => before.idle p badge.key slot member state (held_of_erase present)
  | inUse =>
    obtain ⟨rfl,alone⟩ := harmless badge known slot member same state
    exact erased_of_alone before.once alone
  | closed => exact absurd state (sound.opens p badge.key slot member)

theorem exclusive (turn : Turn b op b') (sound : Sound b.view b.origins) (before : Exclusive b)
    (harmless : op.Harmless b) : Exclusive b' := by
  cases turn with
  | still _ => exact before
  | absent _ => exact before
  | reused expiresAt split idle => exact before.reused sound expiresAt split idle
  | opened _ connection state => exact before.opened sound connection state
  | swept _ swept => exact before.swept swept
  | @checkin holder p c outcome v done =>
    cases done with
    | unknown _ => exact before.released
    | orphaned _ _ => exact before.closed
    | @returned badge first last slot found split same =>
      have member : slot ∈ b.view.slots p badge.key := by rw [split]; simp
      exact before.returned sound split (freed_of_harmless sound before harmless found member same)

theorem mark_of_badge {c : Nat} {badge : Badge} {v : View} (known : v.badges[c]? = some badge) :
    v.marks[c]? = some (badge.id,badge.key) := by
  rw [View.marks,List.getElem?_map,known]
  rfl

section Harmless

variable {holder : κ} {p c : Nat}

theorem alone_of_freed (turn : Turn b (.checkin holder p c : Operation δ η κ) b')
    (sound : Sound b.view b.origins)
    (harmless : (.checkin holder p c : Operation δ η κ).Harmless b) {q : Nat} {key : String}
    {slot slot' : Slot} (member : slot ∈ b.view.slots q key) (inUse : slot.state = .inUse)
    (member' : slot' ∈ b'.view.slots q key) (same : slot'.connection = slot.connection)
    (idle : slot'.state = .idle) : ∀ other, (other,slot.connection) ∈ b.held → other = holder := by
  cases turn with
  | still no => cases no
  | swept no _ => cases no
  | absent _ => exact absurd idle (sound.state_unique member member' same inUse)
  | checkin done =>
    cases done with
    | unknown _ => exact absurd idle (sound.state_unique member member' same inUse)
    | orphaned _ _ => exact absurd idle (sound.state_unique member member' same inUse)
    | @returned badge first last found known split number =>
      rcases sound.put_cases split member' with ⟨rfl,rfl,rfl⟩ | ⟨old,_⟩
      · have present : found ∈ b.view.slots q badge.key := by rw [split]; simp
        obtain ⟨_,_,rfl⟩ := sound.place member present same.symm
        obtain ⟨rfl,alone⟩ := harmless badge known slot present number inUse
        exact alone
      · exact absurd idle (sound.state_unique member old same inUse)

theorem spared_of_abroad (turn : Turn b (.checkin holder p c : Operation δ η κ) b')
    (sound : Sound b.view b.origins)
    (harmless : (.checkin holder p c : Operation δ η κ).Harmless b)
    (abroad : b.origins[c]? ≠ some p) :
    (∀ key, b'.view.slots p key = b.view.slots p key) ∧
      ∀ d : Nat, b.origins[d]? = some p → b'.view.badges[d]? = b.view.badges[d]? := by
  cases turn with
  | still no => cases no
  | swept no _ => cases no
  | absent _ => exact ⟨fun key => rfl,fun d _ => rfl⟩
  | checkin done =>
    cases done with
    | unknown _ => exact ⟨fun key => rfl,fun d _ => rfl⟩
    | orphaned known others =>
      refine ⟨fun key => rfl,fun d own => ?_⟩
      have other : c ≠ d := by rintro rfl; exact abroad own
      rw [View.close,List.getElem?_modify]
      simp [other]
    | @returned badge first last found known split number =>
      have present : found ∈ b.view.slots p badge.key := by rw [split]; simp
      have idle := idle_of_abroad sound harmless abroad known present number
      have same : {found with state := .idle} = found := by rw [← idle]
      rw [same,← split,View.put_same]
      exact ⟨fun key => rfl,fun d _ => rfl⟩

end Harmless

theorem safe_of_harmless (turn : Turn b op b') (sound : Sound b.view b.origins) (before : Exclusive b)
    (harmless : op.Harmless b) : op.Safe b b' := by
  constructor
  case freed =>
    rintro holder p c rfl q key slot member inUse slot' member' same idle
    exact turn.alone_of_freed sound harmless member inUse member' same idle
  case foreign =>
    rintro holder p c rfl abroad
    exact turn.spared_of_abroad sound harmless abroad
  case once => exact (turn.exclusive sound before harmless).once

theorem harmless_of_safe (turn : Turn b op b') (sound : Sound b.view b.origins)
    (safe : op.Safe b b') : op.Harmless b := by
  cases turn with
  | @checkin holder p c outcome v done =>
    intro badge known slot member number inUse
    cases done with
    | unknown absent =>
      rw [absent] at known
      cases known
    | @orphaned badge' known' others =>
      cases known'.symm.trans known
      exact absurd number (others slot member)
    | @returned badge' first last found known' split number' =>
      cases known'.symm.trans known
      have present : found ∈ b.view.slots p badge.key := by rw [split]; simp
      have own := sound.owned p badge.key slot member
      have mark := sound.recorded p badge.key slot member
      have mark' := sound.recorded p badge.key found present
      rw [number] at mark
      rw [number'] at mark'
      have same := sound.unique own (sound.owned p badge.key found present) mark mark'
      obtain ⟨_,_,rfl⟩ := sound.place member present same
      have left : {slot with state := .idle} ∈
          (b.view.put p badge.key (first ++ {slot with state := .idle} :: last)).slots p badge.key := by
        rw [View.put_slots]
        simp
      -- The record that was found is this one, so it is the one that became idle.
      by_cases here : slot.connection = c
      · refine ⟨here,fun other holds => ?_⟩
        exact safe.freed holder p c rfl p badge.key slot member inUse _ left rfl rfl other
          (here ▸ holds)
      · have abroad : b.origins[c]? ≠ some p := fun home =>
          here (sound.unique own home mark (mark_of_badge known))
        have unchanged := (safe.foreign holder p c rfl abroad).1 badge.key
        rw [View.put_slots,split] at unchanged
        have idle := congrArg Slot.state (List.cons.inj (List.append_cancel_left unchanged)).1
        rw [inUse] at idle
        cases idle
  | absent empty =>
    intro badge known slot member
    rw [empty] at member
    cases member
  | reused _ _ _ => trivial
  | opened _ _ _ => trivial
  | still no => cases op <;> trivial
  | swept no _ => cases op <;> trivial

end Turn

theorem start_exclusive {δ η κ : Type} (shared : δ) :
    Exclusive (Usage.start shared : Usage δ η κ).books where
  idle p key slot member := by
    simp [Usage.books,Usage.start]
  once := List.nodup_nil
  known c member := by cases member

section Runs

variable {δ η κ : Type} [DecidableEq κ]

theorem along_iff (opener : Opener δ η) {u : Usage δ η κ} (ordered : u.Ordered)
    (exclusive : Exclusive u.books) (ops : List (Operation δ η κ)) :
    u.Along opener (fun b op b' => op.Safe b b') ops ↔
      u.Along opener (fun b op _ => op.Harmless b) ops := by
  -- Either side gives a harmless step, and that carries `Exclusive` to the next one.
  induction ops generalizing u with
  | nil => exact .rfl
  | cons op rest ih =>
    have turn := (Usage.step_turn opener ordered op).2
    have next := Usage.step_ordered opener ordered op
    constructor
    · rintro ⟨safe,later⟩
      have harmless := turn.harmless_of_safe ordered.sound safe
      exact ⟨harmless,(ih next (turn.exclusive ordered.sound exclusive harmless)).mp later⟩
    · rintro ⟨harmless,later⟩
      exact ⟨turn.safe_of_harmless ordered.sound exclusive harmless,
        (ih next (turn.exclusive ordered.sound exclusive harmless)).mpr later⟩

-- Over any run of any number of pools and holders, checkins free only what their callers hold
-- exactly if each of them is harmless.
theorem checkins_safe_iff_harmless (opener : Opener δ η) (shared : δ) (ops : List (Operation δ η κ)) :
    (Usage.start shared).Along opener (fun b op b' => op.Safe b b') ops ↔
      (Usage.start shared).Along opener (fun b op _ => op.Harmless b) ops :=
  along_iff opener (Usage.start_ordered shared) (start_exclusive shared) ops

end Runs

def anyOpener : Opener Unit Unit where
  openAt _ shared := .ok ((),shared)

-- Two pools give their first connections the same number. The second comes back to the first
-- pool, and the first is handed out again.
theorem checkin_frees_other_holder :
    ¬ ∀ ops : List (Operation Unit Unit String),
      (Usage.start ()).Along anyOpener (fun b op b' => op.Safe b b') ops := by
  intro safe
  obtain ⟨_,_,_,_,last,_⟩ := safe [.addPool .default,.checkout "ann" 0 (.new ":memory:"),
    .checkout "bob" 1 (.new ":memory:"),.checkin "bob" 0 1,.checkout "cid" 0 (.new ":memory:")]
  exact absurd last.once (by decide)

end TypedRows
