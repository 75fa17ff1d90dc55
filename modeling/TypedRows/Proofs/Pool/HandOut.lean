import TypedRows.Proofs.Pool.Tracked

namespace TypedRows

-- Where holders give back only what they hold, and to the pool that it came from.

def Operation.Proper {δ η κ : Type} (b : Books κ) : Operation δ η κ → Prop
  | .checkin holder p c => (holder,c) ∈ b.held ∧ b.origins[c]? = some p
  | _ => True

structure Accounted {κ : Type} (b : Books κ) : Prop where
  inUse : ∀ p key, ∀ slot ∈ b.view.slots p key, slot.state = .inUse →
    slot.connection ∈ b.held.map Prod.snd
  tracked : ∀ p key, ∀ slot ∈ b.view.slots p key, ∀ badge,
    b.view.badges[slot.connection]? = some badge → badge.closed = false
  held : ∀ c ∈ b.held.map Prod.snd, ∀ badge, b.view.badges[c]? = some badge → badge.closed = false

theorem alone_of_held {κ : Type} {held : List (κ × Nat)} (once : (held.map Prod.snd).Nodup)
    {holder other : κ} {c : Nat} (holds : (holder,c) ∈ held) (holds' : (other,c) ∈ held) :
    other = holder :=
  congrArg Prod.fst (List.inj_on_of_nodup_map once holds' holds rfl)

theorem harmless_of_proper {δ η κ : Type} {b : Books κ} {op : Operation δ η κ}
    (sound : Sound b.view b.origins) (exclusive : Exclusive b) (proper : op.Proper b) :
    op.Harmless b := by
  cases op with
  | checkin holder p c =>
    obtain ⟨holds,home⟩ := proper
    intro badge known slot member number _
    exact ⟨own_of_number sound home known member number,fun other holds' =>
      alone_of_held exclusive.once holds holds'⟩
  | _ => trivial

namespace Accounted

variable {κ : Type} {b : Books κ} {holder : κ} {p c : Nat} {key : String} {first last : List Slot}
  {slot : Slot}

theorem reused (before : Accounted b) (sound : Sound b.view b.origins) (expiresAt : Nat)
    (split : b.view.slots p key = first ++ slot :: last) : Accounted
      ⟨b.view.put p key (first ++ {slot with state := .inUse, expiresAt := expiresAt} :: last),
        b.origins,(holder,slot.connection) :: b.held⟩ := by
  have member : slot ∈ b.view.slots p key := by rw [split]; simp
  constructor
  case inUse =>
    intro q key' other present state
    rcases sound.put_cases split present with ⟨_,_,rfl⟩ | ⟨old,_⟩
    · exact List.mem_cons_self
    · exact List.mem_cons_of_mem _ (before.inUse q key' other old state)
  case tracked => exact View.Live.put before.tracked sound split rfl
  case held =>
    intro c present badge known
    rcases List.mem_cons.mp present with rfl | earlier
    · exact before.tracked p key slot member badge known
    · exact before.held c earlier badge known

theorem opened (before : Accounted b) (connection : slot.connection = b.view.badges.length) :
    Accounted ⟨b.view.opened p key slot,b.origins ++ [p],(holder,slot.connection) :: b.held⟩ := by
  have new : ∀ badge, (b.view.opened p key slot).badges[slot.connection]? = some badge →
      badge.closed = false := by
    intro badge known
    rcases badges_opened known with old | ⟨_,isOpen⟩
    · rw [connection,List.getElem?_eq_none (Nat.le_refl _)] at old
      cases old
    · exact isOpen
  constructor
  case inUse =>
    intro q key' other present inUse
    rcases Sound.opened_cases present with old | ⟨_,_,rfl⟩
    · exact List.mem_cons_of_mem _ (before.inUse q key' other old inUse)
    · exact List.mem_cons_self
  case tracked => exact View.Live.opened before.tracked connection
  case held =>
    intro c present badge known
    rcases List.mem_cons.mp present with rfl | earlier
    · exact new badge known
    · rcases badges_opened known with same | ⟨_,isOpen⟩
      · exact before.held c earlier badge same
      · exact isOpen

theorem returned [DecidableEq κ] (before : Accounted b) (sound : Sound b.view b.origins)
    (split : b.view.slots p key = first ++ slot :: last) : Accounted
      ⟨b.view.put p key (first ++ {slot with state := .idle} :: last),b.origins,
        b.held.erase (holder,slot.connection)⟩ := by
  have member : slot ∈ b.view.slots p key := by rw [split]; simp
  constructor
  case inUse =>
    intro q key' other present inUse
    rcases sound.put_cases split present with ⟨_,_,rfl⟩ | ⟨old,differs⟩
    · cases inUse
    · exact held_erase_of_ne (before.inUse q key' other old inUse) differs
  case tracked => exact View.Live.put before.tracked sound split rfl
  case held => exact fun d present => before.held d (held_of_erase present)

theorem closed [DecidableEq κ] (before : Accounted b) (untracked : ¬ b.view.Tracks c)
    (alone : c ∉ (b.held.erase (holder,c)).map Prod.snd) :
    Accounted ⟨b.view.close c,b.origins,b.held.erase (holder,c)⟩ := by
  constructor
  case inUse =>
    intro q key slot member inUse
    exact held_erase_of_ne (before.inUse q key slot member inUse) fun same =>
      untracked ⟨q,key,slot,member,same⟩
  case tracked => exact View.Live.close before.tracked untracked
  case held =>
    intro d present badge known
    have other : d ≠ c := by rintro rfl; exact alone present
    rw [badges_close_of_ne other] at known
    exact before.held d (held_of_erase present) badge known

theorem swept {kept : String → Slot → Bool} {v : View} (before : Accounted b)
    (sound : Sound b.view b.origins) (exclusive : Exclusive b) (swept : Swept kept p b.view v) :
    Accounted ⟨v,b.origins,b.held⟩ := by
  constructor
  case inUse =>
    intro q key slot present inUse
    exact before.inUse q key slot (swept.old present).1 inUse
  case tracked => exact View.Live.swept before.tracked sound swept
  case held =>
    intro c present badge known
    rw [(swept.badges c).2] at known
    · exact before.held c present badge known
    · rintro ⟨key,slot,member,_,idle,rfl⟩
      exact exclusive.idle p key slot member idle present

end Accounted

theorem Turn.accounted {δ η κ : Type} [DecidableEq κ] {b b' : Books κ} {op : Operation δ η κ}
    (turn : Turn b op b') (sound : Sound b.view b.origins) (exclusive : Exclusive b)
    (before : Accounted b) (proper : op.Proper b) : Accounted b' := by
  cases turn with
  | still _ => exact before
  | absent _ => exact before
  | reused expiresAt split _ => exact before.reused sound expiresAt split
  | opened _ connection _ => exact before.opened connection
  | swept _ swept => exact before.swept sound exclusive swept
  | @checkin holder p c outcome v done =>
    obtain ⟨holds,home⟩ := proper
    have alone := erased_of_alone exclusive.once fun other holds' =>
      alone_of_held exclusive.once holds holds'
    cases done with
    | unknown absent =>
      have bound := exclusive.known c (List.mem_map.mpr ⟨_,holds,rfl⟩)
      exact absurd (List.getElem?_eq_none_iff.mp absent) (Nat.not_le.mpr bound)
    | @returned badge first last found known split number =>
      have member : found ∈ b.view.slots p badge.key := by rw [split]; simp
      obtain rfl := own_of_number sound home known member number
      exact before.returned sound split
    | @orphaned badge known others =>
      exact before.closed (untracked_of_misses sound home (misses_of_others known others)) alone

structure Usage.Exact {δ η κ : Type} (u : Usage δ η κ) : Prop where
  ordered : u.Ordered
  exclusive : Exclusive u.books
  accounted : Accounted u.books

namespace Usage

variable {δ η κ : Type}

def InPlay (u : Usage δ η κ) (p c : Nat) : Prop :=
  (∃ key, ∃ slot ∈ u.pools.slotsOf p key, slot.connection = c) ∨
    (c ∈ u.held.map Prod.snd ∧ u.origins[c]? = some p)

namespace Exact

variable {u : Usage δ η κ}

theorem checkout (exact : u.Exact) (opener : Opener δ η) {p : Nat}
    (present : p < u.pools.pools.length) (spec : Spec) :
    match (Pools.checkout opener p spec).runFrom u.pools with
    | (.ok c,ps) => c ∉ u.held.map Prod.snd ∧ ∃ session, ps.session? c = some session ∧
        session.key = spec.key ∧ session.closed = false
    | (.error e,_) => ∃ cause, e = .connection spec.path cause ∨
        e = .engine cause ∧ (u.pools.pool p).options.busyTimeout ≠ none := by
  obtain ⟨outcome,ps,ran,_,_,done⟩ :=
    Pools.checkout_cases opener exact.ordered.registry present spec
  have isOpen : ∀ c, outcome = .ok c → ∃ session, ps.session? c = some session ∧
      session.key = spec.key ∧ session.closed = false := by
    intro c same
    subst same
    exact done.session exact.ordered.sound exact.accounted.tracked
  rw [ran]
  generalize ps.view = v at done
  cases done with
  | failed cause => exact cause
  | @reused before after slot expiresAt split idle =>
    have member : slot ∈ u.pools.view.slots p spec.key := by rw [split]; simp
    exact ⟨exact.exclusive.idle p spec.key slot member idle,isOpen _ rfl⟩
  | @opened slot busy id connection state =>
    have fresh : slot.connection ∉ u.held.map Prod.snd := fun present => by
      have bound := exact.exclusive.known _ present
      change slot.connection < u.pools.view.badges.length at bound
      omega
    exact ⟨fresh,isOpen _ rfl⟩

theorem slot (exact : u.Exact) {p : Nat} {key : String} {slot : Slot}
    (member : slot ∈ u.pools.slotsOf p key) :
    ((slot.state = .inUse ∧ slot.connection ∈ u.held.map Prod.snd) ∨
      (slot.state = .idle ∧ slot.connection ∉ u.held.map Prod.snd)) ∧
    ∃ session, u.pools.session? slot.connection = some session ∧ session.id = slot.id ∧
      session.key = key ∧ session.closed = false := by
  refine ⟨?_,?_⟩
  · cases state : slot.state with
    | idle => exact .inr ⟨rfl,exact.exclusive.idle p key slot member state⟩
    | inUse => exact .inl ⟨rfl,exact.accounted.inUse p key slot member state⟩
    | closed => exact absurd state (exact.ordered.sound.opens p key slot member)
  · exact Pools.session_of_slot exact.ordered.sound exact.accounted.tracked member

theorem origin_of_inPlay (exact : u.Exact) {p c : Nat} (inPlay : u.InPlay p c) :
    u.origins[c]? = some p := by
  rcases inPlay with ⟨key,slot,member,rfl⟩ | ⟨_,home⟩
  · exact exact.ordered.sound.owned p key slot member
  · exact home

theorem mark_of_session {c : Nat} {session : Session} (known : u.pools.session? c = some session) :
    u.pools.view.marks[c]? = some (session.id,session.key) := by
  have badge : u.pools.view.badges[c]? = some session.badge := by
    rw [Pools.badges_view,known]
    rfl
  exact Turn.mark_of_badge badge

theorem ids_distinct (exact : u.Exact) {p c c' : Nat} {session session' : Session}
    (inPlay : u.InPlay p c) (inPlay' : u.InPlay p c') (known : u.pools.session? c = some session)
    (known' : u.pools.session? c' = some session') (same : session.id = session'.id) : c = c' := by
  have mark := mark_of_session known
  have mark' := mark_of_session known'
  rw [same] at mark
  exact exact.ordered.sound.unique (exact.origin_of_inPlay inPlay) (exact.origin_of_inPlay inPlay')
    mark mark'

theorem records_obey (exact : u.Exact) {p e : Nat} {key : String}
    (registered : (u.pools.pool p).entryOf? key = some e) (id : Nat) :
    (∃ found ps, (Pools.takeIdle e).runFrom u.pools = (.ok found,ps)) ∧
      ∃ found ps, (Pools.finished e id).runFrom u.pools = (.ok found,ps) := by
  obtain ⟨found,ps,ran,_⟩ := Pools.takeIdle_cases exact.ordered.registry registered
  obtain ⟨found',ps',ran',_⟩ := Pools.finished_cases exact.ordered.registry registered
    (exact.ordered.sound.opens p key) id
  exact ⟨⟨found,ps,ran⟩,⟨found',ps',ran'⟩⟩

end Exact

theorem start_exact (shared : δ) : (start shared : Usage δ η κ).Exact where
  ordered := start_ordered shared
  exclusive := start_exclusive shared
  accounted := by constructor <;> simp [books,start,Pools.view_start]

end Usage

section Runs

variable {δ η κ : Type} [DecidableEq κ]

theorem Usage.Exact.step (opener : Opener δ η) {u : Usage δ η κ} (exact : u.Exact)
    {op : Operation δ η κ} (proper : op.Proper u.books) : (u.step opener op).Exact := by
  have sound := exact.ordered.sound
  have turn := (Usage.step_turn opener exact.ordered op).2
  have harmless := harmless_of_proper sound exact.exclusive proper
  exact ⟨Usage.step_ordered opener exact.ordered op,turn.exclusive sound exact.exclusive harmless,
    turn.accounted sound exact.exclusive exact.accounted proper⟩

theorem Usage.run_exact (opener : Opener δ η) {u : Usage δ η κ} (exact : u.Exact)
    (ops : List (Operation δ η κ)) (proper : u.Along opener (fun b op _ => op.Proper b) ops) :
    (u.run opener ops).Exact := by
  induction ops generalizing u with
  | nil => exact exact
  | cons op rest ih => exact ih (exact.step opener proper.1) proper.2

-- However long the holders go on, every hand-out is of a connection that nobody else holds,
-- what is tracked is in use exactly while it is held, no two connections in play of one pool
-- have the same number, and no operation finds the bookkeeping inconsistent.
theorem pool_hands_out_exclusively (opener : Opener δ η) (shared : δ)
    (ops : List (Operation δ η κ))
    (proper : (Usage.start shared).Along opener (fun b op _ => op.Proper b) ops) :
    let u := (Usage.start shared).run opener ops
    (∀ p spec, p < u.pools.pools.length → match (Pools.checkout opener p spec).runFrom u.pools with
      | (.ok c,ps) => c ∉ u.held.map Prod.snd ∧ ∃ session, ps.session? c = some session ∧
          session.key = spec.key ∧ session.closed = false
      | (.error e,_) => ∃ cause, e = .connection spec.path cause ∨
          e = .engine cause ∧ (u.pools.pool p).options.busyTimeout ≠ none) ∧
    (∀ p key, ∀ slot ∈ u.pools.slotsOf p key,
      ((slot.state = .inUse ∧ slot.connection ∈ u.held.map Prod.snd) ∨
        (slot.state = .idle ∧ slot.connection ∉ u.held.map Prod.snd)) ∧
      ∃ session, u.pools.session? slot.connection = some session ∧ session.id = slot.id ∧
        session.key = key ∧ session.closed = false) ∧
    (∀ p c c' session session', u.InPlay p c → u.InPlay p c' → u.pools.session? c = some session →
      u.pools.session? c' = some session' → session.id = session'.id → c = c') ∧
    ∀ p key e id, (u.pools.pool p).entryOf? key = some e →
      (∃ found ps, (Pools.takeIdle e).runFrom u.pools = (.ok found,ps)) ∧
        ∃ found ps, (Pools.finished e id).runFrom u.pools = (.ok found,ps) := by
  intro u
  have exact : u.Exact := Usage.run_exact opener (Usage.start_exact shared) ops proper
  exact ⟨fun p spec present => exact.checkout opener present spec,
    fun p key slot member => exact.slot member,
    fun p c c' session session' inPlay inPlay' known known' same =>
      exact.ids_distinct inPlay inPlay' known known' same,
    fun p key e id registered => exact.records_obey registered id⟩

end Runs

-- An entry is forgotten while its connections are out, and made again under the same key; the
-- connection that comes back late is closed, and the other one is there again.
def reopened : List (Operation Unit Unit String) :=
  [.checkout "ann" 0 (.new ":memory:"),.checkout "bob" 0 (.new ":memory:"),.reclaimIdle 0 .all,
    .checkout "cid" 0 (.new ":memory:"),.checkin "ann" 0 0,.checkin "cid" 0 2]

theorem pool_hands_out_exclusively_reopened :
    (Usage.start ()).Along anyOpener (fun b op _ => op.Proper b) reopened ∧
    ∃ ps, (Pools.checkout anyOpener 0 (.new ":memory:")).runFrom
        ((Usage.start ()).run anyOpener reopened).pools = (.ok 2,ps) ∧
      2 ∉ ((Usage.start ()).run anyOpener reopened).held.map Prod.snd := by
  have proper : (Usage.start ()).Along anyOpener (fun b op _ => op.Proper b) reopened :=
    ⟨trivial,trivial,trivial,trivial,⟨by decide,by decide⟩,⟨by decide,by decide⟩,trivial⟩
  obtain ⟨handOut,_⟩ := pool_hands_out_exclusively anyOpener () reopened proper
  have first := handOut 0 (.new ":memory:") (by decide)
  exact ⟨proper,_,rfl,first.1⟩

end TypedRows
