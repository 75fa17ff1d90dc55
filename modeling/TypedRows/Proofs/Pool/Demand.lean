import Mathlib.Data.List.Perm.Subperm
import TypedRows.Proofs.Pool.HandOut

namespace TypedRows

-- How many connections a pool tracks, against how many of them were held at the same time; and
-- which of those that wait it hands out.

-- The connections of one pool and key that are held, whether the pool still tracks them or not.
def Books.heldUnder {κ : Type} (p : Nat) (key : String) (b : Books κ) : List Nat :=
  (b.held.map Prod.snd).filter fun c =>
    b.origins[c]? = some p ∧ (b.view.badges[c]?).map Badge.key = some key

-- The largest number of them that were held at the same time, from here to the end of a run.
def Usage.peak {δ η κ : Type} [DecidableEq κ] (opener : Opener δ η) (p : Nat) (key : String) :
    Usage δ η κ → List (Operation δ η κ) → Nat
  | u,[] => (u.books.heldUnder p key).length
  | u,op :: rest =>
      max (u.books.heldUnder p key).length (peak opener p key (u.step opener op) rest)

def View.Aged (v : View) : Prop := ∀ p key, (v.slots p key).Pairwise fun older newer =>
  older.id < newer.id ∧ older.connection < newer.connection

section Tracked

variable {κ : Type} {b : Books κ} {p q : Nat} {key key' : String} {v : View}
  {first last : List Slot} {slot slot' : Slot}

theorem held_of_busy (sound : Sound b.view b.origins) (accounted : Accounted b)
    (member : slot ∈ b.view.slots p key) (busy : slot.isIdle = false) :
    slot.connection ∈ b.held.map Prod.snd := by
  cases state : slot.state with
  | idle => simp [Slot.isIdle,state] at busy
  | inUse => exact accounted.inUse p key slot member state
  | closed => exact absurd state (sound.opens p key slot member)

theorem tracked_le_held (sound : Sound b.view b.origins) (accounted : Accounted b)
    (busy : ∀ slot ∈ b.view.slots p key, slot.isIdle = false) :
    (b.view.slots p key).length ≤ (b.heldUnder p key).length := by
  have inside : (b.view.slots p key).map Slot.connection ⊆ b.heldUnder p key := by
    intro c present
    obtain ⟨slot,member,rfl⟩ := List.mem_map.mp present
    have recorded := sound.recorded p key slot member
    rw [View.marks,List.getElem?_map,Option.map_eq_some_iff] at recorded
    obtain ⟨badge,known,mark⟩ := recorded
    refine List.mem_filter.mpr ⟨held_of_busy sound accounted member (busy slot member),?_⟩
    obtain ⟨_,rfl⟩ := Prod.mk.inj mark
    simp [sound.owned p badge.key slot member,known]
  have bound := ((sound.distinct p key).subperm inside).length_le
  rwa [List.length_map] at bound

theorem length_put (split : v.slots p key = first ++ slot :: last) :
    ((v.put p key (first ++ slot' :: last)).slots q key').length = (v.slots q key').length := by
  unfold View.put
  dsimp only
  split
  · rename_i here
    rw [here.1,here.2,split,List.length_append,List.length_append]
    rfl
  · rfl

namespace View.Aged

theorem put (aged : v.Aged) (split : v.slots p key = first ++ slot :: last)
    (id : slot'.id = slot.id) (connection : slot'.connection = slot.connection) :
    (v.put p key (first ++ slot' :: last)).Aged := by
  intro q key'
  unfold View.put
  dsimp only
  split
  · have ordered := aged p key
    rw [split] at ordered
    simpa only [List.pairwise_append,List.pairwise_cons,List.forall_mem_cons,id,connection] using ordered
  · exact aged q key'

theorem opened {origins : List Nat} (aged : v.Aged) (sound : Sound v origins)
    (id : slot.id = v.lastId p + 1) (connection : slot.connection = v.badges.length) :
    (v.opened p key slot).Aged := by
  intro q key'
  unfold View.opened View.put
  dsimp only
  split
  · refine List.pairwise_append.mpr ⟨aged p key,List.pairwise_singleton _ _,?_⟩
    intro older present newer new
    obtain rfl := List.mem_singleton.mp new
    have number := sound.numbered (sound.owned p key older present) (sound.recorded p key older present)
    have place := sound.connection_lt present
    omega
  · exact aged q key'

theorem swept {kept : String → Slot → Bool} {v' : View} (aged : v.Aged) (swept : Swept kept p v v') :
    v'.Aged := by
  intro q key'
  rw [swept.slots]
  split
  · exact (aged q key').filter _
  · exact aged q key'

end View.Aged

end Tracked

namespace Turn

variable {δ η κ : Type} [DecidableEq κ] {b b' : Books κ} {op : Operation δ η κ}

theorem aged (turn : Turn b op b') (sound : Sound b.view b.origins) (before : b.view.Aged) :
    b'.view.Aged := by
  cases turn with
  | still _ => exact before
  | absent _ => exact before
  | reused expiresAt split _ => exact before.put split rfl rfl
  | opened id connection _ _ => exact before.opened sound id connection
  | swept _ swept => exact before.swept swept
  | checkin done =>
    cases done with
    | unknown _ => exact before
    | returned _ split _ => exact before.put split rfl rfl
    | orphaned _ _ => exact before

theorem tracked_le (turn : Turn b op b') (sound : Sound b'.view b'.origins) (accounted : Accounted b')
    (p : Nat) (key : String) : (b'.view.slots p key).length ≤
      max (b.view.slots p key).length (b'.heldUnder p key).length := by
  cases turn with
  | still _ => exact Nat.le_max_left _ _
  | absent _ => exact Nat.le_max_left _ _
  | reused expiresAt split _ => exact Nat.le_trans (Nat.le_of_eq (length_put split)) (Nat.le_max_left _ _)
  | @opened holder q spec slot id connection inUse busy =>
    by_cases here : p = q ∧ key = spec.key
    -- Everything tracked was held when the new one was opened, and that one is held as well.
    · obtain ⟨rfl,rfl⟩ := here
      refine Nat.le_trans (tracked_le_held sound accounted fun other present => ?_)
        (Nat.le_max_right _ _)
      rcases Sound.opened_cases present with old | ⟨_,_,rfl⟩
      · exact busy other old
      · simp [Slot.isIdle,inUse]
    · refine Nat.le_trans (Nat.le_of_eq ?_) (Nat.le_max_left _ _)
      simp only [View.opened,View.put,if_neg here]
  | swept _ swept =>
    refine Nat.le_trans ?_ (Nat.le_max_left _ _)
    rw [swept.slots]
    split
    · exact List.length_filter_le _ _
    · exact Nat.le_refl _
  | checkin done =>
    refine Nat.le_trans (Nat.le_of_eq ?_) (Nat.le_max_left _ _)
    cases done with
    | unknown _ => rfl
    | returned _ split _ => exact length_put split
    | orphaned _ _ => rfl

end Turn

namespace Usage

variable {δ η κ : Type}

-- What a pool answers that opens nothing without need: a new connection, or that none could be
-- opened, only while all that it tracks under the key is held; and else the oldest that waits.
def Frugal (u : Usage δ η κ) (p : Nat) (spec : Spec) : Except Error Nat → Prop
  | .ok c =>
      (u.pools.session? c = none ∧
        ∀ slot ∈ u.pools.slotsOf p spec.key, slot.connection ∈ u.held.map Prod.snd) ∨
      ∃ slot ∈ u.pools.slotsOf p spec.key, slot.state = .idle ∧ slot.connection = c ∧
        ∀ other ∈ u.pools.slotsOf p spec.key, other.state = .idle →
          slot.id ≤ other.id ∧ slot.connection ≤ other.connection
  | .error _ => ∀ slot ∈ u.pools.slotsOf p spec.key, slot.connection ∈ u.held.map Prod.snd

theorem Exact.frugal {u : Usage δ η κ} (exact : u.Exact) (aged : u.pools.view.Aged)
    (opener : Opener δ η) {p : Nat} (present : p < u.pools.pools.length) (spec : Spec) :
    u.Frugal p spec ((Pools.checkout opener p spec).runFrom u.pools).1 := by
  obtain ⟨outcome,ps,ran,_,_,done⟩ :=
    Pools.checkout_cases opener exact.ordered.registry present spec
  have allHeld (busy : ∀ slot ∈ u.pools.slotsOf p spec.key, slot.isIdle = false) :
      ∀ slot ∈ u.pools.slotsOf p spec.key, slot.connection ∈ u.held.map Prod.snd :=
    fun slot member => held_of_busy exact.ordered.sound exact.accounted member (busy slot member)
  rw [ran]
  generalize ps.view = v at done
  cases done with
  | failed _ busy => exact allHeld busy
  | @opened slot busy id connection state =>
    refine .inl ⟨?_,allHeld busy⟩
    have absent : u.pools.view.badges[slot.connection]? = none := by
      rw [connection]
      exact List.getElem?_eq_none (Nat.le_refl _)
    rwa [Pools.badges_view,Option.map_eq_none_iff] at absent
  | @reused before after slot expiresAt split idle first =>
    have slots : u.pools.slotsOf p spec.key = before ++ slot :: after := split
    have ordered := aged p spec.key
    rw [split,List.pairwise_append,List.pairwise_cons] at ordered
    obtain ⟨_,⟨newer,_⟩,_⟩ := ordered
    refine .inr ⟨slot,by rw [slots]; simp,idle,rfl,?_⟩
    intro other member waits
    rw [slots] at member
    rcases List.mem_append.mp member with earlier | later
    · have busy := first other earlier
      simp [Slot.isIdle,waits] at busy
    · rcases List.mem_cons.mp later with rfl | later
      · exact ⟨Nat.le_refl _,Nat.le_refl _⟩
      · exact ⟨Nat.le_of_lt (newer other later).1,Nat.le_of_lt (newer other later).2⟩

variable [DecidableEq κ]

theorem run_aged (opener : Opener δ η) {u : Usage δ η κ} (ordered : u.Ordered)
    (aged : u.pools.view.Aged) (ops : List (Operation δ η κ)) : (u.run opener ops).pools.view.Aged := by
  induction ops generalizing u with
  | nil => exact aged
  | cons op rest ih =>
    exact ih (step_ordered opener ordered op) ((step_turn opener ordered op).2.aged ordered.sound aged)

theorem held_le_peak (opener : Opener δ η) (u : Usage δ η κ) (ops : List (Operation δ η κ)) (p : Nat)
    (key : String) : (u.books.heldUnder p key).length ≤ u.peak opener p key ops := by
  cases ops with
  | nil => exact Nat.le_refl _
  | cons op rest => exact Nat.le_max_left _ _

theorem run_tracked_le (opener : Opener δ η) {u : Usage δ η κ} (exact : u.Exact)
    (ops : List (Operation δ η κ)) (proper : u.Along opener (fun b op _ => op.Proper b) ops)
    (p : Nat) (key : String) : ((u.run opener ops).pools.slotsOf p key).length ≤
      max (u.pools.slotsOf p key).length (u.peak opener p key ops) := by
  induction ops generalizing u with
  | nil => exact Nat.le_max_left _ _
  | cons op rest ih =>
    have next := exact.step opener proper.1
    have turn := (step_turn opener exact.ordered op).2
    have now : ((u.step opener op).pools.slotsOf p key).length ≤ max (u.pools.slotsOf p key).length
        ((u.step opener op).books.heldUnder p key).length :=
      turn.tracked_le next.ordered.sound next.accounted p key
    have later : (((u.step opener op).run opener rest).pools.slotsOf p key).length ≤ _ :=
      ih next proper.2
    have started := held_le_peak opener (u.step opener op) rest p key
    change (((u.step opener op).run opener rest).pools.slotsOf p key).length ≤ _
    rw [peak]
    omega

end Usage

-- Over any run of holders who give back what they hold to the pool that it came from: no pool ever
-- tracks more connections of a key than were held at the same time at some moment so far, a new one
-- is opened only while all that are tracked are held, and of those that wait the oldest goes out.
theorem pool_opens_only_as_needed {δ η κ : Type} [DecidableEq κ] (opener : Opener δ η) (shared : δ)
    (ops : List (Operation δ η κ))
    (proper : (Usage.start shared).Along opener (fun b op _ => op.Proper b) ops) :
    let u := (Usage.start shared).run opener ops
    (∀ p key, (u.pools.slotsOf p key).length ≤ (Usage.start shared).peak opener p key ops) ∧
    ∀ p spec, p < u.pools.pools.length →
      u.Frugal p spec ((Pools.checkout opener p spec).runFrom u.pools).1 := by
  intro u
  have start : (Usage.start shared : Usage δ η κ).Exact := Usage.start_exact shared
  have exact : u.Exact := Usage.run_exact opener start ops proper
  have empty (p : Nat) (key : String) :
      (Usage.start shared : Usage δ η κ).pools.slotsOf p key = [] :=
    Pools.slotsOf_unregistered (Pools.unregistered_start shared p key)
  have aged : u.pools.view.Aged := by
    refine Usage.run_aged opener start.ordered (fun p key => ?_) ops
    change ((Usage.start shared : Usage δ η κ).pools.slotsOf p key).Pairwise _
    rw [empty]
    exact .nil
  refine ⟨fun p key => ?_,fun p spec present => exact.frugal aged opener present spec⟩
  have bound := Usage.run_tracked_le opener start ops proper p key
  rwa [empty,List.length_nil,Nat.zero_max] at bound

-- One connection is out while its entry is forgotten, another goes to a sweep, a third and a fourth
-- come back in the other order: two are tracked, three were held at once, and the third goes out.
def rush : List (Operation Unit Unit String) :=
  [.checkout "ann" 0 (.new ":memory:"),.reclaimIdle 0 .all,.checkout "bob" 0 (.new ":memory:"),
    .checkout "cid" 0 (.new ":memory:"),.checkin "bob" 0 1,.elapse 7200000,.reclaimExpired 0,
    .checkout "dan" 0 (.new ":memory:"),.checkin "dan" 0 3,.checkin "cid" 0 2]

theorem pool_opens_only_as_needed_rush :
    (Usage.start ()).Along anyOpener (fun b op _ => op.Proper b) rush ∧
    (Usage.start ()).peak anyOpener 0 (Spec.new ":memory:").key rush = 3 ∧
    (((Usage.start ()).run anyOpener rush).pools.slotsOf 0 (Spec.new ":memory:").key).length ≤ 3 ∧
    ∃ ps, (Pools.checkout anyOpener 0 (.new ":memory:")).runFrom
        ((Usage.start ()).run anyOpener rush).pools = (.ok 2,ps) ∧
      2 ∉ ((Usage.start ()).run anyOpener rush).held.map Prod.snd := by
  have proper : (Usage.start ()).Along anyOpener (fun b op _ => op.Proper b) rush :=
    ⟨trivial,trivial,trivial,trivial,⟨by decide,by decide⟩,trivial,trivial,trivial,
      ⟨by decide,by decide⟩,⟨by decide,by decide⟩,trivial⟩
  have most : (Usage.start ()).peak anyOpener 0 (Spec.new ":memory:").key rush = 3 := by decide
  obtain ⟨tracked,_⟩ := pool_opens_only_as_needed anyOpener () rush proper
  have bound := tracked 0 (Spec.new ":memory:").key
  rw [most] at bound
  exact ⟨proper,most,bound,_,rfl,by decide⟩

end TypedRows
