import TypedRows.Proofs.Pool.Tracked

namespace TypedRows

-- Holders may also close what they hold. When the pools keep handing out open connections.

inductive Handling (δ η κ : Type) where
  | pool (op : Operation δ η κ)
  | close (holder : κ) (c : Nat)

namespace Usage

variable {δ η κ : Type} {u : Usage δ η κ}

structure Trustworthy (opener : Opener δ η) (u : Usage δ η κ) : Prop where
  checkout : ∀ p spec c ps, p < u.pools.pools.length →
    (Pools.checkout opener p spec).runFrom u.pools = (.ok c,ps) →
    ∃ session, ps.session? c = some session ∧ session.lock = .ok ()
  checkin : ∀ p c session ps, p < u.pools.pools.length → u.pools.session? c = some session →
    u.pools.checkin p c = (.returned,ps) →
    ∀ slot ∈ ps.slotsOf p session.key, slot.id = session.id → slot.state = .idle →
    ∃ recorded, ps.session? slot.connection = some recorded ∧ recorded.closed = false

-- Nothing is closed that a pool still tracks: neither by hand, nor because it came back to a pool
-- that does not know it.
def Spares (u : Usage δ η κ) : Handling δ η κ → Prop
  | .pool (.checkin _ p c) => p < u.pools.pools.length →
      (u.pools.checkin p c).1 = .closedOrphan → ¬ u.pools.view.Tracks c
  | .close holder c => (holder,c) ∈ u.held → ¬ u.pools.view.Tracks c
  | _ => True

theorem trustworthy_of_live (opener : Opener δ η) (ordered : u.Ordered) (live : u.pools.view.Live) :
    u.Trustworthy opener where
  checkout p spec c ps present handed := by
    obtain ⟨outcome,ps',ran,_,_,done⟩ := Pools.checkout_cases opener ordered.registry present spec
    rw [handed] at ran
    obtain ⟨rfl,rfl⟩ := Prod.mk.inj ran
    obtain ⟨session,found,_,isOpen⟩ := done.session ordered.sound live
    exact ⟨session,found,Session.lock_open isOpen⟩
  checkin p c session ps present known returned slot member _ _ := by
    obtain ⟨outcome,ps',ran,_,_,done⟩ :=
      Pools.checkin_cases ordered.registry (ordered.sound.opens p) c
    rw [returned] at ran
    obtain ⟨rfl,rfl⟩ := Prod.mk.inj ran
    have after : Sound ps.view u.origins ∧ ps.view.Live := by
      generalize ps.view = v at done
      cases done with
      | returned _ split _ =>
        exact ⟨ordered.sound.put split rfl rfl (by simp),live.put ordered.sound split rfl⟩
    obtain ⟨recorded,found,_,_,isOpen⟩ := Pools.session_of_slot after.1 after.2 member
    exact ⟨recorded,found,isOpen⟩

-- A closed connection that a pool tracks could be brought back to it next.
theorem Trustworthy.live {opener : Opener δ η} (trusted : u.Trustworthy opener)
    (ordered : u.Ordered) : u.pools.view.Live := by
  intro p key slot member badge known
  have home := ordered.sound.owned p key slot member
  obtain ⟨number,rfl⟩ : badge.id = slot.id ∧ badge.key = key := by
    have recorded := ordered.sound.recorded p key slot member
    rw [Turn.mark_of_badge known] at recorded
    exact Prod.mk.inj (Option.some.inj recorded)
  obtain ⟨session,found,rfl⟩ := Pools.session_of_badge known
  obtain ⟨outcome,ps,ran,_,_,done⟩ :=
    Pools.checkin_cases ordered.registry (ordered.sound.opens p) slot.connection
  have trust := trusted.checkin p slot.connection session ps (Pools.present_of_slot member) found
  generalize view : ps.view = v at done
  cases done with
  | unknown absent => cases absent.symm.trans known
  | orphaned known' others =>
    cases known'.symm.trans known
    exact absurd number.symm (others slot member)
  | @returned badge first last other known' split same =>
    cases known'.symm.trans known
    have own : other.connection = slot.connection :=
      own_of_number ordered.sound home known (by rw [split]; simp) same
    have idle : {other with state := .idle} ∈ ps.view.slots p session.badge.key := by
      rw [view,View.put_slots]
      simp
    obtain ⟨recorded,there,isOpen⟩ := trust ran _ idle same rfl
    have kept : (ps.session? slot.connection).map Session.badge = some session.badge := by
      rw [← Pools.badges_view,view]
      exact known
    rw [← own,there] at kept
    exact (congrArg Badge.closed (Option.some.inj kept)).symm.trans isOpen

theorem close_ordered (ordered : u.Ordered) (c : Nat) :
    ({u with pools := u.pools.close c} : Usage δ η κ).Ordered where
  registry := ordered.registry.close c
  sound := by
    dsimp only
    rw [Pools.view_close]
    exact ordered.sound.fewer (fun p key => List.Sublist.refl _) rfl
      (Turn.marks_of_closes (.one _ u.pools.view.badges))

theorem live_close_iff (ordered : u.Ordered) (live : u.pools.view.Live) (c : Nat) :
    (u.pools.view.close c).Live ↔ ¬ u.pools.view.Tracks c := by
  constructor
  · intro after tracked
    obtain ⟨p,key,slot,member,rfl⟩ := tracked
    have known := List.getElem?_eq_getElem (ordered.sound.connection_lt member)
    cases after p key slot member _ (badges_close known)
  · exact live.close

variable [DecidableEq κ]

def handle (opener : Opener δ η) (u : Usage δ η κ) : Handling δ η κ → Usage δ η κ
  | .pool op => u.step opener op
  | .close holder c => if (holder,c) ∈ u.held then {u with pools := u.pools.close c} else u

def Throughout (opener : Opener δ η) (P : Usage δ η κ → Prop) :
    Usage δ η κ → List (Handling δ η κ) → Prop
  | u,[] => P u
  | u,next :: rest => P u ∧ Throughout opener P (u.handle opener next) rest

def Always (opener : Opener δ η) (P : Usage δ η κ → Handling δ η κ → Prop) :
    Usage δ η κ → List (Handling δ η κ) → Prop
  | _,[] => True
  | u,next :: rest => P u next ∧ Always opener P (u.handle opener next) rest

theorem Throughout.first {opener : Opener δ η} {P : Usage δ η κ → Prop} {rest : List (Handling δ η κ)}
    (throughout : u.Throughout opener P rest) : P u := by
  cases rest with
  | nil => exact throughout
  | cons next rest => exact throughout.1

theorem handle_ordered (opener : Opener δ η) (ordered : u.Ordered) (next : Handling δ η κ) :
    (u.handle opener next).Ordered := by
  cases next with
  | pool op => exact step_ordered opener ordered op
  | close holder c =>
    rw [handle]
    split
    · exact close_ordered ordered c
    · exact ordered

theorem checkin_live_iff (opener : Opener δ η) (ordered : u.Ordered) (live : u.pools.view.Live)
    (holder : κ) (p c : Nat) :
    (u.step opener (.checkin holder p c)).pools.view.Live ↔ u.Spares (.pool (.checkin holder p c)) := by
  rw [step]
  by_cases present : p < u.pools.pools.length
  · obtain ⟨outcome,ps,ran,_,_,done⟩ :=
      Pools.checkin_cases ordered.registry (ordered.sound.opens p) c
    rw [if_pos present,Spares,ran]
    dsimp only
    generalize ps.view = v at done
    cases done with
    | unknown absent =>
      refine iff_of_true live fun _ _ tracked => ?_
      obtain ⟨q,key,slot,member,rfl⟩ := tracked
      have bound := ordered.sound.connection_lt member
      rw [List.getElem?_eq_getElem bound] at absent
      cases absent
    | returned _ split _ => exact iff_of_true (live.put ordered.sound split rfl) fun _ no => by cases no
    | orphaned _ _ => simp [live_close_iff ordered live,present]
  · rw [if_neg present]
    exact iff_of_true live fun no => absurd no present

theorem handle_live_iff (opener : Opener δ η) (ordered : u.Ordered) (live : u.pools.view.Live)
    (next : Handling δ η κ) : (u.handle opener next).pools.view.Live ↔ u.Spares next := by
  cases next with
  | close holder c =>
    rw [handle,Spares]
    by_cases holds : (holder,c) ∈ u.held
    · simp [holds,Pools.view_close,live_close_iff ordered live]
    · rw [if_neg holds]
      exact iff_of_true live fun no => absurd no holds
  | pool op =>
    have turn := (step_turn opener ordered op).2
    cases op with
    | checkin holder p c => exact checkin_live_iff opener ordered live holder p c
    | _ => exact iff_of_true (turn.live ordered.sound live trivial) trivial

end Usage

section Runs

variable {δ η κ : Type} [DecidableEq κ]

theorem throughout_iff (opener : Opener δ η) {u : Usage δ η κ} (ordered : u.Ordered)
    (live : u.pools.view.Live) (run : List (Handling δ η κ)) :
    u.Throughout opener (Usage.Trustworthy opener) run ↔ u.Always opener Usage.Spares run := by
  induction run generalizing u with
  | nil => exact iff_of_true (Usage.trustworthy_of_live opener ordered live) trivial
  | cons next rest ih =>
    have ordered' := Usage.handle_ordered opener ordered next
    have step := Usage.handle_live_iff opener ordered live next
    constructor
    · intro throughout
      have live' := throughout.2.first.live ordered'
      exact ⟨step.mp live',(ih ordered' live').mp throughout.2⟩
    · intro always
      exact ⟨Usage.trustworthy_of_live opener ordered live,
        (ih ordered' (step.mpr always.1)).mpr always.2⟩

-- Over any run of any number of pools and holders, whatever comes next hands out and records open
-- connections only exactly if no step so far closed a connection that a pool still tracks.
theorem open_connections_iff_spared (opener : Opener δ η) (shared : δ) (run : List (Handling δ η κ)) :
    (Usage.start shared).Throughout opener (Usage.Trustworthy opener) run ↔
      (Usage.start shared).Always opener Usage.Spares run := by
  refine throughout_iff opener (Usage.start_ordered shared) ?_ run
  rw [Usage.start,Pools.view_start]
  exact View.live_start

end Runs

-- A connection is closed by its holder and given back; it is recorded as idle and handed out again.
theorem closed_connection_handed_out :
    ¬ ∀ run : List (Handling Unit Unit String),
      (Usage.start ()).Throughout anyOpener (Usage.Trustworthy anyOpener) run := by
  intro trusted
  obtain ⟨_,_,_,last⟩ := trusted [.pool (.checkout "ann" 0 (.new ":memory:")),.close "ann" 0,
    .pool (.checkin "ann" 0 0)]
  obtain ⟨session,found,unlocked⟩ := last.checkout 0 (.new ":memory:") 0 _ (by decide) rfl
  cases found
  cases unlocked

end TypedRows
