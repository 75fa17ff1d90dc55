import TypedRows.Proofs.Pool.Soundness

namespace TypedRows

-- The pools of a process together with those who use them, step by step. A connection may be
-- checked in by anyone into any pool; `work` is whatever is done under the lock of one.

inductive Operation (δ η κ : Type) where
  | checkout (holder : κ) (p : Nat) (spec : Spec)
  | checkin (holder : κ) (p c : Nat)
  | reclaimIdle (p : Nat) (scope : ReclaimScope)
  | reclaimExpired (p : Nat)
  | addPool (options : PoolOptions)
  | resetCurrent
  | elapse (time : Nat)
  | work (c depth sequence : Nat) (poisoned : Bool) (handle : η) (shared : δ)

def Operation.isCheckin {δ η κ : Type} : Operation δ η κ → Bool
  | .checkin .. => true
  | _ => false

-- `origins` tells for each connection which pool opened it, `held` who holds what.
structure Usage (δ η κ : Type) where
  pools : Pools δ η
  origins : List Nat
  held : List (κ × Nat)

def Connection.worked {η : Type} (depth sequence : Nat) (poisoned : Bool) (handle : η)
    (connection : Connection η) : Connection η :=
  ⟨{connection.session with depth := depth, sequence := sequence, poisoned := poisoned},handle⟩

namespace Usage

def start {δ η κ : Type} (shared : δ) : Usage δ η κ :=
  { pools := .start shared, origins := [], held := [] }

variable {δ η κ : Type} [DecidableEq κ]

def step (opener : Opener δ η) (u : Usage δ η κ) : Operation δ η κ → Usage δ η κ
  | .checkout holder p spec =>
      if p < u.pools.pools.length then
        match (Pools.checkout opener p spec).runFrom u.pools with
        | (.ok c,ps) =>
            { pools := ps
              origins := if c < u.origins.length then u.origins else u.origins ++ [p]
              held := (holder,c) :: u.held }
        | (.error _,ps) => {u with pools := ps}
      else u
  | .checkin holder p c =>
      if p < u.pools.pools.length then
        {u with pools := (u.pools.checkin p c).2, held := u.held.erase (holder,c)}
      else u
  | .reclaimIdle p scope =>
      if p < u.pools.pools.length then {u with pools := (u.pools.reclaimIdle p scope).2} else u
  | .reclaimExpired p => {u with pools := (u.pools.reclaimExpired p).2}
  | .addPool options => {u with pools := (u.pools.addPool options).2}
  | .resetCurrent => {u with pools := u.pools.resetCurrent}
  | .elapse time => {u with pools := {u.pools with clock := u.pools.clock + time}}
  | .work c depth sequence poisoned handle shared => {u with pools := {u.pools with
      shared
      connections :=
        u.pools.connections.modify c (Connection.worked depth sequence poisoned handle) }}

def run (opener : Opener δ η) (u : Usage δ η κ) (ops : List (Operation δ η κ)) : Usage δ η κ :=
  ops.foldl (step opener) u

end Usage

structure Books (κ : Type) where
  view : View
  origins : List Nat
  held : List (κ × Nat)

def Usage.books {δ η κ : Type} (u : Usage δ η κ) : Books κ := ⟨u.pools.view,u.origins,u.held⟩

inductive Turn {δ η κ : Type} [DecidableEq κ] (b : Books κ) : Operation δ η κ → Books κ → Prop where
  | still {op : Operation δ η κ} : op.isCheckin = false → Turn b op b
  | reused {holder : κ} {p : Nat} {spec : Spec} {before after : List Slot} {slot : Slot}
      (expiresAt : Nat) : b.view.slots p spec.key = before ++ slot :: after → slot.state = .idle →
      Turn b (.checkout holder p spec)
        ⟨b.view.put p spec.key (before ++ {slot with state := .inUse, expiresAt := expiresAt} :: after),
          b.origins,(holder,slot.connection) :: b.held⟩
  | opened {holder : κ} {p : Nat} {spec : Spec} {slot : Slot} : slot.id = b.view.lastId p + 1 →
      slot.connection = b.view.badges.length → slot.state = .inUse →
      (∀ other ∈ b.view.slots p spec.key, other.isIdle = false) →
      Turn b (.checkout holder p spec)
        ⟨b.view.opened p spec.key slot,b.origins ++ [p],(holder,slot.connection) :: b.held⟩
  | absent {holder : κ} {p c : Nat} : (∀ key, b.view.slots p key = []) →
      Turn b (.checkin holder p c) b
  | checkin {holder : κ} {p c : Nat} {outcome : CheckinOutcome} {v : View} :
      Pools.CheckedIn b.view p c outcome v →
      Turn b (.checkin holder p c) ⟨v,b.origins,b.held.erase (holder,c)⟩
  | swept {op : Operation δ η κ} {p : Nat} {kept : String → Slot → Bool} {v : View} :
      op.isCheckin = false → Swept kept p b.view v →
      Turn b op ⟨v,b.origins,b.held⟩

structure Usage.Ordered {δ η κ : Type} (u : Usage δ η κ) : Prop where
  registry : u.pools.Registry
  sound : Sound u.pools.view u.origins

theorem Pools.unregistered_start {δ η : Type} (shared : δ) (q : Nat) (key : String) :
    ((Pools.start shared : Pools δ η).pool q).entryOf? key = none := by
  cases q <;> rfl

theorem Pools.view_start {δ η : Type} (shared : δ) :
    (Pools.start shared : Pools δ η).view = ⟨fun _ _ => [],fun _ => 0,[]⟩ := by
  refine View.ext (funext fun q => funext fun key => ?_) (funext fun q => ?_) rfl
  · exact slotsOf_unregistered (unregistered_start shared q key)
  · cases q <;> rfl

theorem Usage.start_ordered {δ η κ : Type} (shared : δ) :
    (Usage.start shared : Usage δ η κ).Ordered where
  registry := by
    refine ⟨fun q => ?_,fun {q key e} found => ?_,fun {q q' key key' e} found _ => ?_⟩
    · cases q <;> exact List.nodup_nil
    · rw [Usage.start,Pools.unregistered_start] at found
      cases found
    · rw [Usage.start,Pools.unregistered_start] at found
      cases found
  sound := by
    rw [Usage.start,Pools.view_start]
    exact .start

namespace Turn

variable {δ η κ : Type} [DecidableEq κ] {b b' : Books κ} {op : Operation δ η κ}

theorem marks_of_closes {gone : Nat → Prop} {v v' : View} (closes : Closes gone v.badges v'.badges) :
    v'.marks = v.marks := by
  refine List.ext_getElem? fun c => ?_
  rw [View.marks,View.marks,List.getElem?_map,List.getElem?_map]
  by_cases inside : gone c
  · rw [(closes c).1 inside]
    cases v.badges[c]? <;> rfl
  · rw [(closes c).2 inside]

theorem sound (turn : Turn b op b') (before : Sound b.view b.origins) : Sound b'.view b'.origins := by
  cases turn with
  | still _ => exact before
  | reused expiresAt split idle => exact before.put split rfl rfl (by simp)
  | opened id connection state => exact before.opened id connection state
  | absent _ => exact before
  | checkin done =>
    cases done with
    | unknown _ => exact before
    | returned known split same => exact before.put split rfl rfl (by simp)
    | orphaned known others =>
      exact before.fewer (fun p key => List.Sublist.refl _) rfl
        (marks_of_closes (.one _ b.view.badges))
  | swept other swept =>
    refine before.fewer (fun q key => ?_) swept.lastId (marks_of_closes swept.badges)
    rw [swept.slots]
    split
    · exact List.filter_sublist
    · exact List.Sublist.refl _

end Turn

namespace Usage

variable {δ η κ : Type} [DecidableEq κ]

theorem checkout_turn (opener : Opener δ η) {u : Usage δ η κ} (ordered : u.Ordered) (holder : κ)
    {p : Nat} (present : p < u.pools.pools.length) (spec : Spec) :
    (u.step opener (.checkout holder p spec)).pools.Registry ∧
      Turn u.books (.checkout holder p spec : Operation δ η κ)
        (u.step opener (.checkout holder p spec)).books := by
  obtain ⟨outcome,ps,ran,registry,_,done⟩ := Pools.checkout_cases opener ordered.registry present spec
  have long : u.origins.length = u.pools.view.badges.length := by
    rw [ordered.sound.length,View.marks,List.length_map]
  rw [step,if_pos present,ran]
  rw [books,books]
  generalize view : ps.view = v at done
  cases done with
  | failed =>
    refine ⟨registry,?_⟩
    dsimp only
    rw [view]
    exact .still rfl
  | @reused before after slot expiresAt split idle =>
    have member : slot ∈ u.pools.view.slots p spec.key := by rw [split]; simp
    have known := (List.getElem?_eq_some_iff.mp (ordered.sound.owned p spec.key _ member)).1
    refine ⟨registry,?_⟩
    dsimp only
    rw [view,if_pos known]
    exact .reused expiresAt split idle
  | opened busy id connection state =>
    refine ⟨registry,?_⟩
    dsimp only
    rw [view,if_neg (by omega)]
    exact .opened id connection state busy

theorem step_turn (opener : Opener δ η) {u : Usage δ η κ} (ordered : u.Ordered)
    (op : Operation δ η κ) :
    (u.step opener op).pools.Registry ∧ Turn u.books op (u.step opener op).books := by
  have alike : ∀ {ps : Pools δ η} {op : Operation δ η κ}, op.isCheckin = false →
      (∀ q, (ps.pool q).entries = (u.pools.pool q).entries ∧
        (ps.pool q).lastId = (u.pools.pool q).lastId) →
      ps.entries = u.pools.entries → ps.view.badges = u.pools.view.badges →
      ps.Registry ∧ Turn u.books op ({u with pools := ps} : Usage δ η κ).books := by
    intro ps op other pools entries badges
    obtain ⟨registry,view⟩ := Pools.view_alike ordered.registry pools entries badges
    refine ⟨registry,?_⟩
    rw [books,books]
    dsimp only
    rw [view]
    exact .still other
  cases op with
  | checkout holder p spec =>
    by_cases present : p < u.pools.pools.length
    · exact checkout_turn opener ordered holder present spec
    · rw [step,if_neg present]
      exact ⟨ordered.registry,.still rfl⟩
  | checkin holder p c =>
    by_cases present : p < u.pools.pools.length
    · obtain ⟨outcome,ps,ran,registry,_,done⟩ :=
        Pools.checkin_cases ordered.registry (ordered.sound.opens p) c
      rw [step,if_pos present,ran]
      exact ⟨registry,.checkin done⟩
    · rw [step,if_neg present]
      refine ⟨ordered.registry,.absent fun key => ?_⟩
      exact Pools.slotsOf_unregistered (by rw [Pools.pool_absent (Nat.not_lt.mp present)]; rfl)
  | reclaimIdle p scope =>
    by_cases present : p < u.pools.pools.length
    · obtain ⟨registry,_,swept⟩ := Pools.reclaimIdle_cases ordered.registry present scope
      rw [step,if_pos present]
      exact ⟨registry,.swept rfl swept⟩
    · rw [step,if_neg present]
      exact ⟨ordered.registry,.still rfl⟩
  | reclaimExpired p =>
    obtain ⟨registry,_,swept⟩ := Pools.reclaimExpired_cases (p := p) ordered.registry
    exact ⟨registry,.swept rfl swept⟩
  | addPool options =>
    exact alike rfl (Pools.pool_addPool options u.pools) rfl rfl
  | resetCurrent =>
    exact alike rfl (Pools.pool_addPool .default u.pools) rfl rfl
  | elapse time =>
    exact alike rfl (fun q => ⟨rfl,rfl⟩) rfl rfl
  | work c depth sequence poisoned handle shared =>
    refine alike rfl (fun q => ⟨rfl,rfl⟩) rfl (List.ext_getElem? fun n => ?_)
    change ((u.pools.connections.modify c _).map _)[n]? = (u.pools.connections.map _)[n]?
    rw [List.getElem?_map,List.getElem?_modify,List.getElem?_map]
    cases u.pools.connections[n]? with
    | none => rfl
    | some connection =>
      by_cases here : c = n
      · simp only [here,if_true]
        rfl
      · simp only [here,if_false]
        rfl

theorem step_ordered (opener : Opener δ η) {u : Usage δ η κ} (ordered : u.Ordered)
    (op : Operation δ η κ) : (u.step opener op).Ordered := by
  obtain ⟨registry,turn⟩ := step_turn opener ordered op
  exact ⟨registry,turn.sound ordered.sound⟩

def Along (opener : Opener δ η) (P : Books κ → Operation δ η κ → Books κ → Prop) :
    Usage δ η κ → List (Operation δ η κ) → Prop
  | _,[] => True
  | u,op :: rest => P u.books op (u.step opener op).books ∧ Along opener P (u.step opener op) rest

end Usage

end TypedRows
