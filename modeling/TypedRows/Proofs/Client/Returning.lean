import TypedRows.Proofs.Client.Footing
import TypedRows.Proofs.Client.Tasks
import TypedRows.Proofs.Pool.Tracked

namespace TypedRows

-- Tasks of one client on a pool of its own, one after the other. Each of them gives back what it
-- takes, whatever it comes to, so that one connection serves them all.

def View.Only (v : View) (p : Nat) (key : String) (slots : List Slot) : Prop :=
  ∀ k, v.slots p k = if k = key then slots else []

namespace View.Only

variable {v : View} {p : Nat} {key : String} {slots : List Slot}

theorem own (only : v.Only p key slots) : v.slots p key = slots := (only key).trans (if_pos rfl)

theorem mem (only : v.Only p key slots) {k : String} {slot : Slot} (member : slot ∈ v.slots p k) :
    slot ∈ slots := by
  rw [only] at member
  split at member
  · exact member
  · cases member

theorem put (only : v.Only p key slots) (slots' : List Slot) :
    (v.put p key slots').Only p key slots' := by
  intro k
  unfold View.put
  dsimp only
  by_cases same : k = key
  · rw [if_pos ⟨rfl,same⟩,if_pos same]
  · rw [if_neg (fun both => same both.2),only k,if_neg same,if_neg same]

theorem opened (only : v.Only p key []) (slot : Slot) : (v.opened p key slot).Only p key [slot] := by
  intro k
  rw [View.opened,only.own]
  exact only.put [slot] k

end View.Only

theorem split_single {slot other : Slot} {before after : List Slot}
    (split : [slot] = before ++ other :: after) : before = [] ∧ slot = other ∧ after = [] := by
  cases before with
  | nil =>
    cases split
    exact ⟨rfl,rfl,rfl⟩
  | cons first rest =>
    have length := congrArg List.length split
    simp at length

namespace Pools

variable {δ η : Type}

def elapse (time : Nat) (ps : Pools δ η) : Pools δ η := {ps with clock := ps.clock + time}

structure Untouched (client : Client) (base : Nat) (ps : Pools δ η) : Prop where
  registry : ps.Registry
  present : client.pool < ps.pools.length
  length : ps.connections.length = base
  tracked : ps.view.Only client.pool client.spec.key []

structure Single (client : Client) (base : Nat) (state : SlotState) (l : Locked (δ × η))
    (ps : Pools δ η) : Prop where
  registry : ps.Registry
  present : client.pool < ps.pools.length
  length : ps.connections.length = base + 1
  found : ps.locked? base = some l
  tracked : ∃ slot : Slot, slot.connection = base ∧ slot.state = state ∧
    l.badge = ⟨slot.id,client.spec.key,false⟩ ∧ ps.view.Only client.pool client.spec.key [slot]

def AtRest (client : Client) (base : Nat) : Option (Locked (δ × η)) → Pools δ η → Prop
  | none => Untouched client base
  | some l => Single client base .idle l

section

variable {client : Client} {base : Nat} {state : SlotState} {l l' : Locked (δ × η)}
  {known : Option (Locked (δ × η))} {ps ps' : Pools δ η}

theorem badge_of_locked (found : ps.locked? base = some l) : ps.view.badges[base]? = some l.badge := by
  obtain ⟨connection,present,rfl⟩ := Option.map_eq_some_iff.mp found
  rw [badges_view,session?,present]
  rfl

theorem length_badges : ps.view.badges.length = ps.connections.length := List.length_map _

theorem checkin_alike {p c : Nat} (returned : (ps.checkin p c).1 = .returned) :
    Alike ps (ps.checkin p c).2 := by
  unfold checkin at *
  cases known : ps.session? c with
  | none =>
    rw [known] at returned
    cases returned
  | some session =>
    rw [known] at returned
    have alike := alike_giveBack p session ps
    dsimp only at *
    rcases gave : ps.giveBack p session with ⟨found,ps1⟩
    rw [gave] at returned alike
    cases found with
    | false => cases returned
    | true => exact alike

namespace Single

theorem unlocked (single : ps.Single client base state l) : l.session.lock = .ok () := by
  obtain ⟨slot,_,_,badge,_⟩ := single.tracked
  exact Session.lock_open (congrArg Badge.closed badge)

theorem elapse (single : ps.Single client base state l) (time : Nat) :
    (ps.elapse time).Single client base state l where
  registry := ⟨single.registry.keys,single.registry.valid,single.registry.once⟩
  present := single.present
  length := single.length
  found := single.found
  tracked := single.tracked

theorem put (single : ps.Single client base state l) (badge : l'.badge = l.badge) :
    (ps.put base l').Single client base state l' where
  registry := ⟨single.registry.keys,single.registry.valid,single.registry.once⟩
  present := single.present
  length := by
    rw [← single.length]
    exact List.length_set
  found := locked_put single.found l'
  tracked := by
    rw [badge]
    exact single.tracked

theorem alike {state' : SlotState} (single : ps.Single client base state l) (slot' : Slot)
    (alike : Alike ps ps') (registry : ps'.Registry) (length : ps'.pools.length = ps.pools.length)
    (here : slot'.connection = base) (changed : slot'.state = state')
    (badge : l.badge = ⟨slot'.id,client.spec.key,false⟩)
    (only : ps'.view.Only client.pool client.spec.key [slot']) :
    ps'.Single client base state' l where
  registry := registry
  present := by
    rw [length]
    exact single.present
  length := by rw [alike.connections,single.length]
  found := by
    rw [alike.locked]
    exact single.found
  tracked := ⟨slot',here,changed,badge,only⟩

theorem checkout (opener : Opener δ η) (single : ps.Single client base .idle l) : ∃ ps',
    (Pools.checkout opener client.pool client.spec).runFrom ps = (.ok base,ps') ∧
    ps'.Single client base .inUse l := by
  obtain ⟨slot,here,idle,badge,only⟩ := single.tracked
  obtain ⟨outcome,ps',ran,registry,length,done⟩ :=
    checkout_cases opener single.registry single.present client.spec
  have notBusy : ¬ ∀ other ∈ ps.view.slots client.pool client.spec.key, other.isIdle = false := by
    intro busy
    have inUse := busy slot (by rw [only.own]; exact List.mem_singleton_self slot)
    simp [Slot.isIdle,idle] at inUse
  generalize view : ps'.view = v at done
  cases done with
  | failed _ busy => exact absurd busy notBusy
  | opened busy _ _ _ => exact absurd busy notBusy
  | @reused before after other expiresAt split _ =>
    obtain ⟨rfl,rfl,rfl⟩ := split_single (only.own.symm.trans split)
    have lasting : ps'.connections.length = ps.connections.length := by
      rw [← length_badges,view,← length_badges]
      rfl
    have alike : Alike ps ps' := by
      have handed := checkout_handed opener client.pool client.spec ps
      rw [ran] at handed
      cases handed with
      | same alike => exact alike
      | opened id _ _ after =>
        rw [after.connections,appended] at lasting
        simp at lasting
    refine ⟨ps',by rw [ran,here],single.alike {slot with state := .inUse, expiresAt := expiresAt}
      alike registry length here rfl badge ?_⟩
    rw [view]
    exact only.put _

theorem checkin (single : ps.Single client base .inUse l) :
    (ps.checkin client.pool base).2.Single client base .idle l := by
  obtain ⟨slot,here,inUse,badge,only⟩ := single.tracked
  have known := badge_of_locked single.found
  rw [badge] at known
  have opens : ∀ key, ∀ other ∈ ps.slotsOf client.pool key, other.state ≠ .closed := by
    intro key other member
    rw [List.mem_singleton.mp (only.mem member),inUse]
    simp
  obtain ⟨outcome,ps',ran,registry,length,done⟩ := checkin_cases single.registry opens base
  rw [ran]
  generalize view : ps'.view = v at done
  cases done with
  | unknown absent =>
    rw [known] at absent
    cases absent
  | orphaned present others =>
    cases known.symm.trans present
    exact absurd rfl (others slot (by rw [only.own]; exact List.mem_singleton_self slot))
  | returned present split _ =>
    cases known.symm.trans present
    obtain ⟨rfl,rfl,rfl⟩ := split_single (only.own.symm.trans split)
    have alike : Alike ps (ps.checkin client.pool base).2 := checkin_alike (by rw [ran])
    rw [ran] at alike
    refine single.alike {slot with state := .idle} alike registry length here rfl badge ?_
    rw [view]
    exact only.put _

end Single

theorem Untouched.checkout (opener : Opener δ η) (untouched : ps.Untouched client base) :
    ∃ outcome ps',
    (Pools.checkout opener client.pool client.spec).runFrom ps = (outcome,ps') ∧
    ((∃ e, outcome = .error e ∧ ps'.Untouched client base) ∨
      ∃ l, outcome = .ok base ∧ ps'.Single client base .inUse l) := by
  obtain ⟨outcome,ps',ran,registry,length,done⟩ :=
    checkout_cases opener untouched.registry untouched.present client.spec
  have only := untouched.tracked
  have handed := checkout_handed opener client.pool client.spec ps
  rw [ran] at handed
  have present : client.pool < ps'.pools.length := by rw [length]; exact untouched.present
  refine ⟨outcome,ps',ran,?_⟩
  generalize view : ps'.view = v at done
  cases done with
  | failed =>
    -- A handle that was opened and dropped again is no connection either.
    refine .inl ⟨_,rfl,registry,present,?_,?_⟩
    · rw [← untouched.length]
      cases handed with
      | same alike => rw [alike.connections]
      | dropped connections => rw [connections]
    · rw [view]
      exact only
  | reused expiresAt split _ =>
    rw [only.own] at split
    simp at split
  | @opened slot busy id connection inUse =>
    have longer : ps'.connections.length = ps.connections.length + 1 := by
      rw [← length_badges,view,← length_badges]
      exact List.length_append
    cases handed with
    | same alike =>
      rw [alike.connections] at longer
      omega
    | opened number _ _ after =>
      have found := after.locked_last
      have marked : (ps.view.opened client.pool client.spec.key slot).badges[ps.connections.length]? =
          some ⟨slot.id,client.spec.key,false⟩ := by
        rw [← length_badges]
        exact List.getElem?_concat_length
      have badge := badge_of_locked found
      rw [view,marked] at badge
      rw [length_badges] at connection
      rw [untouched.length] at longer found connection
      refine .inr ⟨_,by rw [connection],registry,present,longer,found,slot,connection,inUse,
        (Option.some.inj badge).symm,?_⟩
      rw [view]
      exact only.opened slot

theorem AtRest.checkout (opener : Opener δ η) (rest : ps.AtRest client base known) :
    ∃ outcome ps',
    (Pools.checkout opener client.pool client.spec).runFrom ps = (outcome,ps') ∧
    ((∃ e, outcome = .error e ∧ known = none ∧ ps'.AtRest client base none) ∨
      ∃ l, outcome = .ok base ∧ (∀ l0, known = some l0 → l0 = l) ∧ ps'.Single client base .inUse l) := by
  cases known with
  | none =>
    obtain ⟨outcome,ps',ran,cases⟩ := Untouched.checkout opener rest
    refine ⟨outcome,ps',ran,?_⟩
    rcases cases with ⟨e,failed,still⟩ | ⟨l,handed,single⟩
    · exact .inl ⟨e,failed,rfl,still⟩
    · exact .inr ⟨l,handed,fun _ absurd => (by cases absurd),single⟩
  | some l =>
    obtain ⟨ps',ran,single⟩ := Single.checkout opener rest
    exact ⟨_,ps',ran,.inr ⟨l,rfl,fun _ same => (Option.some.inj same).symm,single⟩⟩

theorem AtRest.elapse (rest : ps.AtRest client base known) (time : Nat) :
    (ps.elapse time).AtRest client base known := by
  cases known with
  | none =>
    exact ⟨⟨rest.registry.keys,rest.registry.valid,rest.registry.once⟩,rest.present,rest.length,
      rest.tracked⟩
  | some l => exact Single.elapse rest time

theorem AtRest.returned (rest : ps.AtRest client base known) :
    (∀ key, ∀ slot ∈ ps.slotsOf client.pool key, slot.state = .idle) ∧
    ps.connections.length ≤ base + 1 := by
  cases known with
  | none =>
    refine ⟨fun key slot member => ?_,Nat.le_succ_of_le (Nat.le_of_eq rest.length)⟩
    cases rest.tracked.mem member
  | some l =>
    obtain ⟨slot,_,idle,_,only⟩ := rest.tracked
    refine ⟨fun key other member => ?_,Nat.le_of_eq rest.length⟩
    rw [List.mem_singleton.mp (only.mem member)]
    exact idle

end

end Pools

namespace Client

variable {δ η : Type} (opener : Opener δ η) (client : Client)

-- A call that does no work: its answer and what it leaves are the same for any work.
def Declines (token : Cancellation) (ps : Pools δ η) (e : Error) (ps' : Pools δ η) : Prop :=
  ∀ (ρ : Type) (action : Action (Locked (δ × η)) ρ),
    (client.runCancellable opener token action).runFrom ps = (.error e,ps')

variable {opener client} {base : Nat} {known : Option (Locked (δ × η))} {ps : Pools δ η}

theorem proceeds_of_ne {token : Cancellation} (proceeds : token ≠ .atStart) :
    ¬ token.firedAtStart = true := by
  cases token <;> simp [Cancellation.firedAtStart] at *

theorem runCancellable_failed {token : Cancellation} {e : Error} {ps1 : Pools δ η}
    (proceeds : token ≠ .atStart)
    (failed : (Pools.checkout opener client.pool client.spec).runFrom ps = (.error e,ps1)) :
    client.Declines opener token ps e ps1 := by
  intro ρ action
  rw [runCancellable_runFrom,if_neg (proceeds_of_ne proceeds),failed]

theorem runCancellable_lent {token : Cancellation} {c : Nat} {ps1 : Pools δ η}
    (proceeds : token ≠ .atStart)
    (handed : (Pools.checkout opener client.pool client.spec).runFrom ps = (.ok c,ps1)) {ρ : Type}
    (action : Action (Locked (δ × η)) ρ) : (client.runCancellable opener token action).runFrom ps =
      (settled ((work token c action).runFrom ps1).1,
        (((work token c action).runFrom ps1).2.checkin client.pool c).2) := by
  rw [runCancellable_runFrom,if_neg (proceeds_of_ne proceeds),handed]

theorem work_fired {l : Locked (δ × η)} {ps1 : Pools δ η} (single : ps1.Single client base .inUse l)
    {token : Cancellation} (fired : token ≠ .never) : ∃ ps', ps'.Single client base .inUse l ∧
      ∀ (ρ : Type) (action : Action (Locked (δ × η)) ρ),
        (work token base action).runFrom ps1 = (.error (.failed .cancelled),ps') := by
  by_cases early : token.firedBeforeLock = true
  · refine ⟨ps1,single,?_⟩
    intro ρ action
    rw [work_runFrom,if_pos early]
  · have under : token.firedUnderLock = true := by simp [Cancellation.firedUnderLock,fired]
    refine ⟨ps1.put base l,single.put rfl,?_⟩
    intro ρ action
    rw [work_runFrom,if_neg early,Pools.locked_runFrom single.found single.unlocked,
      ensureNotFired_then,if_pos under]
    rfl

theorem work_never {l : Locked (δ × η)} {ps1 : Pools δ η} (single : ps1.Single client base .inUse l)
    {ρ : Type} (action : Action (Locked (δ × η)) ρ) : (work .never base action).runFrom ps1 =
      ((action.runFrom l).1,ps1.put base ((action.runFrom l).2.unlock (action.runFrom l).1)) := by
  rw [work_runFrom,if_neg (by decide),Pools.locked_runFrom single.found single.unlocked,
    ensureNotFired_then]
  rfl

theorem runCancellable_course (opener : Opener δ η) (rest : ps.AtRest client base known)
    (token : Cancellation) :
    (∃ e ps' known', client.Declines opener token ps e ps' ∧ ps'.AtRest client base known' ∧
      (∀ l, known = some l → known' = some l) ∧
      (((Pools.checkout opener client.pool client.spec).runFrom ps).1 = .error e ∨
        token ≠ .never ∧ e = .cancelled) ∧
      (token = .atStart → e = .cancelled ∧ ps' = ps)) ∨
    ∃ l, token = .never ∧ (∀ l0, known = some l0 → l0 = l) ∧
      ((Pools.checkout opener client.pool client.spec).runFrom ps).1 = .ok base ∧
      ∀ (ρ : Type) (action : Action (Locked (δ × η)) ρ), action.Keeps Locked.badge → ∃ ps',
        (client.runCancellable opener token action).runFrom ps =
          (settled (action.runFrom l).1,ps') ∧
        ps'.AtRest client base (some ((action.runFrom l).2.unlock (action.runFrom l).1)) := by
  by_cases start : token = .atStart
  · subst start
    exact .inl ⟨.cancelled,ps,known,fun _ _ => rfl,rest,fun _ same => same,
      .inr ⟨by decide,rfl⟩,fun _ => ⟨rfl,rfl⟩⟩
  obtain ⟨outcome,ps1,handed,cases⟩ := rest.checkout opener
  rcases cases with ⟨e,rfl,rfl,still⟩ | ⟨l,rfl,same,single⟩
  · exact .inl ⟨e,ps1,none,runCancellable_failed start handed,still,fun _ absurd => (by cases absurd),
      .inl (congrArg Prod.fst handed),fun begun => absurd begun start⟩
  by_cases fired : token = .never
  · subst fired
    refine .inr ⟨l,rfl,same,congrArg Prod.fst handed,fun ρ action keeps => ⟨_,?_,
      (single.put ((Locked.badge_unlock _ _).trans (keeps l))).checkin⟩⟩
    rw [runCancellable_lent start handed,work_never single]
  · obtain ⟨ps2,single2,stopped⟩ := work_fired single fired
    have kept : ∀ l0, known = some l0 → some l = some l0 := fun l0 before =>
      congrArg some (same l0 before).symm
    refine .inl ⟨.cancelled,_,some l,?_,single2.checkin,kept,.inr ⟨fired,rfl⟩,
      fun begun => absurd begun start⟩
    intro ρ action
    rw [runCancellable_lent start handed,stopped]
    rfl

end Client

section

variable {δ η : Type} (opener : Opener δ η) (t : Transactor (δ × η)) (engine : Engine (δ × η))
  (client : Client)

def ClientTask.after (task : ClientTask δ η) (ps : Pools δ η) : Pools δ η :=
  ((task.perform opener t engine client).runFrom ps).2

inductive Client.Reaches (kind : ClientTask δ η → Prop) (start : Pools δ η) : Pools δ η → Prop where
  | done : Reaches kind start start
  | wait {ps : Pools δ η} (time : Nat) : Reaches kind start ps → Reaches kind start (ps.elapse time)
  | task {ps : Pools δ η} (task : ClientTask δ η) : kind task → Reaches kind start ps →
      Reaches kind start (task.after opener t engine client ps)

-- No work is done once the token has fired, or for a count that is refused at once.
def ClientTask.Skips (task : ClientTask δ η) : Prop := task.token ≠ .never ∨ task.refusal ≠ none

-- The work of a task begins in `l` on the connection `c`; what it comes to is the answer, and what
-- it leaves is left on `c`.
structure ClientTask.WorksOn (task : ClientTask δ η) (ps : Pools δ η) (c : Nat)
    (l : Locked (δ × η)) : Prop where
  handed : ((Pools.checkout opener client.pool client.spec).runFrom ps).1 = .ok c
  begins : ((client.runCancellable opener task.token fun l => (.ok l,l)).runFrom ps).1 = .ok l
  answer : ((task.perform opener t engine client).runFrom ps).1 =
    Client.settled ((task.closure t engine).runFrom l).1
  left : (task.after opener t engine client ps).locked? c =
    some (((task.closure t engine).runFrom l).2.unlock ((task.closure t engine).runFrom l).1)

end

namespace ClientTask

variable {δ η : Type} {opener : Opener δ η} {t : Transactor (δ × η)} {engine : Engine (δ × η)}
  {client : Client} {base : Nat} {known : Option (Locked (δ × η))} {ps ps' : Pools δ η}
  {task : ClientTask δ η}

theorem after_refused {cause : Error} (refused : task.refusal = some cause) :
    task.after opener t engine client ps = ps := by
  rw [after,perform_refused opener t engine client refused]

theorem after_declined (t : Transactor (δ × η)) (engine : Engine (δ × η)) {e : Error}
    (reaches : task.refusal = none) (declined : client.Declines opener task.token ps e ps') :
    (task.perform opener t engine client).runFrom ps = (.error e,ps') := by
  rw [perform_eq opener t engine client reaches]
  exact declined _ _

theorem skips_rest (skips : task.Skips) (rest : ps.AtRest client base known) : ∃ known',
    (task.after opener t engine client ps).AtRest client base known' ∧
    ∀ l, known = some l → known' = some l := by
  cases refused : task.refusal with
  | some cause =>
    rw [after_refused refused]
    exact ⟨known,rest,fun _ same => same⟩
  | none =>
    have fired : task.token ≠ .never := skips.resolve_right (by simp [refused])
    rcases Client.runCancellable_course opener rest task.token with
      ⟨e,ps',known',declined,rest',kept,_,_⟩ | ⟨_,never,_⟩
    · rw [after,after_declined t engine refused declined]
      exact ⟨known',rest',kept⟩
    · exact absurd never fired

theorem works (opener : Opener δ η) (t : Transactor (δ × η)) (engine : Engine (δ × η))
    (apart : task.KeepsToItself) (active : ¬ task.Skips)
    (rest : ps.AtRest client base known) :
    (∃ e, ((Pools.checkout opener client.pool client.spec).runFrom ps).1 = .error e ∧
      ((task.perform opener t engine client).runFrom ps).1 = .error e ∧
      ∃ known', (task.after opener t engine client ps).AtRest client base known') ∨
    ∃ l, (∀ l0, known = some l0 → l0 = l) ∧ task.WorksOn opener t engine client ps base l ∧
      (task.after opener t engine client ps).AtRest client base
        (some (((task.closure t engine).runFrom l).2.unlock ((task.closure t engine).runFrom l).1)) := by
  obtain ⟨unfired,unrefused⟩ := not_or.mp active
  have never : task.token = .never := Classical.not_not.mp unfired
  have reaches : task.refusal = none := Classical.not_not.mp unrefused
  rcases Client.runCancellable_course opener rest task.token with
    ⟨e,ps',known',declined,rest',_,cause,_⟩ | ⟨l,_,same,handed,course⟩
  · have performed := after_declined t engine reaches declined
    refine .inl ⟨e,?_,congrArg Prod.fst performed,known',?_⟩
    · rcases cause with failed | ⟨fired,_⟩
      · exact failed
      · exact absurd never fired
    · rw [after,performed]
      exact rest'
  · obtain ⟨_,probed,_⟩ := course _ (fun l => (.ok l,l)) fun _ => rfl
    obtain ⟨ps',ran,rest'⟩ := course _ (task.closure t engine) (closure_keeps t engine apart)
    rw [← perform_eq opener t engine client reaches] at ran
    have left : task.after opener t engine client ps = ps' := congrArg Prod.snd ran
    refine .inr ⟨l,same,⟨handed,congrArg Prod.fst probed,congrArg Prod.fst ran,?_⟩,?_⟩
    · rw [left]
      exact rest'.found
    · rw [left]
      exact rest'

theorem after_rest (opener : Opener δ η) (t : Transactor (δ × η)) (engine : Engine (δ × η))
    (apart : task.KeepsToItself) (rest : ps.AtRest client base known) :
    ∃ known', (task.after opener t engine client ps).AtRest client base known' := by
  by_cases skips : task.Skips
  · obtain ⟨known',rest',_⟩ := skips_rest skips rest
    exact ⟨known',rest'⟩
  · rcases works opener t engine apart skips rest with ⟨_,_,_,left⟩ | ⟨_,_,_,left⟩
    · exact left
    · exact ⟨_,left⟩

theorem reaches_of_fired (fired : task.token ≠ .never) : task.refusal = none := by
  cases task with
  | countWhere predicate q => exact absurd rfl fired
  | _ => rfl

theorem declines (opener : Opener δ η) (t : Transactor (δ × η)) (engine : Engine (δ × η))
    (fired : task.token ≠ .never) (rest : ps.AtRest client base known) : ∃ e ps',
    client.Declines opener task.token ps e ps' ∧
    (task.perform opener t engine client).runFrom ps = (.error e,ps') ∧
    (e = .cancelled ∨ ((Pools.checkout opener client.pool client.spec).runFrom ps).1 = .error e) ∧
    (task.token = .atStart → e = .cancelled ∧ ps' = ps) := by
  rcases Client.runCancellable_course opener rest task.token with
    ⟨e,ps',_,declined,_,_,cause,start⟩ | ⟨_,never,_⟩
  · have performed := after_declined t engine (reaches_of_fired fired) declined
    refine ⟨e,ps',declined,performed,?_,start⟩
    rcases cause with failed | ⟨_,cancelled⟩
    · exact .inr failed
    · exact .inl cancelled
  · exact absurd never fired

theorem WorksOn.panicked {c : Nat} {l l' : Locked (δ × η)} (rest : ps.AtRest client base known)
    (apart : task.KeepsToItself) (works : task.WorksOn opener t engine client ps c l)
    (broke : (task.closure t engine).runFrom l = (.error .panicked,l')) :
    ((task.perform opener t engine client).runFrom ps).1 = .error .panicked ∧ c = base ∧
    (task.after opener t engine client ps).AtRest client base
      (some ⟨{l'.session with poisoned := true},l'.handle⟩) := by
  have answer := works.answer
  have left := works.left
  rw [broke] at answer left
  have here : c = base := by
    obtain ⟨outcome,ps1,handed,cases⟩ := rest.checkout opener
    have same := works.handed
    rw [handed] at same
    rcases cases with ⟨e,rfl,_⟩ | ⟨_,rfl,_⟩ <;> cases same
    rfl
  subst here
  obtain ⟨known',rest'⟩ := after_rest opener t engine apart rest
  refine ⟨answer,rfl,?_⟩
  cases known' with
  | none =>
    have bound := Pools.locked_lt left
    rw [rest'.length] at bound
    exact absurd bound (Nat.lt_irrefl _)
  | some l1 =>
    cases rest'.found.symm.trans left
    exact rest'

end ClientTask

namespace Client

variable {δ η : Type} {opener : Opener δ η} {t : Transactor (δ × η)} {engine : Engine (δ × η)}
  {client : Client} {base : Nat} {known : Option (Locked (δ × η))} {ps ps' : Pools δ η}

theorem Reaches.rest (reaches : client.Reaches opener t engine ClientTask.KeepsToItself ps ps')
    (rest : ps.AtRest client base known) : ∃ known', ps'.AtRest client base known' := by
  induction reaches with
  | done => exact ⟨known,rest⟩
  | wait time _ ih =>
    obtain ⟨known',still⟩ := ih
    exact ⟨known',still.elapse time⟩
  | task task apart _ ih =>
    obtain ⟨_,still⟩ := ih
    exact task.after_rest opener t engine apart still

theorem Reaches.skipped (reaches : client.Reaches opener t engine ClientTask.Skips ps ps')
    {l : Locked (δ × η)} (rest : ps.AtRest client base (some l)) : ps'.AtRest client base (some l) := by
  induction reaches with
  | done => exact rest
  | wait time _ ih => exact ih.elapse time
  | task task skips _ ih =>
    obtain ⟨known',still,kept⟩ := task.skips_rest skips ih
    rw [kept l rfl] at still
    exact still

theorem atRest_fresh {options : PoolOptions} (registry : ps.Registry)
    (fresh : ps.pools[client.pool]? = some (Pool.new options)) :
    ps.AtRest client ps.connections.length none := by
  refine ⟨registry,(List.getElem?_eq_some_iff.mp fresh).1,rfl,fun key => ?_⟩
  rw [ite_self]
  refine Pools.slotsOf_unregistered ?_
  rw [Pools.pool,fresh]
  rfl

end Client

-- However tasks end, nothing stays on loan after any of them. A token that has fired keeps the work
-- from being done; work that breaks off leaves its lock poisoned, and the next work takes it still.
theorem client_gives_back {δ η : Type} {opener : Opener δ η} {t : Transactor (δ × η)}
    {engine : Engine (δ × η)} {client : Client} {options : PoolOptions} {ps0 ps : Pools δ η}
    (registry : ps0.Registry) (fresh : ps0.pools[client.pool]? = some (Pool.new options))
    (reached : client.Reaches opener t engine ClientTask.KeepsToItself ps0 ps)
    (task : ClientTask δ η) (apart : task.KeepsToItself) :
    (∀ key, ∀ slot ∈ (task.after opener t engine client ps).slotsOf client.pool key,
      slot.state = .idle) ∧
    (task.after opener t engine client ps).connections.length ≤ ps0.connections.length + 1 ∧
    (task.token ≠ .never → ∃ e ps', client.Declines opener task.token ps e ps' ∧
      (task.perform opener t engine client).runFrom ps = (.error e,ps') ∧
      (e = .cancelled ∨ ((Pools.checkout opener client.pool client.spec).runFrom ps).1 = .error e)) ∧
    (task.token = .atStart →
      (task.perform opener t engine client).runFrom ps = (.error .cancelled,ps)) ∧
    (¬ task.Skips → (∃ e, ((Pools.checkout opener client.pool client.spec).runFrom ps).1 = .error e ∧
        ((task.perform opener t engine client).runFrom ps).1 = .error e) ∨
      ∃ c l, task.WorksOn opener t engine client ps c l) ∧
    ∀ c l l', task.WorksOn opener t engine client ps c l →
      (task.closure t engine).runFrom l = (.error .panicked,l') →
      ((task.perform opener t engine client).runFrom ps).1 = .error .panicked ∧
      ∀ (later : Pools δ η) (next : ClientTask δ η),
        client.Reaches opener t engine ClientTask.Skips (task.after opener t engine client ps) later →
        ¬ next.Skips → next.KeepsToItself →
        next.WorksOn opener t engine client later c ⟨{l'.session with poisoned := true},l'.handle⟩ := by
  obtain ⟨known,rest⟩ := reached.rest (Client.atRest_fresh registry fresh)
  obtain ⟨known',rest'⟩ := task.after_rest opener t engine apart rest
  refine ⟨rest'.returned.1,rest'.returned.2,fun fired => ?_,fun start => ?_,fun active => ?_,
    fun c l l' works broke => ?_⟩
  · obtain ⟨e,ps',declined,performed,cause,_⟩ := task.declines opener t engine fired rest
    exact ⟨e,ps',declined,performed,cause⟩
  · obtain ⟨e,ps',_,performed,_,untouched⟩ := task.declines opener t engine (by rw [start]; decide)
      rest
    obtain ⟨rfl,rfl⟩ := untouched start
    exact performed
  · rcases task.works opener t engine apart active rest with ⟨e,failed,answer,_⟩ | ⟨l,_,works,_⟩
    · exact .inl ⟨e,failed,answer⟩
    · exact .inr ⟨_,l,works⟩
  · obtain ⟨answer,rfl,left⟩ := works.panicked rest apart broke
    refine ⟨answer,fun later next skipped active apart' => ?_⟩
    -- Tasks without work leave the poisoned lock as it is, so the next work finds that one.
    have waiting := skipped.skipped left
    obtain ⟨ps1,handed,_⟩ := Pools.Single.checkout opener waiting
    rcases next.works opener t engine apart' active waiting with
      ⟨e,failed,_⟩ | ⟨l1,same,again,_⟩
    · rw [handed] at failed
      cases failed
    · rw [same _ rfl]
      exact again

-- Handles that count the statements that they are given.
namespace Tally

def opener : Opener Unit Nat where
  openAt _ _ := .ok (0,())

def transactor : Transactor (Unit × Nat) where
  run _ := pure ()

def engine : Engine (Unit × Nat) where
  execute _ _ := fun b => (.ok 1,(b.1,b.2 + 1))
  select _ _ := pure .empty
  lastInsertRowid := fun b => (Int64.ofNat b.2,b)

def client : Client := { pool := 0, spec := .forAsync "owners.db" }

def tooLate : ClientTask Unit Nat := .runCancellable .beforeLock (pure ())

def breaking : ClientTask Unit Nat := .run do
  let _ ← (engine.locked.execute "delete from owners" []).action
  (throw .panicked : Action (Locked (Unit × Nat)) Unit)

def counting : ClientTask Unit Nat := .errand (.execute "delete from owners" [] : Errand Unit)

def after (task : ClientTask Unit Nat) (ps : Pools Unit Nat) : Pools Unit Nat :=
  task.after opener transactor engine client ps

def opened : Pools Unit Nat := (after tooLate (.start ())).elapse 10

def broken : Pools Unit Nat := after tooLate (after breaking opened)

end Tally

theorem client_gives_back_tally :
    Tally.breaking.WorksOn Tally.opener Tally.transactor Tally.engine Tally.client Tally.opened 0
      ⟨.new 1 Tally.client.spec.key,((),0)⟩ ∧
    Tally.counting.WorksOn Tally.opener Tally.transactor Tally.engine Tally.client Tally.broken 0
      ⟨{Session.new 1 Tally.client.spec.key with poisoned := true},((),1)⟩ := by
  have registry : (Pools.start () : Pools Unit Nat).Registry :=
    (Usage.start_ordered () : (Usage.start () : Usage Unit Nat Unit).Ordered).registry
  have fresh : (Pools.start () : Pools Unit Nat).pools[Tally.client.pool]? =
      some (Pool.new .default) := rfl
  have works : Tally.breaking.WorksOn Tally.opener Tally.transactor Tally.engine Tally.client
      Tally.opened 0 ⟨.new 1 Tally.client.spec.key,((),0)⟩ := ⟨rfl,rfl,rfl,rfl⟩
  have apart : Tally.breaking.KeepsToItself :=
    Action.Keeps.bind (Step.Keeps.action (Tally.engine.locked_keeps.execute _ _)) fun _ _ => rfl
  obtain ⟨_,_,_,_,_,panics⟩ := client_gives_back registry fresh
    (.wait 10 (.task Tally.tooLate (fun _ => rfl) .done)) Tally.breaking apart
  refine ⟨works,(panics 0 _ _ works rfl).2 _ Tally.counting (.task Tally.tooLate (.inl ?_) .done) ?_ ?_⟩
  · decide
  · rintro (fired | refused)
    · exact fired rfl
    · exact refused rfl
  · trivial

end TypedRows
