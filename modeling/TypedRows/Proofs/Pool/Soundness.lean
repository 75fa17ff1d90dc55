import Mathlib.Data.List.Nodup
import TypedRows.Proofs.Pool.Sweeping

namespace TypedRows

-- What holds of the bookkeeping of the pools however they are used.

def View.marks (v : View) : List (Nat × String) := v.badges.map fun badge => (badge.id,badge.key)

-- Every tracked slot is of an open record, belongs to the pool that opened its connection, and
-- goes under the number and the key of the connection; a pool gives every number once.
structure Sound (v : View) (origins : List Nat) : Prop where
  length : origins.length = v.marks.length
  opens : ∀ p key, ∀ slot ∈ v.slots p key, slot.state ≠ .closed
  owned : ∀ p key, ∀ slot ∈ v.slots p key, origins[slot.connection]? = some p
  recorded : ∀ p key, ∀ slot ∈ v.slots p key, v.marks[slot.connection]? = some (slot.id,key)
  distinct : ∀ p key, ((v.slots p key).map Slot.connection).Nodup
  numbered : ∀ {c p id : Nat} {key : String}, origins[c]? = some p →
    v.marks[c]? = some (id,key) → id ≤ v.lastId p
  unique : ∀ {c c' p id : Nat} {key key' : String}, origins[c]? = some p → origins[c']? = some p →
    v.marks[c]? = some (id,key) → v.marks[c']? = some (id,key') → c = c'

theorem getElem?_concat {α : Type} {xs : List α} {x y : α} {n : Nat} :
    (xs ++ [x])[n]? = some y ↔ xs[n]? = some y ∨ (n = xs.length ∧ y = x) := by
  rw [List.getElem?_append]
  split
  · rename_i before
    constructor
    · exact .inl
    · rintro (found | ⟨rfl,_⟩)
      · exact found
      · exact absurd before (Nat.lt_irrefl _)
  · rename_i beyond
    rw [List.getElem?_eq_none (Nat.not_lt.mp beyond)]
    cases rest : n - xs.length with
    | zero =>
      have here : n = xs.length := by omega
      simp [here,eq_comm]
    | succ k =>
      have there : n ≠ xs.length := by omega
      simp [there]

namespace Sound

variable {v v' : View} {origins : List Nat} {p : Nat} {key : String}

theorem start : Sound ⟨fun _ _ => [],fun _ => 0,[]⟩ [] := by
  constructor <;> simp [View.marks]

theorem connection_lt (sound : Sound v origins) {slot : Slot} (member : slot ∈ v.slots p key) :
    slot.connection < v.badges.length := by
  have bound := (List.getElem?_eq_some_iff.mp (sound.recorded p key slot member)).1
  rw [View.marks,List.length_map] at bound
  exact bound

theorem place (sound : Sound v origins) {q : Nat} {key' : String} {slot slot' : Slot}
    (member : slot ∈ v.slots p key) (member' : slot' ∈ v.slots q key')
    (same : slot.connection = slot'.connection) : p = q ∧ key = key' ∧ slot = slot' := by
  have owned := sound.owned p key slot member
  have recorded := sound.recorded p key slot member
  rw [same,sound.owned q key' slot' member'] at owned
  rw [same,sound.recorded q key' slot' member'] at recorded
  obtain rfl : p = q := (Option.some.inj owned).symm
  obtain rfl : key = key' := (Prod.mk.inj (Option.some.inj recorded)).2.symm
  exact ⟨rfl,rfl,List.inj_on_of_nodup_map (sound.distinct p key) member member' same⟩

theorem state_unique (sound : Sound v origins) {slot slot' : Slot} (member : slot ∈ v.slots p key)
    (member' : slot' ∈ v.slots p key) (same : slot'.connection = slot.connection)
    (inUse : slot.state = .inUse) : slot'.state ≠ .idle := by
  obtain ⟨_,_,rfl⟩ := sound.place member' member same
  simp [inUse]

theorem mem_put {slots : List Slot} {q : Nat} {key' : String} {slot : Slot} :
    slot ∈ (v.put p key slots).slots q key' ↔
      (q = p ∧ key' = key ∧ slot ∈ slots) ∨ (¬ (q = p ∧ key' = key) ∧ slot ∈ v.slots q key') := by
  unfold View.put
  dsimp only
  split
  · rename_i here
    simp [here]
  · rename_i elsewhere
    simp only [elsewhere,not_false_iff,true_and]
    constructor
    · exact .inr
    · rintro (⟨here,there,_⟩ | member)
      · exact absurd ⟨here,there⟩ elsewhere
      · exact member

theorem put_cases (sound : Sound v origins) {before after : List Slot} {slot slot' other : Slot}
    (split : v.slots p key = before ++ slot :: after) {q : Nat} {key' : String}
    (member : other ∈ (v.put p key (before ++ slot' :: after)).slots q key') :
    (q = p ∧ key' = key ∧ other = slot') ∨
      (other ∈ v.slots q key' ∧ other.connection ≠ slot.connection) := by
  have present : slot ∈ v.slots p key := by rw [split]; simp
  rcases mem_put.mp member with ⟨rfl,rfl,here⟩ | ⟨elsewhere,there⟩
  · have distinct := sound.distinct q key'
    rw [split,List.map_append,List.map_cons,List.nodup_middle,List.nodup_cons,
      ← List.map_append] at distinct
    have apart : ∀ other ∈ before ++ after, other.connection ≠ slot.connection := fun other present same =>
      distinct.1 (List.mem_map.mpr ⟨other,present,same⟩)
    rw [split]
    rcases List.mem_append.mp here with earlier | later
    · exact .inr ⟨List.mem_append_left _ earlier,apart other (List.mem_append_left _ earlier)⟩
    · rcases List.mem_cons.mp later with rfl | later
      · exact .inl ⟨rfl,rfl,rfl⟩
      · exact .inr ⟨by simp [later],apart other (List.mem_append_right _ later)⟩
  · refine .inr ⟨there,fun same => elsewhere ?_⟩
    obtain ⟨here,keys,_⟩ := sound.place there present same
    exact ⟨here,keys⟩

theorem put (sound : Sound v origins) {before after : List Slot} {slot slot' : Slot}
    (split : v.slots p key = before ++ slot :: after) (id : slot'.id = slot.id)
    (connection : slot'.connection = slot.connection) (opens : slot'.state ≠ .closed) :
    Sound (v.put p key (before ++ slot' :: after)) origins := by
  have old : ∀ q key', ∀ other ∈ (v.put p key (before ++ slot' :: after)).slots q key',
      other.state ≠ .closed ∧ ∃ first ∈ v.slots q key',
        first.connection = other.connection ∧ first.id = other.id := by
    intro q key' other member
    rcases sound.put_cases split member with ⟨rfl,rfl,rfl⟩ | ⟨same,_⟩
    · exact ⟨opens,slot,by rw [split]; simp,connection.symm,id.symm⟩
    · exact ⟨sound.opens q key' other same,other,same,rfl,rfl⟩
  refine {sound with opens := ?opens, owned := ?owned, recorded := ?recorded, distinct := ?distinct}
  case opens => exact fun q key' other member => (old q key' other member).1
  case owned =>
    intro q key' other member
    obtain ⟨_,first,present,same,_⟩ := old q key' other member
    rw [← same]
    exact sound.owned q key' first present
  case recorded =>
    intro q key' other member
    obtain ⟨_,first,present,same,number⟩ := old q key' other member
    rw [← same,← number]
    exact sound.recorded q key' first present
  case distinct =>
    intro q key'
    have distinct := sound.distinct q key'
    unfold View.put
    dsimp only
    split
    · rename_i here
      rw [here.1,here.2,split] at distinct
      simpa [connection] using distinct
    · exact distinct

theorem opened_cases {slot other : Slot} {q : Nat} {key' : String}
    (member : other ∈ (v.opened p key slot).slots q key') :
    other ∈ v.slots q key' ∨ (q = p ∧ key' = key ∧ other = slot) := by
  rcases mem_put.mp member with ⟨rfl,rfl,here⟩ | ⟨_,elsewhere⟩
  · rcases List.mem_append.mp here with earlier | new
    · exact .inl earlier
    · exact .inr ⟨rfl,rfl,List.mem_singleton.mp new⟩
  · exact .inl elsewhere

theorem opened (sound : Sound v origins) {slot : Slot} (id : slot.id = v.lastId p + 1)
    (connection : slot.connection = v.badges.length) (state : slot.state = .inUse) :
    Sound (v.opened p key slot) (origins ++ [p]) := by
  have marks : (v.opened p key slot).marks = v.marks ++ [(slot.id,key)] := by
    simp [View.marks,View.opened]
  have long : v.marks.length = v.badges.length := List.length_map _
  have fresh : ∀ q key', ∀ other ∈ v.slots q key', other.connection ≠ slot.connection := by
    intro q key' other member same
    have bound := sound.connection_lt member
    omega
  have last : slot.connection = origins.length := by rw [sound.length,long,connection]
  -- Origins and marks grow together, so those of one connection are both old or both new.
  have places : ∀ {c q number : Nat} {k : String}, (origins ++ [p])[c]? = some q →
      (v.opened p key slot).marks[c]? = some (number,k) →
      (origins[c]? = some q ∧ v.marks[c]? = some (number,k)) ∨
        (c = origins.length ∧ q = p ∧ number = slot.id) := by
    intro c q number k origin mark
    rw [marks] at mark
    rcases getElem?_concat.mp origin with old | ⟨here,rfl⟩ <;>
      rcases getElem?_concat.mp mark with old' | ⟨here',same⟩
    · exact .inl ⟨old,old'⟩
    · have bound := (List.getElem?_eq_some_iff.mp old).1
      rw [here',← sound.length] at bound
      exact absurd bound (Nat.lt_irrefl _)
    · have bound := (List.getElem?_eq_some_iff.mp old').1
      rw [here,sound.length] at bound
      exact absurd bound (Nat.lt_irrefl _)
    · exact .inr ⟨here,rfl,congrArg Prod.fst same⟩
  constructor
  case length =>
    rw [marks,List.length_append,List.length_append,sound.length]
    rfl
  case opens =>
    intro q key' other member
    rcases opened_cases member with old | ⟨rfl,rfl,rfl⟩
    · exact sound.opens q key' other old
    · simp [state]
  case owned =>
    intro q key' other member
    rcases opened_cases member with old | ⟨rfl,rfl,rfl⟩
    · exact getElem?_concat.mpr (.inl (sound.owned q key' other old))
    · exact getElem?_concat.mpr (.inr ⟨last,rfl⟩)
  case recorded =>
    intro q key' other member
    rw [marks]
    rcases opened_cases member with old | ⟨rfl,rfl,rfl⟩
    · exact getElem?_concat.mpr (.inl (sound.recorded q key' other old))
    · exact getElem?_concat.mpr (.inr ⟨last.trans sound.length,rfl⟩)
  case distinct =>
    intro q key'
    have distinct := sound.distinct q key'
    change (((v.put p key (v.slots p key ++ [slot])).slots q key').map Slot.connection).Nodup
    unfold View.put
    dsimp only
    split
    · rename_i here
      rw [List.map_append,List.nodup_append]
      refine ⟨sound.distinct p key,by simp,?_⟩
      intro c present c' new
      obtain ⟨other,member,rfl⟩ := List.mem_map.mp present
      rw [List.map_singleton,List.mem_singleton] at new
      rw [new]
      exact fresh p key other member
    · exact distinct
  case numbered =>
    intro c q number k origin mark
    change number ≤ if q = p then slot.id else v.lastId q
    rcases places origin mark with ⟨old,mark⟩ | ⟨_,rfl,rfl⟩
    · have bound := sound.numbered old mark
      split
      · rename_i same
        subst same
        omega
      · exact bound
    · exact Nat.le_of_eq (if_pos rfl).symm
  case unique =>
    intro c c' q number k k' origin origin' mark mark'
    rcases places origin mark with ⟨old,was⟩ | ⟨here,rfl,rfl⟩ <;>
      rcases places origin' mark' with ⟨old',was'⟩ | ⟨here',same,new⟩
    · exact sound.unique old old' was was'
    -- An old connection of the pool has a lower number than the new one.
    · subst same new
      have bound := sound.numbered old was
      omega
    · have bound := sound.numbered old' was'
      omega
    · rw [here,here']

theorem fewer (sound : Sound v origins) (slots : ∀ p key, (v'.slots p key).Sublist (v.slots p key))
    (lastId : v'.lastId = v.lastId) (marks : v'.marks = v.marks) : Sound v' origins where
  length := by rw [marks]; exact sound.length
  opens p key slot member := sound.opens p key slot ((slots p key).subset member)
  owned p key slot member := sound.owned p key slot ((slots p key).subset member)
  recorded p key slot member := by
    rw [marks]
    exact sound.recorded p key slot ((slots p key).subset member)
  distinct p key := (sound.distinct p key).sublist ((slots p key).map Slot.connection)
  numbered origin mark := by
    rw [lastId]
    rw [marks] at mark
    exact sound.numbered origin mark
  unique origin origin' mark mark' := by
    rw [marks] at mark mark'
    exact sound.unique origin origin' mark mark'

end Sound

end TypedRows
