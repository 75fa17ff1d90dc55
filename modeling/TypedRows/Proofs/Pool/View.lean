import TypedRows.Pool.Pools
import TypedRows.Proofs.Steps

namespace TypedRows

-- The bookkeeping of the pools without its entries: which slots each pool tracks under each
-- key, which number it gave last, and what marks each connection. Every operation of a pool
-- is one change of such a view, as long as no two keys share an entry.

structure Badge where
  id : Nat
  key : String
  closed : Bool

def Session.badge (s : Session) : Badge := ⟨s.id,s.key,s.closed⟩

theorem Session.lock_open {s : Session} (isOpen : s.closed = false) : s.lock = .ok () := by
  rw [Session.lock,if_neg (by simp [isOpen])]

@[ext] structure View where
  slots : Nat → String → List Slot
  lastId : Nat → Nat
  badges : List Badge

namespace View

def put (p : Nat) (key : String) (slots : List Slot) (v : View) : View :=
  {v with slots := fun q k => if q = p ∧ k = key then slots else v.slots q k}

def opened (p : Nat) (key : String) (slot : Slot) (v : View) : View where
  slots := (v.put p key (v.slots p key ++ [slot])).slots
  lastId := fun q => if q = p then slot.id else v.lastId q
  badges := v.badges ++ [⟨slot.id,key,false⟩]

def close (c : Nat) (v : View) : View :=
  {v with badges := v.badges.modify c fun badge => {badge with closed := true}}

@[simp] theorem put_slots (p : Nat) (key : String) (slots : List Slot) (v : View) :
    (v.put p key slots).slots p key = slots := by
  simp [put]

theorem put_same (p : Nat) (key : String) (v : View) : v.put p key (v.slots p key) = v := by
  refine View.ext (funext fun q => funext fun k => ?_) rfl rfl
  unfold put
  dsimp only
  split
  · rename_i here
    rw [here.1,here.2]
  · rfl

end View

namespace Pools

variable {δ η : Type}

def slotsOf (ps : Pools δ η) (p : Nat) (key : String) : List Slot :=
  ((((ps.pool p).entryOf? key).bind fun e => ps.entries[e]?).map Entry.slots).getD []

def view (ps : Pools δ η) : View where
  slots := ps.slotsOf
  lastId := fun p => (ps.pool p).lastId
  badges := ps.connections.map fun connection => connection.session.badge

-- Keys are registered once in each pool, and every entry under one key of one pool.
structure Registry (ps : Pools δ η) : Prop where
  keys : ∀ p, ((ps.pool p).entries.map Prod.fst).Nodup
  valid : ∀ {p key e}, (ps.pool p).entryOf? key = some e → e < ps.entries.length
  once : ∀ {p p' key key' e}, (ps.pool p).entryOf? key = some e →
    (ps.pool p').entryOf? key' = some e → p = p' ∧ key = key'

theorem pool_setPool {ps : Pools δ η} {p : Nat} (present : p < ps.pools.length) (pool : Pool) (q : Nat) :
    (ps.setPool p pool).pool q = if q = p then pool else ps.pool q := by
  unfold setPool Pools.pool
  dsimp only
  rw [List.getElem?_set]
  by_cases same : p = q
  · subst same
    simp [present]
  · simp [same,Ne.symm same]

theorem pool_absent {ps : Pools δ η} {p : Nat} (absent : ps.pools.length ≤ p) :
    ps.pool p = Pool.new .default := by
  rw [Pools.pool,List.getElem?_eq_none absent]
  rfl

theorem lookup_of_mem {entries : List (String × Nat)} {key : String} {e : Nat}
    (distinct : (entries.map Prod.fst).Nodup) (present : (key,e) ∈ entries) :
    entries.lookup key = some e := by
  induction entries with
  | nil => cases present
  | cons entry rest ih =>
    obtain ⟨other,e'⟩ := entry
    rw [List.map_cons,List.nodup_cons] at distinct
    rcases List.mem_cons.mp present with same | later
    · cases same
      exact List.lookup_cons_self
    · have differs : key ≠ other := by
        rintro rfl
        exact distinct.1 (List.mem_map.mpr ⟨_,later,rfl⟩)
      rw [List.lookup_cons,beq_false_of_ne differs]
      exact ih distinct.2 later

theorem mem_of_lookup {entries : List (String × Nat)} {key : String} {e : Nat}
    (found : entries.lookup key = some e) : (key,e) ∈ entries := by
  obtain ⟨before,after,rfl,_⟩ := List.lookup_eq_some_iff.mp found
  simp

section Entries

variable {ps : Pools δ η} {p e : Nat} {key : String}

theorem Registry.entry (registry : ps.Registry) (registered : (ps.pool p).entryOf? key = some e) :
    ∃ entry, ps.entries[e]? = some entry :=
  ⟨_,List.getElem?_eq_getElem (registry.valid registered)⟩

theorem slotsOf_registered {entry : Entry} (registered : (ps.pool p).entryOf? key = some e)
    (found : ps.entries[e]? = some entry) : ps.slotsOf p key = entry.slots := by
  rw [slotsOf,registered,Option.bind_some,found]
  rfl

theorem slotsOf_unregistered (unregistered : (ps.pool p).entryOf? key = none) :
    ps.slotsOf p key = [] := by
  rw [slotsOf,unregistered]
  rfl

theorem registered_of_mem {slot : Slot} (member : slot ∈ ps.slotsOf p key) :
    ∃ e, (ps.pool p).entryOf? key = some e := by
  cases registered : (ps.pool p).entryOf? key with
  | none =>
    rw [slotsOf_unregistered registered] at member
    cases member
  | some e => exact ⟨e,rfl⟩

theorem Registry.setEntry (registry : ps.Registry) (entry : Entry) :
    (ps.setEntry e entry).Registry where
  keys := registry.keys
  valid registered := by
    rw [Pools.setEntry,List.length_set]
    exact registry.valid registered
  once := registry.once

theorem view_setEntry (registry : ps.Registry) (registered : (ps.pool p).entryOf? key = some e)
    (entry : Entry) : (ps.setEntry e entry).view = ps.view.put p key entry.slots := by
  refine View.ext (funext fun q => funext fun k => ?_) rfl rfl
  have valid := registry.valid registered
  change (((((ps.pool q).entryOf? k).bind fun e' => (ps.entries.set e entry)[e']?).map
    Entry.slots).getD []) = if q = p ∧ k = key then entry.slots else ps.slotsOf q k
  split
  · rename_i here
    obtain ⟨rfl,rfl⟩ := here
    rw [registered,Option.bind_some,List.getElem?_set_self valid]
    rfl
  · rename_i elsewhere
    unfold slotsOf
    cases other : (ps.pool q).entryOf? k with
    | none => rfl
    | some e' =>
      have differs : e ≠ e' := by
        rintro rfl
        exact elsewhere (registry.once other registered)
      rw [Option.bind_some,Option.bind_some,List.getElem?_set_ne differs]

end Entries

theorem view_alike {ps ps' : Pools δ η} (registry : ps.Registry)
    (pools : ∀ q, (ps'.pool q).entries = (ps.pool q).entries ∧ (ps'.pool q).lastId = (ps.pool q).lastId)
    (entries : ps'.entries = ps.entries) (badges : ps'.view.badges = ps.view.badges) :
    ps'.Registry ∧ ps'.view = ps.view := by
  have registered : ∀ q key, (ps'.pool q).entryOf? key = (ps.pool q).entryOf? key := fun q key => by
    rw [Pool.entryOf?,(pools q).1,Pool.entryOf?]
  refine ⟨⟨fun q => ?_,fun {q key e} found => ?_,fun {q q' key key' e} found found' => ?_⟩,
    View.ext (funext fun q => funext fun key => ?_) (funext fun q => (pools q).2) badges⟩
  · rw [(pools q).1]
    exact registry.keys q
  · rw [registered] at found
    rw [entries]
    exact registry.valid found
  · rw [registered] at found found'
    exact registry.once found found'
  · change ps'.slotsOf q key = ps.slotsOf q key
    rw [slotsOf,slotsOf,registered,entries]

theorem pool_addPool (options : PoolOptions) (ps : Pools δ η) (q : Nat) :
    ((ps.addPool options).2.pool q).entries = (ps.pool q).entries ∧
      ((ps.addPool options).2.pool q).lastId = (ps.pool q).lastId := by
  change ((((ps.pools ++ [Pool.new options])[q]?).getD (Pool.new .default)).entries = _) ∧
    ((((ps.pools ++ [Pool.new options])[q]?).getD (Pool.new .default)).lastId = _)
  rw [Pools.pool,List.getElem?_append]
  split
  · exact ⟨rfl,rfl⟩
  · rename_i beyond
    rw [List.getElem?_eq_none (Nat.not_lt.mp beyond)]
    cases q - ps.pools.length <;> exact ⟨rfl,rfl⟩

end Pools

end TypedRows
