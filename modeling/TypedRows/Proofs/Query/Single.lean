import TypedRows.Proofs.Query.Pages
import TypedRows.Proofs.Query.Request

namespace TypedRows

-- Single records of a query: the first one, and the one at a position.

variable {σ ρ : Type} {engine : Engine σ} {s : σ} {q : Query ρ} {st : Statement}
  {found : Except Error Stream} {stream : Stream} {rows : List ρ} {cause : Error}

def orNotFound (table : String) (record : Option ρ) : Except Error ρ :=
  record.elim (.error (.notFound (.row table))) .ok

theorem orNotFound_inj {table : String} {a b : Option ρ} :
    orNotFound table a = orNotFound table b ↔ a = b := by
  cases a <;> cases b <;> simp [orNotFound]

theorem getElem?_cut {α : Type} (limit : Option Nat) (offset i : Nat) (all : List α) :
    (cut limit offset all)[i]? = if ∀ n ∈ limit, i < n then all[offset + i]? else none := by
  cases limit with
  | none => simp [cut]
  | some n => simp [cut,List.getElem?_take]

-- A page has its own row at a position only if it starts where the whole does and reaches so far.
theorem getElem?_cut_same {α : Type} {limit : Option Nat} {offset i : Nat} {all : List α}
    (distinct : all.Nodup) : all[i]? = (cut limit offset all)[i]? ↔
      all.length ≤ i ∨ offset = 0 ∧ ∀ n ∈ limit, i < n := by
  rw [getElem?_cut]
  by_cases inside : i < all.length
  · rw [or_iff_right (by omega)]
    by_cases reached : ∀ n ∈ limit, i < n
    · rw [if_pos reached,and_iff_left reached]
      constructor
      · intro same
        have := (List.getElem?_inj inside distinct).mp same
        omega
      · rintro rfl
        rw [Nat.zero_add]
    · rw [if_neg reached,List.getElem?_eq_getElem inside]
      exact ⟨nofun,fun both => absurd both.2 reached⟩
  · have outside : all.length ≤ i := by omega
    refine ⟨fun _ => .inl outside,fun _ => ?_⟩
    rw [List.getElem?_eq_none outside]
    split
    · exact (List.getElem?_eq_none (by omega)).symm
    · rfl

namespace Query

theorem statement_error : q.statement = .error cause ↔ q.unpaged.statement = .error cause := by
  rw [statement_paged]
  cases q.unpaged.statement <;> simp [bind,Except.bind,pure,Except.pure]

theorem single_limit (q : Query ρ) : q.single = q ∧ q.most = some 0 ∨
    q.single.most = some 1 ∧ ∀ n ∈ q.most, 1 ≤ n := by
  unfold single most
  cases limited : q.limit with
  | none => exact .inr ⟨rfl,nofun⟩
  | some n =>
    by_cases zero : n < 1
    · have nothing : n = 0 := UInt64.lt_one_iff.mp zero
      subst nothing
      rcases q with ⟨entity,predicate,orderings,limit,offset,eager⟩
      cases limited
      exact .inl ⟨rfl,rfl⟩
    · have one : 1 ≤ n.toNat := by
        rw [UInt64.lt_iff_toNat_lt] at zero
        exact Nat.le_of_not_lt zero
      refine .inr ⟨?_,fun m same => ?_⟩
      · simp only [if_neg zero]
        rfl
      · cases same
        exact one

theorem firstOrDefault_runFrom : ((q.firstOrDefault engine).runFrom s).1 =
    ((q.single.toList engine).runFrom s).1.map List.head? := by
  unfold firstOrDefault
  rw [Step.runFrom_bind]
  rcases (q.single.toList engine).runFrom s with ⟨e | rows,after⟩ <;> rfl

theorem first_runFrom : ((q.first engine).runFrom s).1 =
    ((q.firstOrDefault engine).runFrom s).1 >>= orNotFound q.table := by
  unfold first
  rw [Step.runFrom_bind]
  rcases (q.firstOrDefault engine).runFrom s with ⟨e | _ | record,after⟩ <;> rfl

theorem firstOrDefault_slice (slices : engine.Slices s st found)
    (compiled : q.unpaged.statement = .ok st) (readable : Readable q.most q.start)
    (moved : ∀ n ∈ q.start, n < 2 ^ 63) (listed : ((q.toList engine).runFrom s).1 = .ok rows) :
    ((q.firstOrDefault engine).runFrom s).1 = .ok rows.head? := by
  rw [firstOrDefault_runFrom]
  obtain ⟨same,_⟩ | ⟨one,inside⟩ := q.single_limit
  · rw [same,listed]
    rfl
  · obtain ⟨stream,known,items⟩ := (q.toList_slice slices compiled readable).mp listed
    have start : q.single.start = q.start := rfl
    have shorter : ((q.single.toList engine).runFrom s).1 = .ok (cut (some 1) 0 rows) := by
      refine (q.single.toList_slice slices compiled ?_).mpr ⟨stream,known,?_⟩
      · rw [one,start]
        exact ⟨by rintro _ ⟨⟩; decide,.inr moved⟩
      · rw [one,start,← Stream.page_items items,Stream.page_page (by simpa using inside)]
        rfl
    rw [shorter]
    cases rows <;> rfl

theorem elementAt_page {index : UInt64} {limit : Option Nat} (slices : engine.Slices s st (.ok stream))
    (compiled : q.unpaged.statement = .ok st) (near : index.toNat < 2 ^ 63)
    (reached : ∀ n ∈ limit, index.toNat < n)
    (items : (stream.page limit 0).items q.entity.decode = rows.map .ok) :
    ((q.elementAt engine index).runFrom s).1 = orNotFound q.table rows[index.toNat]? := by
  have moved : ∀ n ∈ some index.toNat, n < 2 ^ 63 := by simpa using near
  have readable : Readable (some 1) (some index.toNat) := ⟨by simp,.inr moved⟩
  have page : (stream.page (some 1) index.toNat).items q.entity.decode =
      (cut (some 1) index.toNat rows).map .ok := by
    rw [← Stream.page_items items,Stream.page_page reached,Nat.zero_add]
  have listed : ((((q.skip index).take 1).toList engine).runFrom s).1 =
      .ok (cut (some 1) index.toNat rows) :=
    (((q.skip index).take 1).toList_slice slices compiled readable).mpr ⟨stream,rfl,page⟩
  have place : (cut (some 1) index.toNat rows).head? = rows[index.toNat]? := by
    simp [cut,List.head?_take,List.head?_drop]
  change ((((q.skip index).take 1).first engine).runFrom s).1 = _
  rw [first_runFrom,((q.skip index).take 1).firstOrDefault_slice slices compiled readable moved listed,
    place]
  rfl

end Query

theorem small_toNat {n : Option UInt64} (small : ∀ k ∈ n, k.toNat < 2 ^ 63) :
    ∀ k ∈ n.map UInt64.toNat, k < 2 ^ 63 := by
  rintro k same
  obtain ⟨n,found,rfl⟩ := Option.map_eq_some_iff.mp same
  exact small n found

-- The first record is the first one of the list, and one statement with a limit of at most one
-- finds it.
theorem first_agrees (engine : Engine σ) (s : σ) (q : Query ρ)
    (limited : ∀ n ∈ q.limit, n.toNat < 2 ^ 63) (moved : ∀ n ∈ q.offset, n.toNat < 2 ^ 63)
    (slices : ∀ st, q.unpaged.statement = .ok st → ∃ found, engine.Slices s st found) :
    (∀ cause, q.statement = .error cause →
      Follows (q.toList engine) (q.toList engine.noting) (.error cause) ∧
      Follows (q.firstOrDefault engine) (q.firstOrDefault engine.noting) (.error cause) ∧
      Follows (q.first engine) (q.first engine.noting) (.error cause)) ∧
    (∀ st, q.statement = .ok st → ∃ unpaged n, q.unpaged.statement = .ok unpaged ∧ n ≤ 1 ∧
      let sent : Statement := ⟨unpaged.text ++ boundsText (some n) q.start,unpaged.args⟩
      Follows (q.firstOrDefault engine) (q.firstOrDefault engine.noting) (.ok (some sent)) ∧
      Follows (q.first engine) (q.first engine.noting) (.ok (some sent))) ∧
    ∀ rows, ((q.toList engine).runFrom s).1 = .ok rows →
      ((q.firstOrDefault engine).runFrom s).1 = .ok rows.head? ∧
      ((q.first engine).runFrom s).1 = orNotFound q.table rows.head? := by
  refine ⟨fun cause failed => ?_,fun st compiled => ?_,fun rows listed => ?_⟩
  · have single : q.single.statement = .error cause :=
      q.single.statement_error.mpr (q.statement_error.mp failed)
    have list := q.toList_follows engine
    have firstOrDefault := q.firstOrDefault_follows engine
    have first := q.first_follows engine
    rw [failed] at list
    rw [single] at firstOrDefault first
    exact ⟨list,firstOrDefault,first⟩
  · rw [Query.statement_paged] at compiled
    obtain ⟨unpaged,whole,_⟩ := bind_ok.mp compiled
    -- A limit of zero is kept, so the one statement may ask for no row at all.
    have one : ∃ n ≤ 1, q.single.most = some n := by
      obtain ⟨same,zero⟩ | ⟨one,_⟩ := q.single_limit
      · exact ⟨0,Nat.zero_le 1,same.symm ▸ zero⟩
      · exact ⟨1,Nat.le_refl 1,one⟩
    obtain ⟨n,small,limit⟩ := one
    have single : q.single.statement =
        .ok ⟨unpaged.text ++ boundsText (some n) q.start,unpaged.args⟩ := by
      rw [Query.statement_paged,limit,show q.single.unpaged = q.unpaged from rfl,whole]
      rfl
    have firstOrDefault := q.firstOrDefault_follows engine
    have first := q.first_follows engine
    rw [single] at firstOrDefault first
    exact ⟨unpaged,n,whole,small,firstOrDefault,first⟩
  · obtain ⟨st,compiled⟩ := q.toList_compiled listed
    obtain ⟨found,slices⟩ := slices st compiled
    have found := q.firstOrDefault_slice slices compiled
      ⟨small_toNat limited,.inr (small_toNat moved)⟩ (small_toNat moved) listed
    refine ⟨found,?_⟩
    rw [Query.first_runFrom,found]
    rfl

theorem skipped_listed : (((everyone.skip 1).toList (Engine.listing peopleText)).runFrom twoPeople).1 =
    .ok [[.int 2,.text "b",.null]] :=
  ((everyone.skip 1).toList_slice (Engine.listing_reads ⟨peopleText,[]⟩ twoPeople).slices rfl
    (by decide)).mpr ⟨twoPeople,rfl,rfl⟩

theorem first_agrees_people :
    (((everyone.skip 1).first (Engine.listing peopleText)).runFrom twoPeople).1 =
      .ok [.int 2,.text "b",.null] ∧
    (((everyone.take 0).first (Engine.listing peopleText)).runFrom twoPeople).1 =
      .error (.notFound (.row "Person")) := by
  have nothing : (((everyone.take 0).toList (Engine.listing peopleText)).runFrom twoPeople).1 = .ok [] :=
    ((everyone.take 0).toList_slice (Engine.listing_reads ⟨peopleText,[]⟩ twoPeople).slices rfl
      (by decide)).mpr ⟨twoPeople,rfl,rfl⟩
  have slices (st : Statement) (compiled : everyone.statement = .ok st) :
      ∃ found, (Engine.listing peopleText).Slices twoPeople st found := by
    obtain ⟨found,reads⟩ := everyone_reads st compiled
    exact ⟨found,reads.slices⟩
  have second := first_agrees (Engine.listing peopleText) twoPeople (everyone.skip 1) nofun
    (by rintro n ⟨⟩; decide) slices
  have none := first_agrees (Engine.listing peopleText) twoPeople (everyone.take 0)
    (by rintro n ⟨⟩; decide) nofun slices
  exact ⟨(second.2.2 _ skipped_listed).2,(none.2.2 _ nothing).2⟩

-- An index counts the rows of the whole result. On a page it finds the page's own row if the page
-- starts with the first row and reaches beyond the index, and elsewhere only by chance.
theorem elementAt_indexes (engine : Engine σ) (s : σ) (q : Query ρ) (index : UInt64)
    (near : index.toNat < 2 ^ 63)
    (reads : ∀ st, q.unpaged.statement = .ok st → ∃ found, engine.ReadsNumerals s st found) :
    (∀ all, ((q.unpaged.toList engine).runFrom s).1 = .ok all →
      ((q.elementAt engine index).runFrom s).1 = orNotFound q.table all[index.toNat]?) ∧
    ∀ rows, ((q.toList engine).runFrom s).1 = .ok rows →
      (q.start.getD 0 = 0 → (∀ n ∈ q.most, index.toNat < n) →
        ((q.elementAt engine index).runFrom s).1 = orNotFound q.table rows[index.toNat]?) ∧
      ∀ all, ((q.unpaged.toList engine).runFrom s).1 = .ok all → all.Nodup →
        (((q.elementAt engine index).runFrom s).1 = orNotFound q.table rows[index.toNat]? ↔
          all.length ≤ index.toNat ∨ q.start.getD 0 = 0 ∧ ∀ n ∈ q.most, index.toNat < n) := by
  have whole (all : List ρ) (listed : ((q.unpaged.toList engine).runFrom s).1 = .ok all) :
      ((q.elementAt engine index).runFrom s).1 = orNotFound q.table all[index.toNat]? := by
    obtain ⟨st,compiled⟩ := q.unpaged.toList_compiled listed
    obtain ⟨found,reads⟩ := reads st compiled
    obtain ⟨stream,rfl,items⟩ := (q.toList_whole reads.slices compiled).mp listed
    have unlimited : ∀ n ∈ (none : Option Nat), index.toNat < n := nofun
    exact q.elementAt_page reads.slices compiled near unlimited items
  refine ⟨whole,fun rows listed => ?_⟩
  -- The list is a page of the same rows that the index counts.
  obtain ⟨st,compiled⟩ := q.toList_compiled listed
  obtain ⟨found,reads⟩ := reads st compiled
  have readable := q.toList_readable reads compiled listed
  obtain ⟨stream,rfl,items⟩ := (q.toList_slice reads.slices compiled readable).mp listed
  refine ⟨fun start reached => ?_,fun all everything distinct => ?_⟩
  · rw [start] at items
    exact q.elementAt_page reads.slices compiled near reached items
  · obtain ⟨_,same,allItems⟩ := (q.toList_whole reads.slices compiled).mp everything
    cases same
    have part : rows = cut q.most (q.start.getD 0) all := by
      rw [Stream.page_items allItems] at items
      exact (List.map_injective_iff.mpr fun _ _ => Except.ok.inj) items.symm
    rw [whole all everything,orNotFound_inj,part]
    exact getElem?_cut_same distinct

theorem elementAt_indexes_people :
    (((everyone.take 2).elementAt (Engine.listing peopleText) 1).runFrom twoPeople).1 =
      .ok [.int 2,.text "b",.null] ∧
    (((everyone.skip 1).elementAt (Engine.listing peopleText) 0).runFrom twoPeople).1 ≠
      orNotFound "Person" (some [.int 2,.text "b",.null]) := by
  have second := elementAt_indexes (Engine.listing peopleText) twoPeople (everyone.take 2) 1 (by decide)
    everyone_reads
  have first := elementAt_indexes (Engine.listing peopleText) twoPeople (everyone.skip 1) 0 (by decide)
    everyone_reads
  have elsewhere := (first.2 _ skipped_listed).2 _ everyone_listed (by simp)
  exact ⟨second.1 _ everyone_listed,fun same => absurd (elsewhere.mp same) (by decide)⟩

-- Behind a skip the index still counts from the first row of all.
theorem elementAt_leaves_page :
    ¬ ∀ (engine : Engine Stream) (s : Stream) (q : Query (List Value)) (index : UInt64)
      (rows : List (List Value)), index.toNat + q.start.getD 0 < 2 ^ 63 →
      (∀ st, q.unpaged.statement = .ok st → ∃ found, engine.ReadsNumerals s st found) →
      ((q.toList engine).runFrom s).1 = .ok rows →
      ((q.elementAt engine index).runFrom s).1 = orNotFound q.table rows[index.toNat]? := by
  intro indexes
  have second := indexes (Engine.listing peopleText) twoPeople (everyone.skip 1) 0 _ (by decide)
    everyone_reads skipped_listed
  have items : (twoPeople.page none 0).items (everyone.skip 1).entity.decode =
      [[.int 1,.text "a",.int 30],[.int 2,.text "b",.null]].map .ok := rfl
  have unlimited : ∀ n ∈ (none : Option Nat), (0 : UInt64).toNat < n := nofun
  have first := (everyone.skip 1).elementAt_page
    (Engine.listing_reads ⟨peopleText,[]⟩ twoPeople).slices rfl (by decide) unlimited items
  have same := orNotFound_inj.mp (first.symm.trans second)
  cases same

end TypedRows
