import TypedRows.Proofs.Sql.Characters
import TypedRows.Sql.Function

namespace TypedRows.Sql

-- Windows at the two ends of a text. They equal a second text exactly where the first starts or
-- ends with it.

variable {α : Type} {xs ys : List α} {start length : Int}

theorem window_front (n : Nat) : window xs 1 n = xs.take n := by
  have still : ¬ (n : Int) < 0 := by omega
  simp [window,still]

theorem window_back {n : Nat} (fits : n ≤ xs.length) :
    window xs (-n) n = xs.drop (xs.length - n) := by
  have still : ¬ (n : Int) < 0 := by omega
  cases n with
  | zero => simp [window]
  | succ k =>
    have back : -((k + 1 : Nat) : Int) < 0 := by omega
    have inside : ¬ (xs.length : Int) + -((k + 1 : Nat) : Int) < 0 := by omega
    have first : ((xs.length : Int) + -((k + 1 : Nat) : Int)).toNat = xs.length - (k + 1) := by omega
    simp only [window,back,inside,still,if_true,if_false,first,Int.toNat_natCast]
    exact List.take_of_length_le (by rw [List.length_drop]; omega)

theorem window_sublist : (window xs start length).Sublist xs :=
  (List.take_sublist _ _).trans (List.drop_sublist _ _)

theorem window_eq_iff_prefix (exact : ys.length ≤ xs.length → length = ys.length) :
    window xs 1 length = ys ↔ ys <+: xs := by
  constructor
  · rintro rfl
    rw [exact window_sublist.length_le,window_front]
    exact List.take_prefix _ _
  · intro starts
    rw [exact starts.length_le,window_front]
    exact (List.prefix_iff_eq_take.mp starts).symm

theorem window_eq_iff_suffix
    (exact : ys.length ≤ xs.length → start = -ys.length ∧ length = ys.length) :
    window xs start length = ys ↔ ys <:+ xs := by
  constructor
  · intro same
    have part : ys.Sublist xs := same ▸ window_sublist
    obtain ⟨rfl,rfl⟩ := exact part.length_le
    rw [← same,window_back part.length_le]
    exact List.drop_suffix _ _
  · intro ends
    obtain ⟨rfl,rfl⟩ := exact ends.length_le
    rw [window_back ends.length_le]
    exact (List.suffix_iff_eq_drop.mp ends).symm

theorem window_map {β : Type} (f : α → β) :
    window (xs.map f) start length = (window xs start length).map f := by
  simp only [window,List.length_map,List.map_take,List.map_drop]

theorem substring_bytesOf {s : String} {d e : Datum} {first count : Int64}
    (begins : integerOf d = some first) (measured : integerOf e = some count) :
    substring (.text (bytesOf s)) d (some e) =
      .text (bytesOf (String.ofList (window (visible s.toList) first.toInt count.toInt))) := by
  rw [bytesOf_eq (String.ofList _),String.toList_ofList,List.flatMap_def,← window_map,
    ← characters_bytesOf]
  simp only [substring,begins,measured,Option.map_some,textOf]

end TypedRows.Sql
