import TypedRows.Proofs.Text.Numerals
import TypedRows.Proofs.Value.Conversion

namespace TypedRows

-- Whole numbers as texts: which texts are converted to an integer, to which one, and that the
-- text of an integer is among them.

section

variable {cs : List Char} {n : Int64} {z : Int}

theorem int64_range : (Int64.minValue.toInt ≤ z ∧ z ≤ Int64.maxValue.toInt) ↔
    ∃ n : Int64, n.toInt = z := by
  constructor
  · intro inside
    rw [Int64.toInt_minValue,Int64.toInt_maxValue] at inside
    exact ⟨Int64.ofInt z,Int64.toInt_ofInt_of_le inside.1 (by omega)⟩
  · rintro ⟨n,rfl⟩
    exact ⟨n.minValue_le_toInt,n.toInt_le⟩

theorem readInt64_eq_some : readInt64 cs = some n ↔ Text.StandsFor cs n.toInt := by
  rw [← Text.denotes_trim,← Text.readSigned_eq_some]
  unfold readInt64
  cases read : Text.readSigned (Text.trim cs) with
  | none => simp
  | some z =>
    dsimp only
    rw [Option.some.injEq]
    split
    · rename_i within
      obtain ⟨k,rfl⟩ := int64_range.mp within
      rw [Int64.ofInt_toInt,Option.some.injEq,Int64.toInt_inj]
    · rename_i outside
      refine iff_of_false nofun fun same => outside ?_
      rw [same]
      exact int64_range.mpr ⟨n,rfl⟩

end

namespace Value

variable {s : String} {w : Value} {n : Int64}

theorem coerce_text_integer : (Value.text s).coerce .integer = .ok w ↔
    ∃ n : Int64, w = .int n ∧ Text.StandsFor s.toList n.toInt := by
  simp only [coerce_ok,← readInt64_eq_some]
  change (readInt64 s.toList).map Value.int = some w ↔ _
  rw [Option.map_eq_some_iff]
  exact exists_congr fun n => by rw [and_comm,eq_comm]

theorem coerce_error {v : Value} {type : ValueType} :
    v.coerce type = .error (.conversion (.value v type)) ↔ ¬ ∃ w, v.coerce type = .ok w := by
  unfold coerce
  cases v.convert type <;> simp

end Value

-- A text is converted to an integer exactly if, up to blanks at both ends, it is a sign or none and
-- digits whose number 64 bits hold; that number is the result, and every other text is refused.
-- The text of an integer is such a text, and gives the integer again, with any blanks around it.
theorem integer_text_read_exactly :
    (∀ (s : String) (w : Value), (Value.text s).coerce .integer = .ok w ↔
      ∃ n : Int64, w = .int n ∧ Text.StandsFor s.toList n.toInt) ∧
    (∀ s : String, (Value.text s).coerce .integer =
        .error (.conversion (.value (.text s) .integer)) ↔
      ¬ ∃ z : Int, Text.StandsFor s.toList z ∧ -2 ^ 63 ≤ z ∧ z < 2 ^ 63) ∧
    ∀ (n : Int64) (before after : List Char), Text.Blanks before → Text.Blanks after →
      ∃ t : String, (Value.int n).coerce .text = .ok (.text t) ∧
        (Value.text (String.ofList (before ++ t.toList ++ after))).coerce .integer = .ok (.int n) := by
  refine ⟨fun s w => Value.coerce_text_integer,fun s => ?_,fun n before after first last => ?_⟩
  · rw [Value.coerce_error,not_iff_not]
    constructor
    · rintro ⟨w,read⟩
      obtain ⟨n,_,stands⟩ := Value.coerce_text_integer.mp read
      exact ⟨n.toInt,stands,n.le_toInt,n.toInt_lt⟩
    · rintro ⟨z,stands,low,high⟩
      obtain ⟨n,rfl⟩ := int64_range.mp ⟨low,Int.lt_add_one_iff.mp high⟩
      exact ⟨_,Value.coerce_text_integer.mpr ⟨n,rfl,stands⟩⟩
  · refine ⟨String.ofList (Text.signed n.toInt),rfl,Value.coerce_text_integer.mpr ⟨n,rfl,?_⟩⟩
    rw [String.toList_ofList,String.toList_ofList]
    exact ⟨before,_,after,rfl,first,last,.signed n.toInt⟩

theorem integer_text_read_exactly_extremes :
    Text.StandsFor " -009223372036854775808".toList (-2 ^ 63) ∧
    (Value.text " -009223372036854775808").coerce .integer = .ok (.int Int64.minValue) ∧
    (¬ ∃ z : Int, Text.StandsFor "-9223372036854775809".toList z ∧ -2 ^ 63 ≤ z ∧ z < 2 ^ 63) ∧
    (¬ ∃ z : Int, Text.StandsFor "+".toList z ∧ -2 ^ 63 ≤ z ∧ z < 2 ^ 63) ∧
    ∃ t : String, (Value.int Int64.maxValue).coerce .text = .ok (.text t) ∧
      (Value.text (String.ofList (['\t'] ++ t.toList ++ ['\u3000']))).coerce .integer =
        .ok (.int Int64.maxValue) := by
  obtain ⟨reads,refuses,writes⟩ := integer_text_read_exactly
  have stands : Text.StandsFor " -009223372036854775808".toList (-2 ^ 63) :=
    ⟨[' '],"-009223372036854775808".toList,[],rfl,by decide,by decide,.minus (by decide)⟩
  refine ⟨stands,(reads _ _).mpr ⟨_,rfl,stands⟩,?_,?_,?_⟩
  · exact (refuses _).mp (by rfl)
  · exact (refuses _).mp (by rfl)
  · exact writes _ ['\t'] ['\u3000'] (by decide) (by decide)

end TypedRows
