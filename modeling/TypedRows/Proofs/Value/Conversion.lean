import TypedRows.Error

namespace TypedRows

-- What a conversion makes of a single value has the form of its type, and what has that form
-- already is left alone. Null has the form of every type.

inductive ValueType.Fits : ValueType → Value → Prop where
  | null (type : ValueType) : Fits type .null
  | int (n : Int64) : Fits .integer (.int n)
  | float (x : Double) : Fits .real (.float x)
  | text (s : String) : Fits .text (.text s)
  | bool (b : Bool) : Fits .bool (.bool b)
  | timestamp (t : Timestamp) : Fits .timestamp (.timestamp t)
  | blob (bytes : ByteArray) : Fits .blob (.blob bytes)

namespace Value

variable {v w : Value} {type : ValueType}

theorem convert_of_fits (fits : type.Fits v) : v.convert type = some v := by
  cases fits <;> rfl

theorem fits_of_convert (converted : v.convert type = some w) : type.Fits w := by
  unfold convert at converted
  split at converted
  · cases converted
    exact .null type
  · cases type with
    | integer =>
      obtain ⟨n,rfl⟩ : ∃ n, w = .int n := by cases v <;> grind [Option.map_eq_some_iff,toInteger]
      exact .int n
    | real =>
      obtain ⟨x,rfl⟩ : ∃ x, w = .float x := by cases v <;> grind [Option.map_eq_some_iff,toReal]
      exact .float x
    | text =>
      obtain ⟨s,rfl⟩ : ∃ s, w = .text s := by cases v <;> grind [toText]
      exact .text s
    | bool =>
      obtain ⟨b,rfl⟩ : ∃ b, w = .bool b := by cases v <;> grind [Option.map_eq_some_iff,toBool]
      exact .bool b
    | timestamp =>
      obtain ⟨t,_,rfl⟩ := Option.map_eq_some_iff.mp converted
      exact .timestamp t
    | blob =>
      obtain ⟨bytes,rfl⟩ : ∃ bytes, w = .blob bytes := by cases v <;> grind [toBlob]
      exact .blob bytes

theorem coerce_ok : v.coerce type = .ok w ↔ v.convert type = some w := by
  unfold coerce
  cases v.convert type <;> simp

theorem convert_isNull (converted : v.convert type = some w) :
    w.isNull = v.isNull := by
  unfold convert at converted
  split at converted
  · rename_i null
    cases converted
    exact null.symm
  · rename_i valued
    rw [Bool.not_eq_true] at valued
    rw [valued]
    cases type with
    | integer => cases v <;> grind [Option.map_eq_some_iff,toInteger,isNull]
    | real => cases v <;> grind [Option.map_eq_some_iff,toReal,asFloat,isNull]
    | text => cases v <;> grind [toText,isNull]
    | bool => cases v <;> grind [Option.map_eq_some_iff,toBool,isNull]
    | timestamp => cases v <;> grind [Option.map_eq_some_iff,asTimestamp,isNull]
    | blob => cases v <;> grind [toBlob,isNull]

theorem coerce_isNull (coerced : v.coerce type = .ok w) : w.isNull = v.isNull :=
  convert_isNull (coerce_ok.mp coerced)

theorem coerce_coerced (coerced : v.coerce type = .ok w) : w.coerce type = .ok w :=
  coerce_ok.mpr (convert_of_fits (fits_of_convert (coerce_ok.mp coerced)))

end Value

end TypedRows
