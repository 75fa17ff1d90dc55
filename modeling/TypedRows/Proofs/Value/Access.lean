import TypedRows.Proofs.Expr.Outline

namespace TypedRows

-- Conversion against the readers that take a value only in its own form or in a form next to it:
-- what they read is what a conversion gives, and to convert again changes nothing.

def ValueType.reads : ValueType → Value → Option Value
  | .integer, v => v.asInt.map .int
  | .real, v => v.asFloat.map .float
  | .text, v => v.asText.map .text
  | .bool, v => v.asBool.map .bool
  | .timestamp, v => v.asTimestamp.map .timestamp
  | .blob, v => v.asBlob.map .blob

namespace Value

variable {v w x : Value} {type : ValueType}

theorem isNull_iff : v.isNull = true ↔ v = .null := by
  cases v <;> simp [isNull]

theorem eq_text_of_asText {s : String} (read : v.asText = some s) : v = .text s := by
  cases v <;> cases read
  rfl

theorem eq_blob_of_asBlob {bytes : ByteArray} (read : v.asBlob = some bytes) : v = .blob bytes := by
  cases v <;> cases read
  rfl

theorem toInteger_of_asInt {n : Int64} (read : v.asInt = some n) : v.toInteger = some (.int n) := by
  cases v <;> cases read <;> rfl

theorem toReal_of_asFloat {y : Double} (read : v.asFloat = some y) : v.toReal = some (.float y) := by
  cases v <;> cases read <;> rfl

theorem toBool_of_asBool {b : Bool} (read : v.asBool = some b) : v.toBool = some (.bool b) := by
  cases v with
  | bool c =>
    cases read
    rfl
  | int n =>
    change (if n = 1 then some true else if n = 0 then some false else none) = some b at read
    split at read
    · rename_i one
      cases read
      rw [one]
      rfl
    · split at read
      · rename_i zero
        cases read
        rw [zero]
        rfl
      · cases read
  | _ => cases read

theorem convert_of_reads (read : type.reads v = some x) : v.convert type = some x := by
  have valued : ¬ v.isNull = true := by
    intro null
    obtain rfl := isNull_iff.mp null
    cases type <;> cases read
  unfold convert
  rw [if_neg valued]
  cases type with
  | integer =>
    obtain ⟨n,found,rfl⟩ := Option.map_eq_some_iff.mp read
    exact toInteger_of_asInt found
  | real =>
    obtain ⟨y,found,rfl⟩ := Option.map_eq_some_iff.mp read
    exact toReal_of_asFloat found
  | text =>
    obtain ⟨s,found,rfl⟩ := Option.map_eq_some_iff.mp read
    rw [eq_text_of_asText found]
    rfl
  | bool =>
    obtain ⟨b,found,rfl⟩ := Option.map_eq_some_iff.mp read
    exact toBool_of_asBool found
  | timestamp => exact read
  | blob =>
    obtain ⟨bytes,found,rfl⟩ := Option.map_eq_some_iff.mp read
    rw [eq_blob_of_asBlob found]
    rfl

end Value

namespace Captured

variable {items : List Captured} {target : ValueType}

theorem coerce_list_succeeds : (∃ w, (list items).coerce target = .ok w) ↔
    ∀ item ∈ items, ∃ w, item.coerce target = .ok w := by
  rw [← exists_forall₂]
  constructor
  · rintro ⟨w,coerced⟩
    obtain ⟨ws,_,each⟩ := coerce_list.mp coerced
    exact ⟨ws,each⟩
  · rintro ⟨ws,each⟩
    exact ⟨.list ws,coerce_list.mpr ⟨ws,rfl,each⟩⟩

end Captured

-- A conversion gives null for null and otherwise a value in the form of its type; it leaves what
-- has that form, and so its own results, as they are, and agrees with the reader of the type where
-- that one reads anything. A list is converted element by element, exactly if all its elements can
-- be, and stays the list it was up to the content of its scalars.
theorem coerce_projects (type : ValueType) :
    (∀ v w : Value, v.coerce type = .ok w →
      (w = .null ↔ v = .null) ∧ type.Fits w ∧ w.coerce type = .ok w) ∧
    (∀ v : Value, type.Fits v → v.coerce type = .ok v) ∧
    (∀ v x : Value, type.reads v = some x → v.coerce type = .ok x) ∧
    (∀ items : List Captured, (∃ w, (Captured.list items).coerce type = .ok w) ↔
      ∀ item ∈ items, ∃ w, item.coerce type = .ok w) ∧
    ∀ (items : List Captured) (w : Captured), (Captured.list items).coerce type = .ok w →
      (∃ ws, w = .list ws ∧ List.Forall₂ (fun item w => item.coerce type = .ok w) items ws) ∧
      w.outline = (Captured.list items).outline ∧ w.coerce type = .ok w := by
  refine ⟨fun v w coerced => ⟨?_,?_,Value.coerce_coerced coerced⟩,?_,?_,
    fun items => Captured.coerce_list_succeeds,fun items w coerced => ?_⟩
  · rw [← Value.isNull_iff,← Value.isNull_iff,Value.coerce_isNull coerced]
  · exact Value.fits_of_convert (Value.coerce_ok.mp coerced)
  · exact fun v fits => Value.coerce_ok.mpr (Value.convert_of_fits fits)
  · exact fun v x read => Value.coerce_ok.mpr (Value.convert_of_reads read)
  · exact ⟨Captured.coerce_list.mp coerced,Captured.coerce_outline coerced,
      Captured.coerce_coerced coerced⟩

def ballots : List Captured :=
  [.scalar (.text " TRUE "),.list [.scalar .null,.scalar (.int 1)],.scalar (.bool false)]

theorem coerce_projects_ballots :
    (Value.int 1).coerce .bool = .ok (.bool true) ∧
    (∃ w, (Captured.list ballots).coerce .bool = .ok w ∧ w.coerce .bool = .ok w ∧
      w.outline = (Captured.list ballots).outline) ∧
    ¬ ∃ w, (Captured.list (.scalar (.text "yes") :: ballots)).coerce .bool = .ok w := by
  obtain ⟨_,_,reads,succeeds,keeps⟩ := coerce_projects .bool
  have coerced : (Captured.list ballots).coerce .bool =
      .ok (.list [.scalar (.bool true),.list [.scalar .null,.scalar (.bool true)],
        .scalar (.bool false)]) := by rfl
  obtain ⟨_,shape,again⟩ := keeps ballots _ coerced
  refine ⟨reads (.int 1) (.bool true) rfl,⟨_,coerced,again,shape⟩,fun converted => ?_⟩
  obtain ⟨w,refused⟩ := (succeeds _).mp converted (.scalar (.text "yes")) List.mem_cons_self
  cases refused

end TypedRows
