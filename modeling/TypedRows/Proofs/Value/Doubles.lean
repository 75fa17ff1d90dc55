import TypedRows.Proofs.Expr.Rebinding
import TypedRows.Proofs.Number.Rounding
import TypedRows.Proofs.Value.Integers

namespace TypedRows

-- Doubles converted to integers: those that have a nearest integer of 64 bits, and those that
-- have none and get one all the same.

namespace Double

variable {x : Double} {i : Int64} {negative : Bool} {m : ℕ} {e : ℤ}

def RoundsTo (x : Double) (i : Int64) : Prop := ∃ q, x.value = some q ∧ Nearest q i.toInt

-- What is taken where there is none: the end of the range on the side of the double, and zero
-- for NaN.
def standIn (x : Double) : Int64 :=
  match x.view with
  | .nan => 0
  | .infinite negative => if negative then Int64.minValue else Int64.maxValue
  | .finite negative _ _ => if negative then Int64.minValue else Int64.maxValue

def ConvertsExactly (x : Double) : Prop :=
  (∀ i : Int64, (Value.float x).coerce .integer = .ok (.int i) ↔ x.RoundsTo i) ∧
    ((¬ ∃ i, x.RoundsTo i) →
      (Value.float x).coerce .integer = .error (.conversion (.value (.float x) .integer)))

def Becomes (x : Double) (i : Int64) : Prop :=
  x.RoundsTo i ∨ (¬ ∃ k, x.RoundsTo k) ∧ i = x.standIn

theorem roundsTo_iff : x.RoundsTo i ↔
    ∃ negative m e, x.view = .finite negative m e ∧ i.toInt = nearestInt negative m e := by
  simp only [RoundsTo,value_eq_some]
  constructor
  · rintro ⟨_,⟨negative,m,e,finite,rfl⟩,near⟩
    exact ⟨negative,m,e,finite,(nearest_nearestInt negative m e).unique near⟩
  · rintro ⟨negative,m,e,finite,same⟩
    exact ⟨_,⟨negative,m,e,finite,rfl⟩,by rw [same]; exact nearest_nearestInt negative m e⟩

theorem nearestInt_sign (negative : Bool) (m : ℕ) (e : ℤ) :
    if negative then nearestInt negative m e ≤ 0 else 0 ≤ nearestInt negative m e := by
  cases negative <;> simp [nearestInt]

theorem clampInt64_toInt (i : Int64) : clampInt64 i.toInt = i := by
  obtain ⟨low,high⟩ := int64_range.mpr ⟨i,rfl⟩
  rw [clampInt64,if_neg (Int.not_lt.mpr low),if_neg (Int.not_lt.mpr high),Int64.ofInt_toInt]

theorem toInt64_of_roundsTo (rounds : x.RoundsTo i) : x.toInt64 = i := by
  obtain ⟨negative,m,e,finite,same⟩ := roundsTo_iff.mp rounds
  rw [toInt64,finite]
  dsimp only
  rw [← same,clampInt64_toInt]

theorem toInt64_of_unrounded (unrounded : ¬ ∃ i, x.RoundsTo i) : x.toInt64 = x.standIn := by
  unfold toInt64 standIn
  cases view : x.view with
  | nan | infinite => rfl
  | finite negative m e =>
    have outside : ¬ (Int64.minValue.toInt ≤ nearestInt negative m e ∧
        nearestInt negative m e ≤ Int64.maxValue.toInt) := by
      rw [int64_range]
      rintro ⟨i,same⟩
      exact unrounded ⟨i,roundsTo_iff.mpr ⟨negative,m,e,view,same⟩⟩
    have sign := nearestInt_sign negative m e
    rw [Int64.toInt_minValue,Int64.toInt_maxValue] at outside
    dsimp only
    rw [clampInt64,Int64.toInt_minValue,Int64.toInt_maxValue]
    cases negative with
    | true =>
      rw [if_pos rfl] at sign
      rw [if_pos (by omega),if_pos rfl]
    | false =>
      rw [if_neg Bool.false_ne_true] at sign
      rw [if_neg (by omega),if_pos (by omega),if_neg Bool.false_ne_true]

theorem toInt64_eq : x.toInt64 = i ↔ x.Becomes i := by
  unfold Becomes
  by_cases rounded : ∃ k, x.RoundsTo k
  · obtain ⟨k,rounds⟩ := rounded
    rw [toInt64_of_roundsTo rounds]
    constructor
    · rintro rfl
      exact .inl rounds
    · rintro (same | ⟨unrounded,_⟩)
      · exact (toInt64_of_roundsTo rounds).symm.trans (toInt64_of_roundsTo same)
      · exact absurd ⟨k,rounds⟩ unrounded
  · rw [toInt64_of_unrounded rounded]
    constructor
    · exact fun same => .inr ⟨rounded,same.symm⟩
    · rintro (rounds | ⟨_,same⟩)
      · exact absurd ⟨i,rounds⟩ rounded
      · exact same.symm

theorem coerce_integer {w : Value} :
    (Value.float x).coerce .integer = .ok w ↔ ∃ i : Int64, w = .int i ∧ x.Becomes i := by
  rw [Value.coerce_ok]
  change some (Value.int x.toInt64) = some w ↔ _
  simp only [← toInt64_eq,Option.some.injEq]
  constructor
  · rintro rfl
    exact ⟨_,rfl,rfl⟩
  · rintro ⟨_,rfl,rfl⟩
    rfl

theorem coerce_int : (Value.float x).coerce .integer = .ok (.int i) ↔ x.Becomes i := by
  rw [coerce_integer]
  constructor
  · rintro ⟨_,same,becomes⟩
    cases same
    exact becomes
  · exact fun becomes => ⟨i,rfl,becomes⟩

theorem becomes_toInt64 (x : Double) : x.Becomes x.toInt64 := toInt64_eq.mp rfl

theorem becomes_of_roundsTo (rounded : ∃ k, x.RoundsTo k) : x.Becomes i ↔ x.RoundsTo i :=
  ⟨fun becomes => becomes.elim id fun invented => absurd rounded invented.1,.inl⟩

theorem convertsExactly_iff : x.ConvertsExactly ↔ ∃ i, x.RoundsTo i := by
  constructor
  · intro exact
    by_contra unrounded
    have refused := exact.2 unrounded
    rw [coerce_int.mpr x.becomes_toInt64] at refused
    cases refused
  · intro rounded
    refine ⟨fun i => ?_,fun unrounded => absurd rounded unrounded⟩
    rw [coerce_int,becomes_of_roundsTo rounded]

theorem becomes_roundsTo {xs : List Double} {is : List Int64} (each : List.Forall₂ Becomes xs is) :
    List.Forall₂ RoundsTo xs is ↔ ∀ x ∈ xs, ∃ i, x.RoundsTo i := by
  induction each with
  | nil => simp
  | cons first _ ih =>
    rw [List.forall₂_cons,List.forall_mem_cons,ih]
    refine and_congr_left fun _ => ?_
    exact ⟨fun rounds => ⟨_,rounds⟩,fun rounded => (becomes_of_roundsTo rounded).mp first⟩

end Double

theorem Compiles.converted {m : Mapping} {target : ValueType} {operand : Expr} {a : Operand}
    {v : Captured} {bound : List Value} (compiled : Compiles m operand a)
    (valued : a.fragment.value = some v) (bare : isPlaceholderForm a.text.toList = true)
    (each : List.Forall₂ (fun x y => x.coerce target = .ok y) a.args bound) :
    ∃ w, Compiles m (.convert target operand) ⟨{a.fragment with value := some w},bound⟩ := by
  obtain ⟨w,coerced,taken⟩ := Captured.coerce_bindable.mpr ⟨_,compiled.bindable valued bare,each⟩
  obtain ⟨rebinds,_⟩ := (compiled.bindable valued bare).coerce coerced
  refine ⟨w,compiles_convert.mpr ⟨a,compiled,.inr ⟨v,w,valued,coerced,?_⟩⟩⟩
  rw [if_pos bare,taken.unique rebinds]

-- Every double is converted to some integer. It is the nearest one, and the even one of two, where
-- 64 bits hold it; a double that has none becomes an end of the range, or zero if it is NaN, and is
-- never refused. The arguments that a condition binds for converted doubles are the same.
theorem double_conversion_saturates (m : Mapping) :
    (∀ (x : Double) (w : Value), (Value.float x).coerce .integer = .ok w ↔
      ∃ i : Int64, w = .int i ∧ x.Becomes i) ∧
    (∀ x : Double, x.ConvertsExactly ↔ ∃ i, x.RoundsTo i) ∧
    ∀ (operand : Expr) (pre : List Value) (g : Fragment) (v : Captured) (xs : List Double),
      (operand.compile m).runFrom pre = (.ok g,pre ++ xs.map .float) → g.value = some v →
      isPlaceholderForm g.text.toList = true →
      ∃ w is, ((Expr.convert .integer operand).compile m).runFrom pre =
          (.ok {g with value := some w},pre ++ is.map .int) ∧
        List.Forall₂ Double.Becomes xs is ∧
        (List.Forall₂ Double.RoundsTo xs is ↔ ∀ x ∈ xs, ∃ i, x.RoundsTo i) := by
  refine ⟨fun x w => Double.coerce_integer,fun x => Double.convertsExactly_iff,?_⟩
  intro operand pre g v xs compiled valued bare
  obtain ⟨bound,compiled,appended⟩ := compiles_of_runFrom compiled
  obtain rfl := List.append_cancel_left appended
  have becomes : List.Forall₂ Double.Becomes xs (xs.map Double.toInt64) :=
    List.forall₂_map_right_iff.mpr (List.forall₂_same.mpr fun x _ => x.becomes_toInt64)
  have each : List.Forall₂ (fun x y => x.coerce .integer = .ok y) (xs.map Value.float)
      ((xs.map Double.toInt64).map Value.int) := by
    rw [List.forall₂_map_left_iff,List.forall₂_map_right_iff]
    exact becomes.imp fun x i => Double.coerce_int.mpr
  obtain ⟨w,converted⟩ := compiled.converted valued bare each
  exact ⟨w,_,converted.runFrom pre,becomes,Double.becomes_roundsTo becomes⟩

-- Halfway between 2 and 3, the first power of two that 64 bits do not hold, and NaN.
def readings : List Double := [⟨0x4004000000000000⟩,⟨0x43e0000000000000⟩,Double.nan]

def readingsListed : Expr := .values (readings.map fun x => .scalar (.float x))

theorem double_conversion_saturates_readings :
    (Value.float ⟨0x4004000000000000⟩).coerce .integer = .ok (.int 2) ∧
    ¬ (⟨0x43e0000000000000⟩ : Double).ConvertsExactly ∧
    ∃ w is, ((Expr.convert .integer readingsListed).compile person).runFrom [.null] =
        (.ok ⟨"(?,?,?)",some w⟩,.null :: is.map .int) ∧
      List.Forall₂ Double.Becomes readings is ∧ ¬ List.Forall₂ Double.RoundsTo readings is := by
  obtain ⟨converts,exact,binds⟩ := double_conversion_saturates person
  have half : (⟨0x4004000000000000⟩ : Double).RoundsTo 2 :=
    Double.roundsTo_iff.mpr ⟨false,5629499534213120,-51,by rfl,by rfl⟩
  have beyond : ¬ ∃ i, (⟨0x43e0000000000000⟩ : Double).RoundsTo i := by
    rintro ⟨i,rounds⟩
    obtain ⟨negative,m,e,finite,same⟩ := Double.roundsTo_iff.mp rounds
    cases (show (⟨0x43e0000000000000⟩ : Double).view = .finite false (2 ^ 52) 11 by rfl).symm.trans finite
    have bound := i.toInt_lt
    rw [same] at bound
    exact absurd bound (by decide)
  obtain ⟨w,is,ran,becomes,all⟩ := binds readingsListed [.null] ⟨"(?,?,?)",_⟩ _ readings rfl rfl rfl
  refine ⟨(converts _ _).mpr ⟨2,rfl,.inl half⟩,(exact _).not.mpr beyond,w,is,ran,becomes,?_⟩
  rw [all]
  exact fun rounded => beyond (rounded _ (by simp [readings]))

theorem nan_becomes_zero : (Value.float Double.nan).coerce .integer = .ok (.int 0) ∧
    ¬ ∀ x : Double, x.ConvertsExactly := by
  refine ⟨by rfl,fun exact => ?_⟩
  obtain ⟨i,rounds⟩ := Double.convertsExactly_iff.mp (exact Double.nan)
  obtain ⟨_,_,_,finite,_⟩ := Double.roundsTo_iff.mp rounds
  cases (show Double.nan.view = .nan by rfl).symm.trans finite

end TypedRows
