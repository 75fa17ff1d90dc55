import TypedRows.Proofs.Expr.Tokens

namespace TypedRows

-- Two lists of arguments of which the second holds every null at the same place as the
-- first or further back, and the other values in the same order. Comparing with null on the
-- left binds the null first and writes its placeholder last, which is such a delay.

def nullCount (vs : List Value) : Nat := vs.countP Value.isNull

def nullWeight : List Value → Nat
  | [] => 0
  | _ :: rest => nullWeight rest + nullCount rest

structure Delayed (args values : List Value) : Prop where
  length : args.length = values.length
  count : nullCount args = nullCount values
  weight : nullWeight args ≤ nullWeight values

theorem nullCount_le_length (vs : List Value) : nullCount vs ≤ vs.length := List.countP_le_length

theorem nullWeight_append (xs ys : List Value) :
    nullWeight (xs ++ ys) = nullWeight xs + nullWeight ys + xs.length * nullCount ys := by
  induction xs with
  | nil => simp [nullWeight]
  | cons x rest ih =>
    have counted : nullCount (rest ++ ys) = nullCount rest + nullCount ys := List.countP_append
    rw [List.cons_append,nullWeight,nullWeight,ih,counted,List.length_cons,Nat.succ_mul]
    omega

theorem nullWeight_concat (vs : List Value) :
    nullWeight (vs ++ [.null]) = nullWeight vs + vs.length := by
  simp [nullWeight_append,nullWeight,nullCount,Value.isNull]

theorem eq_replicate_null {vs : List Value} (full : nullCount vs = vs.length) :
    vs = List.replicate vs.length .null := by
  refine List.eq_replicate_of_mem fun v present => ?_
  have isNull := List.countP_eq_length.mp full v present
  cases v <;> simp_all [Value.isNull]

namespace Delayed

theorem refl (vs : List Value) : Delayed vs vs := ⟨rfl,rfl,Nat.le_refl _⟩

theorem append {xs vs ys ws : List Value} (first : Delayed xs vs) (second : Delayed ys ws) :
    Delayed (xs ++ ys) (vs ++ ws) := by
  refine ⟨by simp [first.length,second.length],?_,?_⟩
  · simp only [nullCount,List.countP_append]
    exact congrArg₂ (· + ·) first.count second.count
  · rw [nullWeight_append,nullWeight_append,first.length,second.count]
    exact Nat.add_le_add_right (Nat.add_le_add first.weight second.weight) _

theorem append_eq_iff {xs vs ys ws : List Value} (first : Delayed xs vs) :
    xs ++ ys = vs ++ ws ↔ xs = vs ∧ ys = ws :=
  ⟨fun same => List.append_inj same first.length,fun same => by rw [same.1,same.2]⟩

-- Turning a null from the front to the end is a delay, and none only between nulls.
theorem turn {xs vs : List Value} (delayed : Delayed xs vs) :
    Delayed (.null :: xs) (vs ++ [.null]) := by
  refine ⟨by simp [delayed.length],?_,?_⟩
  · simpa [nullCount,List.countP_cons,Value.isNull] using delayed.count
  · have bound := nullCount_le_length vs
    rw [nullWeight_concat,nullWeight,delayed.count]
    exact Nat.add_le_add delayed.weight bound

theorem turn_eq_iff {xs vs : List Value} (delayed : Delayed xs vs) :
    Value.null :: xs = vs ++ [.null] ↔ xs = vs ∧ ∀ v ∈ vs, v = .null := by
  constructor
  · intro same
    have weights := congrArg nullWeight same
    rw [nullWeight_concat,nullWeight,delayed.count] at weights
    have bound := nullCount_le_length vs
    have before := delayed.weight
    -- The weights leave no place for anything but nulls.
    have full : nullCount vs = vs.length := by omega
    have turned := eq_replicate_null (delayed.count.trans (full.trans delayed.length.symm))
    have straight := eq_replicate_null full
    refine ⟨by rw [turned,delayed.length]; exact straight.symm,fun v present => ?_⟩
    rw [straight] at present
    exact List.eq_of_mem_replicate present
  · rintro ⟨rfl,all⟩
    rw [List.eq_replicate_of_mem all,← List.replicate_succ,List.replicate_succ']

end Delayed

end TypedRows
