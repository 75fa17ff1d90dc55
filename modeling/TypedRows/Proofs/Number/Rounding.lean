import Mathlib.Algebra.Order.Field.Basic
import Mathlib.Algebra.Order.Field.Rat
import Mathlib.Tactic.FieldSimp
import Mathlib.Tactic.Linarith
import Mathlib.Tactic.NormNum
import Mathlib.Tactic.Ring
import TypedRows.Number.Double

namespace TypedRows

-- The whole number that a double is rounded to, against the exact value of the double.

-- Every other whole number is further away, or as far away and not preferred to an even one.
def Nearest (q : ℚ) (z : ℤ) : Prop :=
  ∀ k : ℤ, k ≠ z → |q - z| < |q - k| ∨ |q - z| = |q - k| ∧ Even z

section

variable {q : ℚ} {y z : ℤ}

theorem one_le_apart (apart : y ≠ z) : (1 : ℚ) ≤ |(y : ℚ) - z| := by
  have whole : (1 : ℤ) ≤ |y - z| := Int.one_le_abs (sub_ne_zero.mpr apart)
  exact_mod_cast whole

theorem far_of_near (apart : y ≠ z) : 1 - |q - z| ≤ |q - y| := by
  have whole := one_le_apart apart
  have path := abs_sub_le (y : ℚ) q z
  rw [abs_sub_comm (y : ℚ) q] at path
  linarith

theorem nearest_of_lt (near : |q - z| < 1 / 2) : Nearest q z := by
  intro k other
  have far := far_of_near (q := q) other
  exact .inl (by linarith)

theorem nearest_of_half (half : |q - z| = 1 / 2) (even : Even z) : Nearest q z := by
  intro k other
  have far := far_of_near (q := q) other
  rw [half] at far ⊢
  rcases lt_or_eq_of_le (show (1 / 2 : ℚ) ≤ |q - k| by linarith) with less | same
  · exact .inl less
  · exact .inr ⟨same,even⟩

theorem Nearest.le_half (nearest : Nearest q z) : |q - z| ≤ 1 / 2 := by
  have above : |q - z| ≤ |q - (z + 1 : ℤ)| := (nearest (z + 1) (by omega)).elim le_of_lt fun tie => tie.1.le
  have below : |q - z| ≤ |q - (z - 1 : ℤ)| := (nearest (z - 1) (by omega)).elim le_of_lt fun tie => tie.1.le
  push_cast at above below
  rcases abs_cases (q - z) with ⟨here,_⟩ | ⟨here,_⟩ <;>
    rcases abs_cases (q - (z + 1)) with ⟨up,_⟩ | ⟨up,_⟩ <;>
    rcases abs_cases (q - (z - 1)) with ⟨down,_⟩ | ⟨down,_⟩ <;> linarith

-- Two that are equally near are neighbours, so they are not both even.
theorem Nearest.unique (nearest : Nearest q z) (nearest' : Nearest q y) : y = z := by
  by_contra apart
  have tie : Even z ∧ Even y := by
    rcases nearest y apart with less | ⟨same,even⟩ <;>
      rcases nearest' z (Ne.symm apart) with less' | ⟨same',even'⟩
    · exact absurd (less.trans less') (lt_irrefl _)
    · exact absurd same' (ne_of_gt less)
    · exact absurd same (ne_of_gt less')
    · exact ⟨even,even'⟩
  have close : |(y : ℚ) - z| ≤ 1 := by
    have path := abs_sub_le (y : ℚ) q z
    rw [abs_sub_comm (y : ℚ) q] at path
    linarith [nearest.le_half,nearest'.le_half]
  have neighbours : |y - z| ≤ 1 := by exact_mod_cast close
  obtain ⟨⟨a,rfl⟩,⟨b,rfl⟩⟩ := tie
  rw [abs_le] at neighbours
  omega

theorem Nearest.neg (nearest : Nearest q z) : Nearest (-q) (-z) := by
  intro k other
  have mirrored := nearest (-k) fun same => other (by omega)
  push_cast at mirrored ⊢
  rw [show -q - -(z : ℚ) = -(q - z) by ring,show -q - (k : ℚ) = -(q - -k) by ring,abs_neg,abs_neg]
  exact mirrored.imp id fun tie => ⟨tie.1,tie.2.neg⟩

end

namespace Double

def value (x : Double) : Option ℚ :=
  match x.view with
  | .finite negative mantissa exponent =>
      some ((if negative then -1 else 1) * (mantissa * 2 ^ exponent))
  | _ => none

section

variable {num den : ℕ}

theorem quotient_split (positive : 0 < den) :
    (num : ℚ) / den = (num / den : ℕ) + (num % den : ℕ) / den := by
  have whole : (num : ℚ) = den * (num / den : ℕ) + (num % den : ℕ) := by
    exact_mod_cast (Nat.div_add_mod num den).symm
  have nonzero : (den : ℚ) ≠ 0 := by positivity
  field_simp
  linarith

theorem nearest_quotient (positive : 0 < den) :
    Nearest ((num : ℚ) / den) (nearest num den : ℕ) := by
  have base : (0 : ℚ) < den := by exact_mod_cast positive
  have small := Nat.mod_lt num positive
  rw [quotient_split positive]
  unfold nearest
  generalize num / den = whole
  generalize num % den = left at small ⊢
  have low : 0 ≤ (left : ℚ) / den := by positivity
  have high : (left : ℚ) / den < 1 := (div_lt_one base).mpr (by exact_mod_cast small)
  -- Less than a half, more than a half, and a half beside an even or an odd whole.
  split
  · rename_i less
    have near : (left : ℚ) / den < 1 / 2 := by
      rw [div_lt_div_iff₀ base two_pos]
      exact_mod_cast (by omega : left * 2 < 1 * den)
    refine nearest_of_lt ?_
    rw [Int.cast_natCast,abs_lt]
    constructor <;> linarith
  · split
    · rename_i more
      have near : 1 / 2 < (left : ℚ) / den := by
        rw [div_lt_div_iff₀ two_pos base]
        exact_mod_cast (by omega : 1 * den < left * 2)
      refine nearest_of_lt ?_
      push_cast
      rw [abs_lt]
      constructor <;> linarith
    · have half : (left : ℚ) / den = 1 / 2 := by
        rw [div_eq_div_iff base.ne' two_ne_zero]
        exact_mod_cast (by omega : left * 2 = 1 * den)
      rw [half]
      split
      · rename_i even
        refine nearest_of_half ?_ (by exact_mod_cast Nat.even_iff.mpr even)
        rw [Int.cast_natCast,add_sub_cancel_left]
        norm_num
      · rename_i odd
        refine nearest_of_half ?_ (by exact_mod_cast Nat.even_iff.mpr (by omega))
        push_cast
        rw [add_sub_add_left_eq_sub]
        norm_num

theorem ratio_value (m : ℕ) (e : ℤ) :
    0 < (ratio m e).2 ∧ ((ratio m e).1 : ℚ) / (ratio m e).2 = m * 2 ^ e := by
  unfold ratio
  split
  · rename_i whole
    obtain ⟨n,rfl⟩ := Int.eq_ofNat_of_zero_le whole
    simp [Nat.shiftLeft_eq]
  · rename_i part
    obtain ⟨n,rfl⟩ : ∃ n : ℕ, e = -n := ⟨e.natAbs,by omega⟩
    simp [Nat.shiftLeft_eq,div_eq_mul_inv]

theorem value_eq_some {x : Double} {q : ℚ} : x.value = some q ↔
    ∃ negative m e, x.view = .finite negative m e ∧
      (if negative then -1 else 1) * ((m : ℚ) * 2 ^ e) = q := by
  unfold value
  cases x.view <;> simp

theorem nearest_nearestInt (negative : Bool) (m : ℕ) (e : ℤ) :
    Nearest ((if negative then -1 else 1) * (m * 2 ^ e)) (nearestInt negative m e) := by
  obtain ⟨positive,same⟩ := ratio_value m e
  have near : Nearest (m * 2 ^ e) (nearest (ratio m e).1 (ratio m e).2 : ℕ) := by
    rw [← same]
    exact nearest_quotient positive
  unfold nearestInt
  cases negative with
  | true => simpa using near.neg
  | false => simpa using near

end

end Double

end TypedRows
