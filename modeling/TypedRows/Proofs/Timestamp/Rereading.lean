import TypedRows.Proofs.Text.Numerals
import TypedRows.Timestamp.Text

namespace TypedRows

-- What a timestamp is read back as from its written form: with every year in range, with each
-- number of decimals, and in a leap second behind any second.

namespace Text

end Text

section Fields

variable {most : Nat} {digits rest : List Char}

end Fields

namespace CalendarFields

variable {f : CalendarFields}

-- Second 60 is the only writing of a leap second: behind any second but the 59th it is written
-- as the same part of the next second.
def carried (f : CalendarFields) : CalendarFields :=
  if 1000000000 ≤ f.nanosecond ∧ f.second ≠ 59 then
    {f with second := f.second + 1,nanosecond := f.nanosecond - 1000000000}
  else f

theorem isValid_carried (valid : f.isValid = true) : f.carried.isValid = true := by
  unfold carried
  split
  · simp only [isValid,Bool.and_eq_true,decide_eq_true_eq] at valid ⊢
    omega
  · exact valid

theorem carried_eq_iff : f.carried = f ↔ (1000000000 ≤ f.nanosecond → f.second = 59) := by
  unfold carried
  split
  · rename_i leaps
    refine ⟨fun same => ?_,fun last => absurd (last leaps.1) leaps.2⟩
    have later : f.second + 1 = f.second := congrArg second same
    omega
  · rename_i plain
    exact ⟨fun _ leaps => by omega,fun _ => rfl⟩

end CalendarFields

def Timestamp.carried (t : Timestamp) : Timestamp :=
  ⟨t.toCalendarFields.carried,CalendarFields.isValid_carried t.valid⟩

theorem Timestamp.carried_eq_iff {t : Timestamp} :
    t.carried = t ↔ (1000000000 ≤ t.nanosecond → t.second = 59) := by
  rw [← CalendarFields.carried_eq_iff]
  obtain ⟨f,valid⟩ := t
  exact Timestamp.mk.injEq .. ▸ Iff.rfl

end TypedRows
