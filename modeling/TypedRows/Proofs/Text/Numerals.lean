import Mathlib.Tactic.Ring
import TypedRows.Text.Blank
import TypedRows.Text.Numeral

namespace TypedRows.Text

-- Which texts are read as numbers, and as which: digits by their places, a sign in front of
-- them, and blanks around both.

def Digits (cs : List Char) : Prop := cs ≠ [] ∧ ∀ c ∈ cs, c.isDigit = true

instance (cs : List Char) : Decidable (Digits cs) :=
  decidable_of_iff (cs ≠ [] ∧ cs.all Char.isDigit = true) (and_congr_right fun _ => List.all_eq_true)

def Spells (n : Nat) (digits : List Char) : Prop :=
  digits ≠ [] ∧ (∀ c ∈ digits, c.isDigit = true) ∧ Nat.ofDigitChars 10 digits 0 = n

def places : List Char → Nat
  | [] => 0
  | c :: rest => (c.toNat - '0'.toNat) * 10 ^ rest.length + places rest

inductive Denotes : List Char → Int → Prop where
  | plain {digits : List Char} : Digits digits → Denotes digits (places digits)
  | plus {digits : List Char} : Digits digits → Denotes ('+' :: digits) (places digits)
  | minus {digits : List Char} : Digits digits → Denotes ('-' :: digits) (-(places digits : Int))

def Blanks (cs : List Char) : Prop := ∀ c ∈ cs, isBlank c = true

instance (cs : List Char) : Decidable (Blanks cs) :=
  decidable_of_iff (cs.all isBlank = true) List.all_eq_true

-- A signed number and nothing else but blanks before and after it.
def StandsFor (cs : List Char) (z : Int) : Prop :=
  ∃ before core after, cs = before ++ core ++ after ∧ Blanks before ∧ Blanks after ∧ Denotes core z

section

variable {n : Nat} {z : Int} {cs core before after : List Char} {c : Char}

theorem readNumeral_eq_some : readNumeral cs = some n ↔ Spells n cs := by
  unfold readNumeral Spells
  rw [← List.all_eq_true]
  split
  · rename_i numeral
    rw [Option.some.injEq]
    exact ⟨fun same => ⟨numeral.1,numeral.2,same⟩,fun spelled => spelled.2.2⟩
  · rename_i other
    exact ⟨nofun,fun spelled => absurd ⟨spelled.1,spelled.2.1⟩ other⟩

theorem readUnsigned_eq_some : readUnsigned cs = some n ↔
    ∃ sign digits, cs = sign ++ digits ∧ (sign = [] ∨ sign = ['+']) ∧ Spells n digits := by
  unfold readUnsigned
  split
  · rename_i rest
    rw [readNumeral_eq_some]
    constructor
    · exact fun spelled => ⟨['+'],rest,rfl,.inr rfl,spelled⟩
    · rintro ⟨sign,digits,same,rfl | rfl,spelled⟩
      · have plus : '+' ∈ digits := by
          rw [List.nil_append] at same
          rw [← same]
          exact List.mem_cons_self
        exact absurd (spelled.2.1 _ plus) (by decide)
      · cases same
        exact spelled
  · rename_i unsigned
    rw [readNumeral_eq_some]
    constructor
    · exact fun spelled => ⟨[],cs,rfl,.inl rfl,spelled⟩
    · rintro ⟨sign,digits,rfl,rfl | rfl,spelled⟩
      · exact spelled
      · exact absurd rfl (unsigned digits)

theorem ofDigitChars_places (cs : List Char) (start : Nat) :
    Nat.ofDigitChars 10 cs start = start * 10 ^ cs.length + places cs := by
  induction cs generalizing start with
  | nil => simp [Nat.ofDigitChars,places]
  | cons c rest ih =>
    rw [Nat.ofDigitChars_cons,ih,places,List.length_cons,Nat.pow_succ]
    ring

theorem spells_places : Spells n cs ↔ Digits cs ∧ places cs = n := by
  unfold Spells Digits
  rw [ofDigitChars_places,Nat.zero_mul,Nat.zero_add,and_assoc]

theorem places_numeral (n : Nat) : Digits (numeral n) ∧ places (numeral n) = n :=
  spells_places.mp (readNumeral_eq_some.mp (readNumeral_numeral n))

-- A sign is no digit, so a text begins with a sign or is all digits, never both.
theorem Digits.not_cons (other : c.isDigit = false) : ¬ Digits (c :: cs) := by
  intro digits
  rw [digits.2 c List.mem_cons_self] at other
  cases other

theorem denotes_unsigned (plus : ∀ rest, cs ≠ '+' :: rest) (minus : ∀ rest, cs ≠ '-' :: rest) :
    Denotes cs z ↔ Digits cs ∧ (places cs : Int) = z := by
  constructor
  · intro denotes
    cases denotes with
    | plain digits => exact ⟨digits,rfl⟩
    | plus _ => exact absurd rfl (plus _)
    | minus _ => exact absurd rfl (minus _)
  · rintro ⟨digits,rfl⟩
    exact .plain digits

theorem denotes_plus : Denotes ('+' :: cs) z ↔ Digits cs ∧ (places cs : Int) = z := by
  constructor
  · intro denotes
    cases denotes with
    | plain digits => exact absurd digits (Digits.not_cons (by decide))
    | plus digits => exact ⟨digits,rfl⟩
  · rintro ⟨digits,rfl⟩
    exact .plus digits

theorem denotes_minus : Denotes ('-' :: cs) z ↔ Digits cs ∧ -(places cs : Int) = z := by
  constructor
  · intro denotes
    cases denotes with
    | plain digits => exact absurd digits (Digits.not_cons (by decide))
    | minus digits => exact ⟨digits,rfl⟩
  · rintro ⟨digits,rfl⟩
    exact .minus digits

theorem map_readNumeral (f : Int → Int) :
    Option.map f (do let n ← readNumeral cs; pure (n : Int)) = some z ↔
      Digits cs ∧ f (places cs) = z := by
  simp only [Option.map_eq_some_iff,Option.bind_eq_bind,Option.bind_eq_some_iff,Option.pure_def,
    Option.some.injEq,readNumeral_eq_some,spells_places]
  constructor
  · rintro ⟨_,⟨_,⟨digits,rfl⟩,rfl⟩,same⟩
    exact ⟨digits,same⟩
  · exact fun ⟨digits,same⟩ => ⟨_,⟨_,⟨digits,rfl⟩,rfl⟩,same⟩

theorem readSigned_eq_some : readSigned cs = some z ↔ Denotes cs z := by
  unfold readSigned
  split
  · rw [map_readNumeral,denotes_minus]
  · rw [map_readNumeral,denotes_plus]
  · rename_i minus plus
    rw [map_readNumeral,denotes_unsigned plus minus]

theorem Denotes.signed (z : Int) : Denotes (signed z) z := by
  obtain ⟨digits,value⟩ := places_numeral z.natAbs
  unfold Text.signed
  split
  · rename_i negative
    have denotes := Denotes.minus digits
    rwa [value,show -(z.natAbs : Int) = z by omega] at denotes
  · rename_i positive
    have denotes := Denotes.plain digits
    rwa [value,show (z.natAbs : Int) = z by omega] at denotes

theorem isBlank_of_isDigit (digit : c.isDigit = true) : isBlank c = false := by
  simp only [Char.isDigit,Bool.and_eq_true,decide_eq_true_eq,UInt32.le_iff_toNat_le] at digit
  have low : 48 ≤ c.toNat := digit.1
  have high : c.toNat ≤ 57 := digit.2
  simp only [isBlank,Bool.or_eq_false_iff,Bool.and_eq_false_iff,decide_eq_false_iff_not,
    beq_eq_false_iff_ne]
  omega

theorem Digits.solid (digits : Digits cs) : ∀ c ∈ cs, isBlank c = false :=
  fun c member => isBlank_of_isDigit (digits.2 c member)

theorem Denotes.solid (denotes : Denotes cs z) : cs ≠ [] ∧ ∀ c ∈ cs, isBlank c = false := by
  cases denotes with
  | plain digits => exact ⟨digits.1,digits.solid⟩
  | plus digits | minus digits =>
    exact ⟨List.cons_ne_nil _ _,List.forall_mem_cons.mpr ⟨by decide,digits.solid⟩⟩

theorem dropWhile_solid (nonempty : core ≠ []) (solid : ∀ c ∈ core, isBlank c = false) :
    (core ++ after).dropWhile isBlank = core ++ after := by
  cases core with
  | nil => exact absurd rfl nonempty
  | cons c rest =>
    rw [List.cons_append,List.dropWhile_cons_of_neg]
    simp [solid c List.mem_cons_self]

theorem trim_surrounded (blankBefore : Blanks before) (blankAfter : Blanks after)
    (nonempty : core ≠ []) (solid : ∀ c ∈ core, isBlank c = false) :
    trim (before ++ core ++ after) = core := by
  have start : trimStart (before ++ core ++ after) = core ++ after := by
    rw [trimStart,List.append_assoc,List.dropWhile_append_of_pos blankBefore,
      dropWhile_solid nonempty solid]
  have backwards : ∀ c ∈ core.reverse, isBlank c = false := fun c member =>
    solid c (List.mem_reverse.mp member)
  have blankAfter' : ∀ c ∈ after.reverse, isBlank c = true := fun c member =>
    blankAfter c (List.mem_reverse.mp member)
  have whole := @dropWhile_solid core.reverse [] (mt List.reverse_eq_nil_iff.mp nonempty) backwards
  rw [List.append_nil] at whole
  rw [trim,start,trimEnd,List.reverse_append,List.dropWhile_append_of_pos blankAfter',whole,
    List.reverse_reverse]

theorem exists_trim (cs : List Char) :
    ∃ before after, cs = before ++ trim cs ++ after ∧ Blanks before ∧ Blanks after := by
  have blank (run : List Char) : Blanks (run.takeWhile isBlank) :=
    List.all_eq_true.mp List.all_takeWhile
  refine ⟨cs.takeWhile isBlank,((trimStart cs).reverse.takeWhile isBlank).reverse,?_,blank cs,
    fun c member => blank _ c (List.mem_reverse.mp member)⟩
  rw [List.append_assoc,trim,trimEnd,← List.reverse_append,List.takeWhile_append_dropWhile,
    List.reverse_reverse,trimStart,List.takeWhile_append_dropWhile]

theorem denotes_trim : Denotes (trim cs) z ↔ StandsFor cs z := by
  constructor
  · intro denotes
    obtain ⟨before,after,split,blankBefore,blankAfter⟩ := exists_trim cs
    exact ⟨before,trim cs,after,split,blankBefore,blankAfter,denotes⟩
  · rintro ⟨before,core,after,rfl,blankBefore,blankAfter,denotes⟩
    rwa [trim_surrounded blankBefore blankAfter denotes.solid.1 denotes.solid.2]

end

end TypedRows.Text
