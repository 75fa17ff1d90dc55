import Mathlib.Data.List.Chain
import Mathlib.Data.List.TakeWhile
import TypedRows.Proofs.Grammar.Scanning

namespace TypedRows.Sql

-- The scanner of the engine against the marks of a text: they are the same, but that the
-- scanner numbers the parameters, ends a statement at its semicolon and passes over comments.

def Mark.isParameter : Mark → Bool
  | .parameter _ => true
  | _ => false

def Mark.numbered (n : Nat) : Mark → Mark
  | .parameter _ => .parameter n
  | mark => mark

def numbered : Nat → List Mark → List Mark
  | _, [] => []
  | n, mark :: rest =>
      mark.numbered n :: numbered (if mark.isParameter then n + 1 else n) rest

theorem numbered_parameters (n : Nat) (marks : List Mark) :
    (numbered n marks).filter Mark.isParameter =
      (List.range' n (marks.countP Mark.isParameter)).map .parameter := by
  induction marks generalizing n with
  | nil => rfl
  | cons mark rest ih =>
    cases mark with
    | parameter k =>
      have later := ih (n + 1)
      rw [List.countP_cons_of_pos rfl,List.range'_succ,List.map_cons,← later]
      rfl
    | _ => exact ih n

def Mark.comments (mark next : Mark) : Bool :=
  (mark = .symbol "-" && next = .symbol "-") || (mark = .symbol "/" && next = .symbol "*")

-- The marks of a text that holds no comment and is no more than one statement.
structure Quiet (marks : List Mark) : Prop where
  single : .symbol ";" ∉ marks
  uncommented : marks.IsChain fun mark next => mark.comments next = false

def Mark.plain (mark : Mark) : Bool :=
  mark ≠ .symbol ";" && mark ≠ .symbol "-" && mark ≠ .symbol "/"

theorem Quiet.of_plain {marks : List Mark} (plain : marks.all Mark.plain = true) : Quiet marks where
  single present := absurd (List.all_eq_true.mp plain _ present) (by decide)
  uncommented := by
    refine (List.pairwise_of_forall_mem_list fun mark present next _ => ?_).isChain
    have sign := List.all_eq_true.mp plain mark present
    simp only [Mark.plain,Bool.and_eq_true,decide_eq_true_eq] at sign
    simp [Mark.comments,sign.1.2,sign.2]

-- What is left behind a mark is the end of what stood there.

theorem quotedRun_suffix {quote : Char} {cs s left : List Char}
    (run : quotedRun quote cs = some (s,left)) : left <:+ cs := by
  fun_induction quotedRun quote cs generalizing s left with
  | case1 => cases run
  | case2 rest ih =>
    obtain ⟨⟨_,_⟩,found,same⟩ := Option.map_eq_some_iff.mp run
    cases same
    exact (ih found).trans ⟨[_,_],rfl⟩
  | case3 d rest =>
    cases run
    exact ⟨[_],rfl⟩
  | case4 =>
    cases run
    exact List.nil_suffix
  | case5 c rest _ ih =>
    obtain ⟨⟨_,_⟩,found,same⟩ := Option.map_eq_some_iff.mp run
    cases same
    exact (ih found).trans (List.suffix_cons _ _)

theorem quotedMark_suffix (mark : String → Mark) (quote : Char) (rest : List Char) :
    (quotedMark mark quote rest).2 <:+ rest := by
  unfold quotedMark
  cases run : quotedRun quote rest with
  | none => exact List.nil_suffix
  | some found => exact quotedRun_suffix run

theorem span_suffix (test : Char → Bool) (cs : List Char) : (cs.span test).2 <:+ cs := by
  rw [List.span_eq_takeWhile_dropWhile]
  exact List.dropWhile_suffix test

theorem exponentRun_suffix {cs left : List Char} {n : Int} (run : exponentRun cs = some (n,left)) :
    left <:+ cs := by
  have digits {digits : List Char} {x : Int}
      (found : (if (digits.span Char.isDigit).1 = [] then none
        else some (x,(digits.span Char.isDigit).2)) = some (n,left)) : left <:+ digits := by
    split at found
    · cases found
    · cases found
      exact span_suffix _ _
  unfold exponentRun at run
  split at run
  · split at run
    · dsimp only at run
      split at run
      · exact (digits run).trans ⟨[_,_],rfl⟩
      · exact (digits run).trans ⟨[_,_],rfl⟩
      · exact (digits run).trans (List.suffix_cons _ _)
    · cases run
  · cases run

theorem decimals_suffix {rest left decimals after : List Char} {pointed : Bool}
    (read : (match left with
      | '.' :: more => ((more.span Char.isDigit).1,(more.span Char.isDigit).2,true)
      | more => ([],more,false)) = (decimals,after,pointed))
    (tail : left <:+ rest ∨ left = '.' :: rest) : after <:+ rest := by
  split at read
  · cases read
    rcases tail with tail | same
    · exact ((span_suffix _ _).trans (List.suffix_cons _ _)).trans tail
    · cases same
      exact span_suffix _ _
  · rename_i unpointed
    cases read
    exact tail.resolve_right (unpointed rest)

theorem scale_suffix {rest after left : List Char} {exponent : Int} {scaled : Bool}
    (read : (match exponentRun after with
      | some (n,more) => (n,more,true)
      | none => (0,after,false)) = (exponent,left,scaled)) (tail : after <:+ rest) :
    left <:+ rest := by
  split at read
  · rename_i found
    cases read
    exact (exponentRun_suffix found).trans tail
  · cases read
    exact tail

theorem numberMark_suffix {c : Char} (rest : List Char) (starts : c.isDigit = true ∨ c = '.') :
    (numberMark (c :: rest)).2 <:+ rest := by
  have whole {digits left : List Char} (spanned : (c :: rest).span Char.isDigit = (digits,left)) :
      left <:+ rest ∨ left = '.' :: rest := by
    rw [List.span_eq_takeWhile_dropWhile] at spanned
    cases spanned
    rcases starts with digit | rfl
    · rw [List.dropWhile_cons_of_pos digit]
      exact .inl (List.dropWhile_suffix _)
    · exact .inr rfl
  fun_cases numberMark (c :: rest) with
  | case1 _ _ spanned _ _ _ read _ _ _ read' =>
    exact (List.dropWhile_suffix _).trans (scale_suffix read' (decimals_suffix read (whole spanned)))
  | case2 _ _ spanned _ _ _ read _ _ _ read' =>
    exact scale_suffix read' (decimals_suffix read (whole spanned))
  | case3 _ _ spanned _ _ _ read _ _ _ read' =>
    exact scale_suffix read' (decimals_suffix read (whole spanned))

theorem firstMark_suffix (n : Nat) (c : Char) (rest : List Char) :
    (firstMark n c rest).2 <:+ rest := by
  unfold firstMark
  split
  · exact List.dropWhile_suffix _
  split
  · rename_i digit
    refine numberMark_suffix rest ?_
    rcases Bool.or_eq_true_iff.mp digit with digit | point
    · exact .inl digit
    · exact .inr (by simpa using (Bool.and_eq_true_iff.mp point).1)
  split
  · exact quotedMark_suffix _ _ _
  split
  · split
    · exact (List.drop_suffix _ _).trans (List.dropWhile_suffix _)
    · exact List.nil_suffix
  split
  · exact quotedMark_suffix _ _ _
  split
  · split <;> exact List.suffix_refl _
  split
  · exact List.drop_suffix _ _
  split <;> exact List.suffix_refl _

-- Only the number of a parameter depends on what came before.

theorem quotedMark_numbered (n : Nat) {mark : String → Mark} (plain : ∀ s, (mark s).numbered n = mark s)
    (quote : Char) (rest : List Char) :
    (quotedMark mark quote rest).1.numbered n = (quotedMark mark quote rest).1 := by
  unfold quotedMark
  split
  · exact plain _
  · rfl

theorem numberMark_numbered (n : Nat) (cs : List Char) :
    (numberMark cs).1.numbered n = (numberMark cs).1 := by
  fun_cases numberMark cs <;> rfl

theorem firstMark_numbered (n : Nat) (c : Char) (rest : List Char) :
    firstMark n c rest = ((firstMark 0 c rest).1.numbered n,(firstMark 0 c rest).2) := by
  unfold firstMark
  split
  · rfl
  split
  · rw [numberMark_numbered]
  split
  · rw [quotedMark_numbered n fun _ => rfl]
  split
  · split <;> rfl
  split
  · rw [quotedMark_numbered n fun _ => rfl]
  split
  · split <;> rfl
  split
  · rfl
  split <;> rfl

theorem firstMark_sign {c : Char} (sign : c = '-' ∨ c = '/' ∨ c = '*' ∨ c = ';') (rest : List Char) :
    firstMark 0 c rest = (.symbol (String.ofList [c]),rest) := by
  have single : c :: rest.take 1 ∉ twoCharSymbols := by
    rcases sign with rfl | rfl | rfl | rfl <;> simp [twoCharSymbols]
  rcases sign with rfl | rfl | rfl | rfl <;> simp [firstMark,single,isWordStart,oneCharSymbols]

theorem marksFrom_solid {c : Char} (solid : isSpace c = false) (rest : List Char) :
    marksFrom 0 (c :: rest) = (firstMark 0 c rest).1 :: marksFrom 0 (firstMark 0 c rest).2 := by
  obtain ⟨taken,whole⟩ := firstMark_suffix 0 c rest
  generalize first : firstMark 0 c rest = found at whole
  obtain ⟨mark,left⟩ := found
  subst whole
  exact marksFrom_first taken solid first

theorem marksFrom_signs {c d : Char} (sign : c = '-' ∨ c = '/' ∨ c = '*' ∨ c = ';')
    (sign' : d = '-' ∨ d = '/' ∨ d = '*' ∨ d = ';') {rest : List Char}
    (second : rest.head? = some d) :
    marksFrom 0 (c :: rest) = .symbol (String.ofList [c]) :: .symbol (String.ofList [d]) ::
      marksFrom 0 rest.tail := by
  have solid {c : Char} (sign : c = '-' ∨ c = '/' ∨ c = '*' ∨ c = ';') : isSpace c = false := by
    rcases sign with rfl | rfl | rfl | rfl <;> rfl
  obtain ⟨rest,rfl⟩ := List.head?_eq_some_iff.mp second
  rw [marksFrom_solid (solid sign),firstMark_sign sign,marksFrom_solid (solid sign'),
    firstMark_sign sign',List.tail_cons]

theorem Quiet.rest {mark : Mark} {marks : List Mark} (quiet : Quiet (mark :: marks)) : Quiet marks :=
  ⟨fun present => quiet.single (List.mem_cons_of_mem _ present),quiet.uncommented.tail⟩

theorem Quiet.begins {c : Char} {rest : List Char} (quiet : Quiet (marksFrom 0 (c :: rest))) :
    ¬ (c = '-' ∧ rest.head? = some '-') ∧ ¬ (c = '/' ∧ rest.head? = some '*') ∧ c ≠ ';' := by
  refine ⟨?_,?_,?_⟩
  · rintro ⟨rfl,second⟩
    rw [marksFrom_signs (.inl rfl) (.inl rfl) second] at quiet
    exact absurd quiet.uncommented (by simp [Mark.comments])
  · rintro ⟨rfl,second⟩
    rw [marksFrom_signs (by decide) (.inr (.inr (.inl rfl))) second] at quiet
    exact absurd quiet.uncommented (by simp [Mark.comments])
  · rintro rfl
    rw [marksFrom_solid rfl,firstMark_sign (by decide)] at quiet
    exact quiet.single List.mem_cons_self

theorem tokensFrom_marks {whole fuel : Nat} (n : Nat) {cs : List Char} (enough : cs.length < fuel)
    (quiet : Quiet (marksFrom 0 cs)) :
    (tokensFrom whole fuel n cs).1.map Token.mark = numbered n (marksFrom 0 cs) ∧
      (tokensFrom whole fuel n cs).2 = none := by
  induction fuel generalizing n cs with
  | zero => exact absurd enough (Nat.not_lt_zero _)
  | succ fuel ih =>
    cases cs with
    | nil => exact ⟨rfl,rfl⟩
    | cons c rest =>
      have fewer : rest.length < fuel := Nat.lt_of_succ_lt_succ enough
      cases blank : isSpace c with
      | true =>
        rw [marksFrom,if_pos blank] at quiet ⊢
        rw [tokensFrom,if_pos blank]
        exact ih n fewer quiet
      | false =>
        obtain ⟨dashes,block,one⟩ := quiet.begins
        have left : (firstMark 0 c rest).2.length < fuel :=
          ((firstMark_suffix 0 c rest).length_le).trans_lt fewer
        rw [marksFrom_solid blank] at quiet ⊢
        rw [tokensFrom,if_neg (by rw [blank]; decide),if_neg dashes,if_neg block,if_neg one,
          firstMark_numbered n]
        obtain ⟨marks,none⟩ := ih
          (if (firstMark 0 c rest).1.isParameter then n + 1 else n) left quiet.rest
        -- Only a parameter counts, so the two agree on the number that comes next.
        generalize firstMark 0 c rest = found at marks none ⊢
        obtain ⟨mark,left⟩ := found
        refine ⟨?_,?_⟩
        · cases mark <;> exact congrArg (List.cons _) marks
        · cases mark <;> exact none

-- The engine reads a text to its end where no null character stands in it.
def Seen (s : String) : Prop := '\x00' ∉ s.toList

instance (s : String) : Decidable (Seen s) := inferInstanceAs (Decidable ('\x00' ∉ s.toList))

theorem Seen.visible_eq {s : String} (seen : Seen s) : visible s.toList = s.toList := by
  refine List.takeWhile_eq_self_iff.mpr fun c present => decide_eq_true fun null => ?_
  have same : c = '\x00' := by rw [← Char.ofNat_toNat c,null]
  exact seen (same ▸ present)

-- A text as it is scanned: its parameters count from nought, and nothing is left over.
theorem tokens_marksOf {s : String} (seen : Seen s) (quiet : Quiet (marksOf s)) :
    (tokens s.toList).1.map Token.mark = numbered 0 (marksOf s) ∧ (tokens s.toList).2 = none := by
  unfold tokens
  rw [seen.visible_eq]
  exact tokensFrom_marks 0 (Nat.lt_succ_self _) quiet

namespace Seen

theorem append {s t : String} (first : Seen s) (second : Seen t) : Seen (s ++ t) := by
  simpa [Seen] using ⟨first,second⟩

theorem intercalate {separator : String} (apart : Seen separator) {parts : List String}
    (each : ∀ s ∈ parts, Seen s) : Seen (separator.intercalate parts) := by
  induction parts with
  | nil => simp [Seen]
  | cons s rest ih =>
    have later := ih fun t present => each t (List.mem_cons_of_mem _ present)
    cases rest with
    | nil => simpa using each s
    | cons t rest =>
      rw [String.intercalate_cons_cons]
      exact ((each s List.mem_cons_self).append apart).append later

theorem quotedName {name : String} (seen : Seen name) : Seen (quotedName name) :=
  (mem_quotedName (by decide)).not.mpr seen

end Seen

end TypedRows.Sql
