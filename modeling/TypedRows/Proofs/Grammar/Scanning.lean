import Mathlib.Data.List.TakeDrop
import Mathlib.Tactic.IntervalCases
import TypedRows.Mapping
import TypedRows.Sql.Reader

namespace TypedRows.Sql

-- The marks of a text that holds no comment, one behind the other, and how the marks of a
-- text come from those of its parts.

-- The first mark takes as many characters as it is long; `skip` of them are still to pass.
def marksFrom : Nat → List Char → List Mark
  | _, [] => []
  | skip + 1, _ :: rest => marksFrom skip rest
  | 0, c :: rest =>
      if isSpace c then marksFrom 0 rest
      else
        let (mark,left) := firstMark 0 c rest
        mark :: marksFrom (rest.length - left.length) rest

def marksOf (s : String) : List Mark := marksFrom 0 s.toList

theorem marksFrom_skipped (taken rest : List Char) :
    marksFrom taken.length (taken ++ rest) = marksFrom 0 rest := by
  induction taken with
  | nil => rfl
  | cons c taken ih => exact ih

theorem marksFrom_first {c : Char} (taken : List Char) {rest : List Char} {mark : Mark}
    (solid : isSpace c = false) (first : firstMark 0 c (taken ++ rest) = (mark,rest)) :
    marksFrom 0 (c :: (taken ++ rest)) = mark :: marksFrom 0 rest := by
  rw [marksFrom,solid,first]
  have length : (taken ++ rest).length - rest.length = taken.length := by simp
  simp only [Bool.false_eq_true,if_false,length,marksFrom_skipped]

def Opens (s : String) (marks : List Mark) : Prop :=
  ∀ rest, marksFrom 0 (s.toList ++ rest) = marks ++ marksFrom 0 rest

def Edge (rest : List Char) : Prop := ∀ c ∈ rest.head?, c = ' ' ∨ c = ',' ∨ c = ')'

-- A text that gives these marks where an edge stands behind it.
def Scans (s : String) (marks : List Mark) : Prop :=
  ∀ rest, Edge rest → marksFrom 0 (s.toList ++ rest) = marks ++ marksFrom 0 rest

variable {s t : String} {xs ys : List Mark}

theorem Opens.scans (opens : Opens s xs) : Scans s xs := fun rest _ => opens rest

theorem Opens.append (first : Opens s xs) (second : Opens t ys) : Opens (s ++ t) (xs ++ ys) := by
  intro rest
  rw [String.toList_append,List.append_assoc,first,second,List.append_assoc]

theorem Opens.operand (first : Opens s xs) (second : Scans t ys) : Scans (s ++ t) (xs ++ ys) := by
  intro rest edge
  rw [String.toList_append,List.append_assoc,first,second rest edge,List.append_assoc]

theorem Scans.close (first : Scans s xs) (second : Opens t ys)
    (edge : ∀ rest, Edge (t.toList ++ rest)) :
    Opens (s ++ t) (xs ++ ys) := by
  intro rest
  rw [String.toList_append,List.append_assoc,first _ (edge rest),second,List.append_assoc]

theorem edge_nil : Edge [] := fun _ absurd => by cases absurd

theorem Scans.alone (scans : Scans s xs) : marksOf s = xs := by
  have all := scans [] edge_nil
  rwa [List.append_nil,marksFrom,List.append_nil] at all

theorem Scans.unique (first : Scans s xs) (second : Scans s ys) : xs = ys := by
  rw [← first.alone,second.alone]

theorem opens_bracket : Opens "(" [.symbol "("] := fun _ => marksFrom_first [] rfl rfl

theorem opens_close : Opens ")" [.symbol ")"] := fun _ => marksFrom_first [] rfl rfl

theorem opens_comma : Opens "," [.symbol ","] := fun _ => marksFrom_first [] rfl rfl

theorem opens_minus : Opens "-" [.symbol "-"] := fun _ => marksFrom_first [] rfl rfl

theorem opens_spaced {w : String} {c : Char} {cs : List Char} {mark : Mark} (chars : w.toList = c :: cs)
    (solid : isSpace c = false)
    (first : ∀ rest, firstMark 0 c (cs ++ ' ' :: rest) = (mark,' ' :: rest)) :
    Opens (" " ++ w ++ " ") [mark] := by
  intro rest
  have spaced : (" " ++ w ++ " ").toList ++ rest = ' ' :: c :: (cs ++ ' ' :: rest) := by
    simp [chars]
  rw [spaced]
  exact marksFrom_first cs solid (first rest)

structure WordText (w : String) : Prop where
  starts : ∃ c cs, w.toList = c :: cs ∧ isWordStart c = true
  chars : w.toList.all isWordChar = true

theorem solid_of_wordStart {c : Char} (start : isWordStart c = true) : isSpace c = false := by
  cases blank : isSpace c with
  | false => rfl
  | true =>
    simp only [isSpace,Bool.or_eq_true,decide_eq_true_eq] at blank
    rcases blank with (((rfl | rfl) | rfl) | rfl) | feed
    · cases start
    · cases start
    · cases start
    · cases start
    · have same : c = Char.ofNat 12 := by rw [← feed,Char.ofNat_toNat]
      rw [same] at start
      cases start

theorem marksFrom_word {w : String} (word : WordText w) {rest : List Char}
    (apart : rest.head?.any isWordChar = false) :
    marksFrom 0 (w.toList ++ rest) = .word w :: marksFrom 0 rest := by
  obtain ⟨c,cs,chars,start⟩ := word.starts
  have inside : ∀ d ∈ c :: cs, isWordChar d = true := chars ▸ List.all_eq_true.mp word.chars
  have taken : rest.takeWhile isWordChar = [] := by
    cases rest with
    | nil => rfl
    | cons d rest => exact List.takeWhile_cons_of_neg (by simpa using apart)
  have left : rest.dropWhile isWordChar = rest := by
    cases rest with
    | nil => rfl
    | cons d rest => exact List.dropWhile_cons_of_neg (by simpa using apart)
  have first : firstMark 0 c (cs ++ rest) = (.word w,rest) := by
    rw [firstMark,if_pos start,← List.cons_append,List.takeWhile_append_of_pos inside,taken,
      List.append_nil,← chars,String.ofList_toList,
      List.dropWhile_append_of_pos fun d present => inside d (List.mem_cons_of_mem _ present),left]
  rw [chars]
  exact marksFrom_first cs (solid_of_wordStart start) first

theorem opens_function {w : String} (word : WordText w) :
    Opens (w ++ "(") [.word w,.symbol "("] := by
  intro rest
  have text : (w ++ "(").toList ++ rest = w.toList ++ '(' :: rest := by simp
  have apart : ('(' :: rest).head?.any isWordChar = false := show isWordChar '(' = false by decide
  rw [text,marksFrom_word word apart]
  exact congrArg _ (opens_bracket rest)

theorem edge_of_cons {c : Char} {cs : List Char} (edge : c = ' ' ∨ c = ',' ∨ c = ')') :
    Edge (c :: cs) := by
  intro d present
  cases present
  exact edge

theorem Edge.head {rest : List Char} (edge : Edge rest) {test : Char → Bool}
    (blank : test ' ' = false) (comma : test ',' = false) (close : test ')' = false) :
    rest.head?.any test = false := by
  cases rest with
  | nil => rfl
  | cons c cs =>
    rcases edge c rfl with rfl | rfl | rfl
    · exact blank
    · exact comma
    · exact close

theorem scans_word {w : String} (word : WordText w) : Scans w [.word w] := fun _ edge =>
  marksFrom_word word (edge.head (by decide) (by decide) (by decide))

theorem opens_blank : Opens " " [] := fun _ => rfl

theorem opens_separator : Opens ", " [.symbol ","] := opens_comma.append opens_blank

theorem edge_blank (rest : List Char) : Edge (" ".toList ++ rest) := edge_of_cons (.inl rfl)

theorem opens_keyword {w : String} (word : WordText w) : Opens (w ++ " ") [.word w] :=
  (scans_word word).close opens_blank edge_blank

theorem scans_parameter : Scans "?" [.parameter 0] := by
  intro rest edge
  have apart : rest.head?.any Char.isDigit = false :=
    edge.head (by decide) (by decide) (by decide)
  have first : firstMark 0 '?' rest = (.parameter 0,rest) := by
    change (if rest.head?.any Char.isDigit then (Mark.illegal "?",rest) else (.parameter 0,rest)) = _
    rw [apart]
    rfl
  exact marksFrom_first [] rfl first

theorem quotedRun_closed (quote : Char) {rest : List Char}
    (apart : rest.head?.any (· = quote) = false) :
    quotedRun quote (quote :: rest) = some ([],rest) := by
  cases rest with
  | nil => simp [quotedRun]
  | cons c cs =>
    have other : c ≠ quote := by simpa using apart
    simp [quotedRun,other]

theorem quotedRun_other {quote c : Char} {rest : List Char} (other : c ≠ quote) :
    quotedRun quote (c :: rest) = (quotedRun quote rest).map fun (s,r) => (c :: s,r) := by
  rw [quotedRun.eq_def]
  simp only [other,if_false]

theorem quotedRun_doubled {rest : List Char} (apart : rest.head?.any (· = '"') = false)
    (cs : List Char) : quotedRun '"' (doubledQuotes cs ++ '"' :: rest) = some (cs,rest) := by
  induction cs with
  | nil => exact quotedRun_closed '"' apart
  | cons c cs ih =>
    unfold doubledQuotes
    split
    · rename_i same
      subst same
      simp [quotedRun,ih]
    · rename_i other
      rw [List.cons_append,quotedRun_other other,ih]
      rfl

theorem mem_quotedName {c : Char} {name : String} (plain : c ≠ '"') :
    c ∈ (quotedName name).toList ↔ c ∈ name.toList := by
  have doubled (cs : List Char) : c ∈ doubledQuotes cs ↔ c ∈ cs := by
    induction cs with
    | nil => simp [doubledQuotes]
    | cons d rest ih =>
      unfold doubledQuotes
      split
      · rename_i quote
        simp [quote,ih]
      · simp [ih]
  simp [quotedName,doubled,plain]

theorem scans_name (name : String) : Scans (quotedName name) [.name name] := by
  intro rest edge
  have run := quotedRun_doubled (edge.head (by decide) (by decide) (by decide)) name.toList
  have first : firstMark 0 '"' ((doubledQuotes name.toList ++ ['"']) ++ rest) = (.name name,rest) := by
    change quotedMark .name '"' _ = _
    rw [quotedMark,List.append_assoc,List.singleton_append,run]
    simp only [String.ofList_toList]
  have text : (quotedName name).toList ++ rest =
      '"' :: ((doubledQuotes name.toList ++ ['"']) ++ rest) := by simp [quotedName]
  rw [text]
  exact marksFrom_first _ rfl first

theorem digit_quiet {d : Char} (digit : d.isDigit = true) :
    isWordStart d = false ∧ isSpace d = false := by
  rw [Char.isDigit,Bool.and_eq_true,decide_eq_true_eq,decide_eq_true_eq] at digit
  have low : 48 ≤ d.toNat := digit.1
  have high : d.toNat ≤ 57 := digit.2
  have named : d = Char.ofNat d.toNat := (Char.ofNat_toNat d).symm
  generalize d.toNat = k at low high named
  subst named
  interval_cases k <;> decide

theorem numberMark_numeral {n : Nat} {rest : List Char} (edge : Edge rest) :
    numberMark (Text.numeral n ++ rest) = (.integer n,rest) := by
  have digits : ∀ c ∈ Text.numeral n, c.isDigit = true := fun _ => Text.isDigit_of_mem_numeral
  have spanned : (Text.numeral n ++ rest).span Char.isDigit = (Text.numeral n,rest) := by
    rw [List.span_eq_takeWhile_dropWhile,List.takeWhile_append_of_pos digits,
      List.dropWhile_append_of_pos digits]
    have apart : rest.head?.any Char.isDigit = false :=
      edge.head (by decide) (by decide) (by decide)
    cases rest with
    | nil => simp
    | cons c cs => simp_all
  have value : Nat.ofDigitChars 10 (Text.numeral n) 0 = n :=
    Nat.ofDigitChars_toDigits (by decide) (by decide)
  unfold numberMark
  rw [spanned]
  cases rest with
  | nil => simp [exponentRun,value]
  | cons c cs =>
    rcases edge c rfl with rfl | rfl | rfl
    · simp [exponentRun,value,show isWordChar ' ' = false by decide]
    · simp [exponentRun,value,show isWordChar ',' = false by decide]
    · simp [exponentRun,value,show isWordChar ')' = false by decide]

theorem scans_number (n : Nat) : Scans (shownNat n) [.integer n] := by
  intro rest edge
  have digits : ∀ c ∈ Text.numeral n, c.isDigit = true := fun _ => Text.isDigit_of_mem_numeral
  have whole := numberMark_numeral (n := n) edge
  have nonempty : Text.numeral n ≠ [] := Nat.toDigits_ne_nil
  rw [shownNat,String.toList_ofList]
  cases chars : Text.numeral n with
  | nil => exact absurd chars nonempty
  | cons d ds =>
    rw [chars] at whole
    have digit := digits d (by rw [chars]; exact List.mem_cons_self)
    have quiet : isWordStart d = false ∧ isSpace d = false := digit_quiet digit
    have first : firstMark 0 d (ds ++ rest) = (.integer n,rest) := by
      simpa [firstMark,quiet.1,digit] using whole
    exact marksFrom_first ds quiet.2 first

theorem scans_anything : Scans "'%'" [.string "%"] := by
  intro rest edge
  have run : quotedRun '\'' ('%' :: '\'' :: rest) = some (['%'],rest) := by
    have closed := quotedRun_closed '\'' (edge.head (by decide) (by decide) (by decide))
    rw [quotedRun_other (by decide),closed]
    rfl
  have first : firstMark 0 '\'' ('%' :: '\'' :: rest) = (.string "%",rest) := by
    change quotedMark .string '\'' _ = _
    rw [quotedMark,run]
  exact marksFrom_first ['%','\''] rfl first

end TypedRows.Sql
