import TypedRows.Sql.TermReader

namespace TypedRows.Sql

-- Expressions as the grammar groups them, with their brackets. A prefix `not` is looser than
-- comparisons, tests and sums and tighter than `and` and `or`; a name, a placeholder, a call
-- and all that stands in brackets is a complete operand.

inductive Connective where
  | term (op : TermOp)
  | is | isNot
  | among
  | like
deriving DecidableEq

def TermOp.level : TermOp → Level
  | .or => .disjunction
  | .and => .conjunction
  | .eq | .ne => .equality
  | .lt | .le | .gt | .ge => .order
  | .bitAnd | .bitOr => .bits
  | .add | .subtract => .sums
  | .concat => .concat

def Connective.level : Connective → Level
  | .term op => op.level
  | _ => .equality

def Connective.tight (c : Connective) : Bool := Level.negation.rank < c.level.rank

inductive Phrase where
  | parameter
  | name (s : String)
  | number (n : Nat)
  | text (s : String)
  | negative (p : Phrase)
  | not (p : Phrase)
  | group (items : List Phrase)
  | call (function : String) (args : List Phrase)
  | join (c : Connective) (left right : Phrase)

def Connective.next : List Mark → Option (Connective × List Mark)
  | .symbol s :: rest => (symbolOp s).map fun op => (.term op.1,rest)
  | .word w :: rest =>
      match wordOp w with
      | some op => some (.term op.1,rest)
      | none =>
          if lowerWord w = "is" then
            match rest with
            | .word v :: rest' => if lowerWord v = "not" then some (.isNot,rest') else some (.is,rest)
            | _ => some (.is,rest)
          else if lowerWord w = "in" then some (.among,rest)
          else if lowerWord w = "like" then some (.like,rest)
          else none
  | _ => none

namespace Phrase

mutual

def read : Nat → Level → List Mark → Option (Phrase × List Mark)
  | 0, _, _ => none
  | fuel + 1, level, marks => do
      let (left,marks) ← operand fuel marks
      more fuel level left marks

def operand : Nat → List Mark → Option (Phrase × List Mark)
  | 0, _ => none
  | fuel + 1, marks =>
      match marks with
      | .parameter _ :: marks => some (.parameter,marks)
      | .name s :: marks => some (.name s,marks)
      | .integer n :: marks => some (.number n,marks)
      | .string s :: marks => some (.text s,marks)
      | .symbol "-" :: marks => do
          let (p,marks) ← operand fuel marks
          return (.negative p,marks)
      | .symbol "(" :: marks => do
          let (items,marks) ← items fuel marks
          return (.group items,marks)
      | .word w :: marks =>
          if lowerWord w = "not" then do
            let (p,marks) ← read fuel .equality marks
            return (.not p,marks)
          else if isReserved w then none
          else match marks with
            | .symbol "(" :: marks => do
                let (args,marks) ← items fuel marks
                return (.call w args,marks)
            | _ => none
      | _ => none

def items : Nat → List Mark → Option (List Phrase × List Mark)
  | 0, _ => none
  | fuel + 1, marks =>
      match marks with
      | .symbol ")" :: marks => some ([],marks)
      | marks => list fuel marks

def list : Nat → List Mark → Option (List Phrase × List Mark)
  | 0, _ => none
  | fuel + 1, marks => do
      let (first,marks) ← read fuel .disjunction marks
      match marks with
      | .symbol ")" :: marks => return ([first],marks)
      | .symbol "," :: marks => do
          let (rest,marks) ← list fuel marks
          return (first :: rest,marks)
      | _ => none

def more : Nat → Level → Phrase → List Mark → Option (Phrase × List Mark)
  | 0, _, _, _ => none
  | fuel + 1, level, left, marks =>
      match Connective.next marks with
      | none => some (left,marks)
      | some (c,marks') =>
          if c.level.rank < level.rank then some (left,marks)
          else do
            let (right,marks) ← read fuel c.level.tighter marks'
            more fuel level (.join c left right) marks

end

def ofMarks (marks : List Mark) : Option Phrase :=
  match read (4 * marks.length + 4) .disjunction marks with
  | some (p,[]) => some p
  | _ => none

def isNot : Phrase → Bool
  | .not _ => true
  | _ => false

-- What is read where an operand stands before a connective and another operand.
def attached (c : Connective) (left right : Phrase) : Phrase :=
  match left with
  | .not p => if c.tight then .not (.join c p right) else .join c left right
  | _ => .join c left right

def Closed (marks : List Mark) (p : Phrase) : Prop :=
  ∀ fuel rest, 4 * marks.length ≤ fuel → operand fuel (marks ++ rest) = some (p,rest)

def Fills (level : Level) (marks : List Mark) (p : Phrase) : Prop :=
  ∀ fuel rest, Connective.next rest = none → 4 * marks.length + 2 ≤ fuel →
    read fuel level (marks ++ rest) = some (p,rest)

-- How the marks of an operand are read. What is read of a negation depends on the connective
-- behind it, so its operand is what is closed.
inductive Stands : List Mark → Phrase → Prop where
  | closed {marks : List Mark} {p : Phrase} : Closed marks p → p.isNot = false → Stands marks p
  | negated {marks : List Mark} {p : Phrase} : Closed marks p → Stands (.word "NOT" :: marks) (.not p)

variable {marks marks' : List Mark} {p q : Phrase} {level : Level} {c : Connective}

theorem Closed.nonempty (closed : Closed marks p) : 1 ≤ marks.length := by
  cases marks with
  | nil =>
    have nothing := closed 0 [] (Nat.zero_le 0)
    simp [operand] at nothing
  | cons mark marks => simp

theorem more_last {fuel : Nat} {rest : List Mark} (last : Connective.next rest = none) :
    more (fuel + 1) level p rest = some (p,rest) := by
  rw [more,last]

theorem Closed.read_last (closed : Closed marks p) : Fills level marks p := by
  intro fuel rest last enough
  obtain ⟨fuel,rfl⟩ : ∃ n, fuel = n + 2 := ⟨fuel - 2,by omega⟩
  rw [read,closed (fuel + 1) rest (by omega)]
  exact more_last last

theorem operand_not {fuel : Nat} {marks : List Mark} :
    operand (fuel + 1) (.word "NOT" :: marks) = (read fuel .equality marks).bind fun found =>
      some (.not found.1,found.2) := by
  have spelled : lowerWord "NOT" = "not" := by decide
  rw [operand.eq_def]
  simp only [spelled,if_true]
  rfl

theorem Stands.fills (stands : Stands marks p) : Fills level marks p := by
  cases stands with
  | closed closed _ => exact closed.read_last
  | negated closed =>
    intro fuel rest last enough
    rw [List.length_cons] at enough
    obtain ⟨fuel,rfl⟩ : ∃ n, fuel = n + 4 := ⟨fuel - 4,by omega⟩
    rw [read,List.cons_append,operand_not,closed.read_last (fuel + 2) rest last (by omega)]
    exact more_last last

theorem attached_whole (whole : p.isNot = false) : attached c p q = .join c p q := by
  cases p <;> first | rfl | cases whole

theorem attached_eq_join {p' q' : Phrase} :
    attached c p p' = .join c q q' ↔ (c.tight = true → p.isNot = false) ∧ p = q ∧ p' = q' := by
  unfold attached
  split
  · split
    · rename_i tight
      simp [tight,isNot]
    · rename_i loose
      simp [loose]
  · rename_i other
    have whole : p.isNot = false := by
      cases p <;> first | rfl | exact (other _ rfl).elim
    simp [whole]

section

variable {own : List Mark} (second : Stands marks' q)
  (next : ∀ rest, Connective.next (own ++ (marks' ++ rest)) = some (c,marks' ++ rest))
include second next

theorem more_join {fuel : Nat} {rest : List Mark} (last : Connective.next rest = none)
    (enough : 4 * marks'.length + 2 ≤ fuel) (taken : ¬ c.level.rank < level.rank) :
    more (fuel + 1) level p (own ++ (marks' ++ rest)) = some (.join c p q,rest) := by
  obtain ⟨fuel,rfl⟩ : ∃ n, fuel = n + 1 := ⟨fuel - 1,by omega⟩
  simp only [more,next,if_neg taken,second.fills (fuel + 1) rest last enough]
  exact more_last last

theorem Stands.join (first : Stands marks p) :
    Fills .disjunction (marks ++ (own ++ marks')) (attached c p q) := by
  intro fuel rest last enough
  simp only [List.length_append] at enough
  have taken : ¬ c.level.rank < Level.disjunction.rank := Nat.not_lt_zero _
  rw [List.append_assoc,List.append_assoc]
  cases first with
  | closed closed whole =>
    have nonempty := closed.nonempty
    obtain ⟨fuel,rfl⟩ : ∃ n, fuel = n + 2 := ⟨fuel - 2,by omega⟩
    rw [read,closed (fuel + 1) _ (by omega),attached_whole whole]
    exact more_join second next last (by omega) taken
  | negated closed =>
    rename_i marks p
    rw [List.length_cons] at enough
    obtain ⟨fuel,rfl⟩ : ∃ n, fuel = n + 4 := ⟨fuel - 4,by omega⟩
    have start : read (fuel + 2) .equality (marks ++ (own ++ (marks' ++ rest))) =
        more (fuel + 1) .equality p (own ++ (marks' ++ rest)) := by
      rw [read,closed (fuel + 1) _ (by omega)]
      rfl
    rw [read,List.cons_append,operand_not,start]
    change _ = some (if c.tight then Phrase.not (.join c p q) else .join c (.not p) q,rest)
    -- A tight connective is still read for the operand of the negation.
    by_cases tight : c.tight = true
    · have inside : ¬ c.level.rank < Level.equality.rank := by
        have above : Level.negation.rank < c.level.rank := by simpa [Connective.tight] using tight
        exact Nat.not_lt.mpr above
      rw [more_join second next last (by omega) inside,if_pos tight]
      exact more_last last
    · have outside : c.level.rank < Level.equality.rank := by
        have below : ¬ Level.negation.rank < c.level.rank := by simpa [Connective.tight] using tight
        exact Nat.lt_succ_of_le (Nat.not_lt.mp below)
      have before : more (fuel + 1) .equality p (own ++ (marks' ++ rest)) =
          some (p,own ++ (marks' ++ rest)) := by
        simp only [more,next,if_pos outside]
      rw [before,if_neg tight]
      exact more_join second next last (by omega) taken

end

theorem Closed.one {mark : Mark}
    (reads : ∀ fuel rest, operand (fuel + 1) (mark :: rest) = some (p,rest)) : Closed [mark] p := by
  intro fuel rest enough
  rw [List.length_singleton] at enough
  obtain ⟨fuel,rfl⟩ : ∃ n, fuel = n + 1 := ⟨fuel - 1,by omega⟩
  exact reads fuel rest

theorem closed_parameter (i : Nat) : Closed [.parameter i] .parameter := .one fun _ _ => rfl

theorem closed_name (s : String) : Closed [.name s] (.name s) := .one fun _ _ => rfl

theorem closed_number (n : Nat) : Closed [.integer n] (.number n) := .one fun _ _ => rfl

theorem closed_text (s : String) : Closed [.string s] (.text s) := .one fun _ _ => rfl

theorem Closed.negative (closed : Closed marks p) : Closed (.symbol "-" :: marks) (.negative p) := by
  intro fuel rest enough
  rw [List.length_cons] at enough
  obtain ⟨fuel,rfl⟩ : ∃ n, fuel = n + 1 := ⟨fuel - 1,by omega⟩
  rw [List.cons_append,operand.eq_def]
  simp only [closed fuel rest (by omega)]
  rfl

inductive Lists : List Mark → List Phrase → Prop where
  | one {marks : List Mark} {p : Phrase} : Fills .disjunction marks p → Lists marks [p]
  | cons {marks marks' : List Mark} {p : Phrase} {ps : List Phrase} : Fills .disjunction marks p →
      Lists marks' ps → Lists (marks ++ .symbol "," :: marks') (p :: ps)

variable {ps : List Phrase}

theorem next_close (rest : List Mark) : Connective.next (.symbol ")" :: rest) = none := rfl

theorem next_comma (rest : List Mark) : Connective.next (.symbol "," :: rest) = none := rfl

theorem Lists.read_all (lists : Lists marks ps) (fuel : Nat) (rest : List Mark)
    (enough : 4 * marks.length + 3 ≤ fuel) :
    list fuel (marks ++ .symbol ")" :: rest) = some (ps,rest) := by
  induction lists generalizing fuel with
  | one fills =>
    obtain ⟨fuel,rfl⟩ : ∃ n, fuel = n + 1 := ⟨fuel - 1,by omega⟩
    rw [list,fills fuel _ (next_close rest) (by omega)]
    rfl
  | cons fills later ih =>
    simp only [List.length_append,List.length_cons] at enough
    obtain ⟨fuel,rfl⟩ : ∃ n, fuel = n + 1 := ⟨fuel - 1,by omega⟩
    rw [List.append_assoc,List.cons_append,list,fills fuel _ (next_comma _) (by omega)]
    simp only [Option.bind_eq_bind,Option.bind_some,ih fuel (by omega)]
    rfl

theorem Fills.starts (fills : Fills level marks p) :
    ∃ mark later, marks = mark :: later ∧ mark ≠ .symbol ")" := by
  cases marks with
  | nil =>
    have nothing := fills 2 [] rfl (by simp)
    simp [read,operand] at nothing
  | cons mark later =>
    refine ⟨mark,later,rfl,fun close => ?_⟩
    subst close
    have nothing := fills (4 * (later.length + 1) + 2) [] rfl (by simp)
    simp [read,operand] at nothing

theorem Lists.starts (lists : Lists marks ps) :
    ∃ mark later, marks = mark :: later ∧ mark ≠ .symbol ")" := by
  cases lists with
  | one fills => exact fills.starts
  | cons fills later =>
    obtain ⟨mark,later,rfl,other⟩ := fills.starts
    exact ⟨mark,_,rfl,other⟩

theorem items_open {fuel : Nat} {mark : Mark} {later : List Mark} (other : mark ≠ .symbol ")") :
    items (fuel + 1) (mark :: later) = list fuel (mark :: later) := by
  rw [Phrase.items.eq_def]
  dsimp only
  split
  · rename_i close
    exact (other (List.cons.inj close).1).elim
  · rfl

def Inside (marks : List Mark) (ps : List Phrase) : Prop :=
  (marks = [] ∧ ps = []) ∨ Lists marks ps

theorem Inside.items (inside : Inside marks ps) (fuel : Nat) (rest : List Mark)
    (enough : 4 * marks.length + 4 ≤ fuel) :
    items fuel (marks ++ .symbol ")" :: rest) = some (ps,rest) := by
  obtain ⟨fuel,rfl⟩ : ∃ n, fuel = n + 1 := ⟨fuel - 1,by omega⟩
  rcases inside with ⟨rfl,rfl⟩ | lists
  · rfl
  · obtain ⟨mark,later,rfl,other⟩ := lists.starts
    rw [List.cons_append,items_open other,← List.cons_append]
    exact lists.read_all fuel rest (by omega)

theorem Inside.group (inside : Inside marks ps) :
    Closed (.symbol "(" :: (marks ++ [.symbol ")"])) (.group ps) := by
  intro fuel rest enough
  simp only [List.length_cons,List.length_append,List.length_nil] at enough
  obtain ⟨fuel,rfl⟩ : ∃ n, fuel = n + 1 := ⟨fuel - 1,by omega⟩
  rw [List.cons_append,List.append_assoc,List.singleton_append,operand.eq_def]
  simp only [inside.items fuel rest (by omega)]
  rfl

theorem Inside.call {w : String} (inside : Inside marks ps) (free : isReserved w = false) :
    Closed (.word w :: .symbol "(" :: (marks ++ [.symbol ")"])) (.call w ps) := by
  intro fuel rest enough
  simp only [List.length_cons,List.length_append,List.length_nil] at enough
  obtain ⟨fuel,rfl⟩ : ∃ n, fuel = n + 1 := ⟨fuel - 1,by omega⟩
  have other : ¬ lowerWord w = "not" := fun same => by
    rw [isReserved,same] at free
    exact absurd free (by decide)
  rw [List.cons_append,List.cons_append,List.append_assoc,List.singleton_append,operand.eq_def]
  simp only [other,free,if_false,Bool.false_eq_true,inside.items fuel rest (by omega)]
  rfl

theorem Fills.ofMarks (fills : Fills .disjunction marks p) : ofMarks marks = some p := by
  have whole := fills (4 * marks.length + 4) [] rfl (by omega)
  rw [List.append_nil] at whole
  rw [Phrase.ofMarks,whole]

end Phrase

end TypedRows.Sql
