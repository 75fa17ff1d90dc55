import Mathlib.Data.List.Chain
import TypedRows.Proofs.Grammar.Scanning

namespace TypedRows

-- A text as names in double quotes and the characters between them, and how the names are read
-- back: a quote opens a name, a quote written twice stands for one, and a single one ends it.

inductive Lexeme where
  | name (s : String)
  | plain (c : Char)
deriving DecidableEq

namespace Lexeme

def chars : Lexeme → List Char
  | .name s => (quotedName s).toList
  | .plain c => [c]

def name? : Lexeme → Option String
  | .name s => some s
  | .plain _ => none

def Apart (x y : Lexeme) : Prop := ∀ s, x = .name s → y.chars.head? ≠ some '"'

end Lexeme

def charsOf (xs : List Lexeme) : List Char := xs.flatMap Lexeme.chars

def namesOf (xs : List Lexeme) : List String := xs.filterMap Lexeme.name?

def openingName : List Char → Option (String × List Char)
  | [] => none
  | c :: rest =>
      if c = '"' then (Sql.quotedRun '"' rest).map fun (s,left) => (String.ofList s,left) else none

-- A name takes as many characters as it is long; `skip` of them are still to pass. A quote that
-- is never closed leaves no reading.
def lexemesFrom : Nat → List Char → Option (List Lexeme)
  | _, [] => some []
  | skip + 1, _ :: rest => lexemesFrom skip rest
  | 0, c :: rest =>
      if c = '"' then
        match openingName (c :: rest) with
        | some (s,left) => (lexemesFrom (rest.length - left.length) rest).map (.name s :: ·)
        | none => none
      else (lexemesFrom 0 rest).map (.plain c :: ·)

def lexemes (s : String) : Option (List Lexeme) := lexemesFrom 0 s.toList

theorem openingName_quotedName (name : String) {rest : List Char} (apart : rest.head? ≠ some '"') :
    openingName ((quotedName name).toList ++ rest) = some (name,rest) := by
  have closed : rest.head?.any (· = '"') = false := by
    cases rest with
    | nil => rfl
    | cons c rest => simpa using apart
  have text : (quotedName name).toList ++ rest =
      '"' :: (doubledQuotes name.toList ++ '"' :: rest) := by simp [quotedName]
  rw [text,openingName,if_pos rfl,Sql.quotedRun_doubled closed]
  simp

theorem lexemesFrom_skipped (taken rest : List Char) :
    lexemesFrom taken.length (taken ++ rest) = lexemesFrom 0 rest := by
  induction taken with
  | nil => rfl
  | cons c taken ih => exact ih

theorem lexemesFrom_plain {c : Char} (other : c ≠ '"') (rest : List Char) :
    lexemesFrom 0 (c :: rest) = (lexemesFrom 0 rest).map (.plain c :: ·) := by
  rw [lexemesFrom,if_neg other]

theorem lexemesFrom_name (name : String) {rest : List Char} (apart : rest.head? ≠ some '"') :
    lexemesFrom 0 ((quotedName name).toList ++ rest) =
      (lexemesFrom 0 rest).map (.name name :: ·) := by
  obtain ⟨inside,text⟩ : ∃ inside, (quotedName name).toList = '"' :: inside :=
    ⟨_,by rw [quotedName,String.toList_ofList]; rfl⟩
  have opened := openingName_quotedName name apart
  rw [text,List.cons_append] at opened ⊢
  have length : (inside ++ rest).length - rest.length = inside.length := by simp
  rw [lexemesFrom,if_pos rfl,opened]
  simp only [length,lexemesFrom_skipped]

theorem head?_charsOf (x : Lexeme) (xs : List Lexeme) :
    (charsOf (x :: xs)).head? = x.chars.head? := by
  cases x <;> simp [charsOf,Lexeme.chars,quotedName]

theorem apart_charsOf {name : String} {xs : List Lexeme}
    (parted : (Lexeme.name name :: xs).IsChain Lexeme.Apart) : (charsOf xs).head? ≠ some '"' := by
  cases xs with
  | nil => simp [charsOf]
  | cons x xs =>
    rw [head?_charsOf]
    exact (List.isChain_cons_cons.mp parted).1 name rfl

theorem lexemesFrom_charsOf {xs : List Lexeme} (parted : xs.IsChain Lexeme.Apart)
    (tidy : .plain '"' ∉ xs) : lexemesFrom 0 (charsOf xs) = some xs := by
  induction xs with
  | nil => rfl
  | cons x xs ih =>
    rw [List.mem_cons,not_or] at tidy
    have later := ih parted.of_cons tidy.2
    cases x with
    | name s =>
      change lexemesFrom 0 ((quotedName s).toList ++ charsOf xs) = _
      rw [lexemesFrom_name s (apart_charsOf parted),later]
      rfl
    | plain c =>
      have other : c ≠ '"' := fun same => tidy.1 (by rw [same])
      change lexemesFrom 0 (c :: charsOf xs) = _
      rw [lexemesFrom_plain other,later]
      rfl

-- Lexemes of a text that has these names, in this order. While `quiet` holds, it has no quotes
-- but theirs.
structure Layout (quiet : Prop) (names : List String) (s : String) (xs : List Lexeme) : Prop where
  chars : charsOf xs = s.toList
  names : namesOf xs = names
  parted : xs.IsChain Lexeme.Apart
  tidy : quiet → .plain '"' ∉ xs

def Shows (quiet : Prop) (names : List String) (s : String) : Prop := ∃ xs, Layout quiet names s xs

def Detached (s : String) : Prop := s.toList.head? ≠ some '"'

def Divider (s : String) : Prop := s ≠ "" ∧ '"' ∉ s.toList

instance (s : String) : Decidable (Detached s) := inferInstanceAs (Decidable (_ ≠ _))

instance (s : String) : Decidable (Divider s) := inferInstanceAs (Decidable (_ ∧ _))

section

variable {quiet : Prop} {s t : String} {xs ys : List String}

theorem Layout.append {us vs : List Lexeme} (first : Layout quiet xs s us)
    (second : Layout quiet ys t vs)
    (linked : ∀ x ∈ us.getLast?, ∀ y ∈ vs.head?, Lexeme.Apart x y) :
    Layout quiet (xs ++ ys) (s ++ t) (us ++ vs) where
  chars := by
    rw [charsOf,List.flatMap_append,String.toList_append,← first.chars,← second.chars]
    rfl
  names := by
    rw [namesOf,List.filterMap_append,← first.names,← second.names]
    rfl
  parted := List.isChain_append.mpr ⟨first.parted,second.parted,linked⟩
  tidy holds := by
    rw [List.mem_append,not_or]
    exact ⟨first.tidy holds,second.tidy holds⟩

theorem Layout.plain (clean : quiet → '"' ∉ s.toList) :
    Layout quiet [] s (s.toList.map .plain) where
  chars := by simp [charsOf,List.flatMap_map,Lexeme.chars]
  names := by simp [namesOf,Lexeme.name?]
  parted := (List.pairwise_map.mpr
    (List.pairwise_of_forall fun _ _ _ absurd => by cases absurd)).isChain
  tidy holds := by simpa using clean holds

namespace Shows

theorem literal (clean : quiet → '"' ∉ s.toList) : Shows quiet [] s := ⟨_,.plain clean⟩

theorem name (s : String) : Shows quiet [s] (quotedName s) :=
  ⟨[.name s],by simp [charsOf,Lexeme.chars],rfl,.singleton _,fun _ => by simp⟩

theorem append (first : Shows quiet xs s) (second : Shows quiet ys t) (apart : Detached t) :
    Shows quiet (xs ++ ys) (s ++ t) := by
  obtain ⟨us,first⟩ := first
  obtain ⟨vs,second⟩ := second
  refine ⟨us ++ vs,first.append second fun x _ y head name _ => ?_⟩
  cases vs with
  | nil => cases head
  | cons v vs =>
    cases head
    rw [← head?_charsOf y vs,second.chars]
    exact apart

theorem after (clean : quiet → '"' ∉ s.toList) (second : Shows quiet ys t) :
    Shows quiet ys (s ++ t) := by
  obtain ⟨vs,second⟩ := second
  refine ⟨_,(Layout.plain clean).append second fun x last y _ name same => ?_⟩
  obtain ⟨c,_,plain⟩ := List.mem_map.mp (List.mem_of_mem_getLast? last)
  cases plain.trans same

end Shows

theorem detached_of_unquoted (clean : '"' ∉ s.toList) : Detached s := fun quoted =>
  clean (List.mem_of_mem_head? quoted)

theorem Detached.append (first : Detached s) (second : Detached t) : Detached (s ++ t) := by
  unfold Detached at *
  rw [String.toList_append]
  cases chars : s.toList with
  | nil => simpa using second
  | cons c cs => simpa [chars] using first

theorem Divider.detached (divider : Divider s) (t : String) : Detached (s ++ t) := by
  obtain ⟨nonempty,clean⟩ := divider
  unfold Detached
  cases chars : s.toList with
  | nil => exact absurd (String.toList_eq_nil_iff.mp chars) nonempty
  | cons c cs =>
    have other : c ≠ '"' := fun same => clean (by simp [chars,same])
    simpa [chars] using other

namespace Shows

theorem divided {d : String} (first : Shows quiet xs s) (divider : Divider d)
    (second : Shows quiet ys t) : Shows quiet (xs ++ ys) (s ++ (d ++ t)) :=
  first.append (second.after fun _ => divider.2) (divider.detached t)

theorem before (first : Shows quiet xs s) (divider : Divider t) : Shows quiet xs (s ++ t) := by
  have alone : Shows quiet [] "" := .literal fun _ => by simp
  simpa using first.divided divider alone

theorem intercalate {α : Type} {separator : String} (divider : Divider separator)
    {text : α → String} {names : α → List String} {items : List α}
    (each : ∀ a ∈ items, Shows quiet (names a) (text a)) :
    Shows quiet (items.flatMap names) (separator.intercalate (items.map text)) := by
  induction items with
  | nil => exact .literal fun _ => by simp
  | cons a rest ih =>
    have later := ih fun b present => each b (List.mem_cons_of_mem _ present)
    have first := each a List.mem_cons_self
    cases rest with
    | nil => simpa using first
    | cons b rest =>
      rw [List.map_cons,List.map_cons,String.intercalate_cons_cons,String.append_assoc]
      exact first.divided divider later

theorem intercalate_literal {α : Type} {separator : String} (divider : Divider separator)
    {text : α → String} {items : List α} (clean : ∀ a ∈ items, '"' ∉ (text a).toList) :
    Shows quiet [] (separator.intercalate (items.map text)) := by
  have all : Shows quiet (items.flatMap fun _ => []) (separator.intercalate (items.map text)) :=
    .intercalate divider fun a present => .literal fun _ => clean a present
  rwa [List.flatMap_eq_nil_iff.mpr fun _ _ => rfl] at all

theorem none (shows : Shows quiet xs s) (clean : '"' ∉ s.toList) : xs = [] := by
  obtain ⟨us,layout⟩ := shows
  rw [← layout.names,namesOf,List.filterMap_eq_nil_iff]
  intro x present
  cases x with
  | plain c => rfl
  | name n =>
    refine absurd ?_ clean
    rw [← layout.chars]
    exact List.mem_flatMap.mpr ⟨_,present,by simp [Lexeme.chars,quotedName]⟩

end Shows

-- Every name of the text is read from its opening quote to its own closing one. While `quiet`
-- holds, nothing else opens a name, and the whole text is read as it was put together.
def ReadsBack (quiet : Prop) (names : List String) (s : String) : Prop :=
  ∃ xs, charsOf xs = s.toList ∧ namesOf xs = names ∧
    (∀ before name after, xs = before ++ .name name :: after →
      openingName (charsOf (.name name :: after)) = some (name,charsOf after)) ∧
    (quiet → lexemes s = some xs)

theorem Shows.readsBack (shows : Shows quiet xs s) : ReadsBack quiet xs s := by
  obtain ⟨us,layout⟩ := shows
  refine ⟨us,layout.chars,layout.names,?_,fun holds => ?_⟩
  · rintro before name after rfl
    exact openingName_quotedName name (apart_charsOf (List.isChain_append.mp layout.parted).2.1)
  · rw [lexemes,← layout.chars]
    exact lexemesFrom_charsOf layout.parted (layout.tidy holds)

end

def commaSeparated (names : List String) : List Lexeme :=
  [.plain ',',.plain ' '].intercalate (names.map fun name => [.name name])

theorem lexemes_names (names : List String) :
    lexemes (", ".intercalate (names.map quotedName)) = some (commaSeparated names) := by
  unfold lexemes
  induction names with
  | nil => rfl
  | cons name rest ih =>
    cases rest with
    | nil =>
      have alone : lexemesFrom 0 ((quotedName name).toList ++ []) = some [.name name] :=
        lexemesFrom_name name (by simp)
      rw [List.append_nil] at alone
      exact (congrArg (lexemesFrom 0) (by simp)).trans alone
    | cons next rest =>
      have text : (", ".intercalate ((name :: next :: rest).map quotedName)).toList =
          (quotedName name).toList ++
            ',' :: ' ' :: (", ".intercalate ((next :: rest).map quotedName)).toList := by
        simp [String.intercalate_cons_cons]
      rw [text,lexemesFrom_name name (by simp),lexemesFrom_plain (by decide),
        lexemesFrom_plain (by decide),ih]
      rfl

end TypedRows
