import TypedRows.Proofs.Sql.Characters
import TypedRows.Sql.Function

namespace TypedRows.Sql

-- Patterns as sets of texts. The matcher gives up a search early, but never one that could have
-- succeeded.

inductive Matches : List Nat → List Nat → Prop where
  | nil : Matches [] []
  | anything {pattern cs : List Nat} (taken : List Nat) : Matches pattern cs →
      Matches (0x25 :: pattern) (taken ++ cs)
  | one {pattern cs : List Nat} (c : Nat) : Matches pattern cs → Matches (0x5f :: pattern) (c :: cs)
  | letter {p c : Nat} {pattern cs : List Nat} : p ≠ 0x25 → lowerCode p = lowerCode c →
      Matches pattern cs → Matches (p :: pattern) (c :: cs)

variable {pattern cs : List Nat} {p c : Nat}

theorem matches_nil : Matches [] cs ↔ cs = [] := by
  constructor
  · rintro ⟨⟩
    rfl
  · rintro rfl
    exact .nil

theorem matches_anything : Matches (0x25 :: pattern) cs ↔ ∃ ys, ys <:+ cs ∧ Matches pattern ys := by
  constructor
  · intro whole
    cases whole with
    | @anything _ ys taken rest => exact ⟨ys,List.suffix_append taken ys,rest⟩
    | letter plain => exact absurd rfl plain
  · rintro ⟨ys,⟨taken,rfl⟩,rest⟩
    exact .anything taken rest

theorem matches_empty (plain : p ≠ 0x25) : ¬ Matches (p :: pattern) [] := by
  intro whole
  generalize text : ([] : List Nat) = cs at whole
  cases whole with
  | anything => exact plain rfl
  | one | letter => cases text

theorem matches_cons (plain : p ≠ 0x25) : Matches (p :: pattern) (c :: cs) ↔
    (p = 0x5f ∨ lowerCode p = lowerCode c) ∧ Matches pattern cs := by
  constructor
  · intro whole
    generalize text : c :: cs = ds at whole
    cases whole with
    | anything => exact absurd rfl plain
    | one d rest =>
      cases text
      exact ⟨.inl rfl,rest⟩
    | letter _ same rest =>
      cases text
      exact ⟨.inr same,rest⟩
  · rintro ⟨rfl | same,rest⟩
    · exact .one c rest
    · exact .letter plain same rest

-- What a verdict says about a text: `stuck` excludes every later start.
structure Tells {α : Type} (verdict : Verdict) (holds : List α → Prop) (cs : List α) : Prop where
  yes : verdict = .yes ↔ holds cs
  stuck : verdict = .stuck → ∀ ys, ys <:+ cs → ¬ holds ys

-- The search finds a start if there is one: it breaks off only where no later one can help.
theorem firstVerdict_yes {α : Type} {test : List α → Verdict} {holds : List α → Prop}
    (each : ∀ cs, Tells (test cs) holds cs) (cs : List α) :
    firstVerdict test cs = .yes ↔ ∃ ys, ys <:+ cs ∧ holds ys := by
  induction cs with
  | nil =>
    have told := (each []).yes
    simp only [List.suffix_nil,exists_eq_left,← told,firstVerdict]
    cases test [] <;> simp
  | cons c cs ih =>
    have told := each (c :: cs)
    rw [firstVerdict]
    cases verdict : test (c :: cs) with
    | yes => exact iff_of_true rfl ⟨c :: cs,List.suffix_rfl,told.yes.mp verdict⟩
    | stuck =>
      refine iff_of_false (by simp) ?_
      rintro ⟨ys,ends,found⟩
      exact told.stuck verdict ys ends found
    | no =>
      have missed : ¬ holds (c :: cs) := told.yes.not.mp (by simp [verdict])
      simp only [ih,List.suffix_cons_iff]
      constructor
      · rintro ⟨ys,ends,found⟩
        exact ⟨ys,.inr ends,found⟩
      · rintro ⟨ys,rfl | ends,found⟩
        · exact absurd found missed
        · exact ⟨ys,ends,found⟩

theorem likeVerdict_tells (pattern cs : List Nat) :
    Tells (likeVerdict pattern cs) (Matches pattern) cs := by
  induction pattern generalizing cs with
  | nil =>
    refine ⟨?_,?_⟩
    · cases cs <;> simp [likeVerdict,matches_nil]
    · cases cs <;> simp [likeVerdict]
  | cons p pattern ih =>
    -- A wildcard tries every start; any other mark takes one character and goes on.
    by_cases anything : p = 0x25
    · subst anything
      have search : likeVerdict (0x25 :: pattern) cs = firstVerdict (likeVerdict pattern) cs := by
        simp [likeVerdict]
      have found := firstVerdict_yes ih
      refine ⟨by rw [search,found,matches_anything],fun stuck ys ends whole => ?_⟩
      obtain ⟨zs,later,rest⟩ := matches_anything.mp whole
      have yes := (found cs).mpr ⟨zs,later.trans ends,rest⟩
      rw [search,yes] at stuck
      cases stuck
    · cases cs with
      | nil => exact ⟨by simp [likeVerdict,anything,matches_empty],by simp [likeVerdict,anything]⟩
      | cons c cs =>
        have step : likeVerdict (p :: pattern) (c :: cs) =
            if p = 0x5f ∨ lowerCode p = lowerCode c then likeVerdict pattern cs else .no := by
          simp [likeVerdict,anything]
        have told := ih cs
        rw [step]
        split
        · rename_i fits
          refine ⟨by simp [told.yes,matches_cons anything,fits],fun stuck ys ends whole => ?_⟩
          cases ys with
          | nil => exact matches_empty anything whole
          | cons d ys =>
            have later : ys <:+ cs := by
              rcases List.suffix_cons_iff.mp ends with same | inside
              · cases same
                exact List.suffix_rfl
              · exact (List.suffix_cons d ys).trans inside
            exact told.stuck stuck ys later ((matches_cons anything).mp whole).2
        · rename_i misfit
          exact ⟨by simp [matches_cons anything,misfit],by simp⟩

theorem likeVerdict_yes : likeVerdict pattern cs = .yes ↔ Matches pattern cs :=
  (likeVerdict_tells pattern cs).yes

theorem matches_literal {xs rest : List Nat} (plain : ∀ p ∈ xs, p ≠ 0x25 ∧ p ≠ 0x5f) :
    Matches (xs ++ rest) cs ↔ ∃ ys zs, cs = ys ++ zs ∧ ys.map lowerCode = xs.map lowerCode ∧
      Matches rest zs := by
  induction xs generalizing cs with
  | nil =>
    constructor
    · exact fun whole => ⟨[],cs,rfl,rfl,whole⟩
    · rintro ⟨ys,zs,rfl,same,whole⟩
      rw [List.map_nil,List.map_eq_nil_iff] at same
      rwa [same]
  | cons p xs ih =>
    obtain ⟨⟨anything,one⟩,plain⟩ := List.forall_mem_cons.mp plain
    cases cs with
    | nil =>
      refine iff_of_false (matches_empty anything) ?_
      rintro ⟨ys,zs,none,same,_⟩
      obtain ⟨rfl,_⟩ := List.append_eq_nil_iff.mp none.symm
      cases same
    | cons c cs =>
      rw [List.cons_append,matches_cons anything,ih plain]
      constructor
      · rintro ⟨letter,ys,zs,rfl,same,whole⟩
        have letter := letter.resolve_left one
        exact ⟨c :: ys,zs,rfl,by rw [List.map_cons,List.map_cons,letter,same],whole⟩
      · rintro ⟨ys,zs,parts,same,whole⟩
        cases ys with
        | nil => cases same
        | cons d ys =>
          cases parts
          rw [List.map_cons,List.map_cons,List.cons.injEq] at same
          exact ⟨.inr same.1.symm,ys,zs,rfl,same.2,whole⟩

def Likes (pattern text : String) : Prop :=
  Matches ((visible pattern.toList).map likeCode) ((visible text.toList).map likeCode)

theorem toNat_lowerAscii (c : Char) : (Text.lowerAscii c).toNat = lowerCode c.toNat := by
  have capital : 'A' ≤ c ∧ c ≤ 'Z' ↔ 0x41 ≤ c.toNat ∧ c.toNat ≤ 0x5a := Iff.rfl
  unfold Text.lowerAscii lowerCode
  simp only [capital]
  split
  · rename_i letter
    have valid : (c.toNat + 32).isValidChar := .inl (by omega)
    rw [Char.ofNat,dif_pos valid]
    rfl
  · rfl

-- Characters that the matcher takes for each other.
def Confused (c : Char) : Prop := c ∈ ['\ufffd','\ufffe','\uffff']

theorem confused_iff {c : Char} : Confused c ↔ 0xfffd ≤ c.toNat ∧ c.toNat ≤ 0xffff := by
  simp only [Confused,List.mem_cons,List.not_mem_nil,or_false,← Char.toNat_inj]
  change (c.toNat = 0xfffd ∨ c.toNat = 0xfffe ∨ c.toNat = 0xffff) ↔ _
  omega

theorem sameLetter_iff {c d : Char} (apart : ¬ Confused c) :
    lowerCode (likeCode d) = lowerCode (likeCode c) ↔ Text.lowerAscii d = Text.lowerAscii c := by
  rw [confused_iff] at apart
  have own : likeCode c = c.toNat := if_neg (by omega)
  rw [← Char.toNat_inj,toNat_lowerAscii,toNat_lowerAscii,own]
  by_cases odd : d.toNat / 2 = 0x7fff
  · have other : likeCode d = 0xfffd := if_pos odd
    rw [other]
    unfold lowerCode
    split_ifs <;> omega
  · have other : likeCode d = d.toNat := if_neg odd
    rw [other]

theorem take_map_eq_iff {α β : Type} (f : α → β) {xs : List α} {ms : List β} :
    (∃ ys zs, xs = ys ++ zs ∧ ys.map f = ms) ↔ (xs.take ms.length).map f = ms := by
  constructor
  · rintro ⟨ys,zs,rfl,rfl⟩
    rw [List.length_map,List.take_left]
  · intro same
    exact ⟨_,_,(List.take_append_drop ms.length xs).symm,same⟩

theorem drop_map_eq_iff {α β : Type} (f : α → β) {xs : List α} {ms : List β} :
    (∃ ys, ys <:+ xs ∧ ys.map f = ms) ↔ (xs.drop (xs.length - ms.length)).map f = ms := by
  constructor
  · rintro ⟨ys,ends,rfl⟩
    rw [List.length_map,← List.suffix_iff_eq_drop.mp ends]
  · intro same
    exact ⟨_,List.drop_suffix _ xs,same⟩

def SameLetters (xs ys : List Char) : Prop := xs.map Text.lowerAscii = ys.map Text.lowerAscii

instance (xs ys : List Char) : Decidable (SameLetters xs ys) :=
  inferInstanceAs (Decidable (xs.map Text.lowerAscii = ys.map Text.lowerAscii))

theorem sameLetters_iff {xs ys : List Char} (apart : ∀ c ∈ ys, ¬ Confused c) :
    (xs.map likeCode).map lowerCode = (ys.map likeCode).map lowerCode ↔ SameLetters xs ys := by
  unfold SameLetters
  induction ys generalizing xs with
  | nil => simp
  | cons c ys ih =>
    obtain ⟨first,later⟩ := List.forall_mem_cons.mp apart
    cases xs with
    | nil => simp
    | cons d xs => simp only [List.map_cons,List.cons.injEq,sameLetter_iff first,ih later]

-- Characters that stand for themselves in a pattern, and for nothing else.
def Verbatim (c : Char) : Prop := c ∉ ['\x00','%','_','\ufffd','\ufffe','\uffff']

instance (c : Char) : Decidable (Verbatim c) :=
  inferInstanceAs (Decidable (c ∉ ['\x00','%','_','\ufffd','\ufffe','\uffff']))

namespace Verbatim

variable {c : Char}

theorem apart (verbatim : Verbatim c) : ¬ Confused c := fun confused =>
  verbatim (by simp only [Confused] at confused; simp_all)

theorem code (verbatim : Verbatim c) : likeCode c ≠ 0x25 ∧ likeCode c ≠ 0x5f := by
  have apart := confused_iff.not.mp verbatim.apart
  have own : likeCode c = c.toNat := if_neg (by omega)
  rw [own]
  constructor
  · intro code
    have same : c = '%' := Char.toNat_inj.mp code
    exact verbatim (by simp [same])
  · intro code
    have same : c = '_' := Char.toNat_inj.mp code
    exact verbatim (by simp [same])

theorem seen {s : String} (verbatim : ∀ c ∈ s.toList, Verbatim c) : Seen s := fun present =>
  verbatim _ present (by simp)

theorem codes {cs : List Char} (verbatim : ∀ c ∈ cs, Verbatim c) :
    ∀ p ∈ cs.map likeCode, p ≠ 0x25 ∧ p ≠ 0x5f := by
  intro p present
  obtain ⟨c,inside,rfl⟩ := List.mem_map.mp present
  exact (verbatim c inside).code

end Verbatim

section

variable {s r : String} (verbatim : ∀ c ∈ s.toList, Verbatim c) (seen : Seen r)

include verbatim seen

theorem likes_start : Likes (s ++ "%") r ↔
    SameLetters (r.toList.take s.length) s.toList := by
  have whole : Seen (s ++ "%") := (Verbatim.seen verbatim).append (by decide)
  have plain := Verbatim.codes verbatim
  have rest (zs : List Nat) : Matches [0x25] zs :=
    matches_anything.mpr ⟨[],List.nil_suffix,.nil⟩
  rw [Likes,whole.visible_eq,seen.visible_eq,String.toList_append,List.map_append]
  change Matches (s.toList.map likeCode ++ [0x25]) _ ↔ _
  simp only [matches_literal plain,rest,and_true]
  rw [take_map_eq_iff,List.length_map,List.length_map,String.length_toList,← List.map_take,
    sameLetters_iff fun c present => (verbatim c present).apart]

theorem likes_end : Likes ("%" ++ s) r ↔
    SameLetters (r.toList.drop (r.length - s.length)) s.toList := by
  have whole : Seen ("%" ++ s) := Seen.append (by decide) (Verbatim.seen verbatim)
  have plain := Verbatim.codes verbatim
  have literal (ys : List Nat) : Matches (s.toList.map likeCode) ys ↔
      ys.map lowerCode = (s.toList.map likeCode).map lowerCode := by
    have parts := @matches_literal ys (s.toList.map likeCode) [] plain
    simpa [matches_nil] using parts
  rw [Likes,whole.visible_eq,seen.visible_eq,String.toList_append,List.map_append]
  change Matches (0x25 :: s.toList.map likeCode) _ ↔ _
  simp only [matches_anything,literal]
  rw [drop_map_eq_iff,List.length_map,List.length_map,List.length_map,String.length_toList,
    String.length_toList,← List.map_drop,
    sameLetters_iff fun c present => (verbatim c present).apart]

end

def altered (c : Char) : Char :=
  if c = '%' ∨ c = '_' then 'x'
  else if c = '\ufffd' then '\ufffe'
  else if c = '\ufffe' ∨ c = '\uffff' then '\ufffd'
  else c

theorem matches_altered_cons {pattern cs : List Nat} (c : Char) (rest : Matches pattern cs) :
    Matches (likeCode c :: pattern) (likeCode (altered c) :: cs) := by
  by_cases anything : c = '%'
  · subst anything
    exact .anything [likeCode 'x'] rest
  by_cases one : c = '_'
  · subst one
    exact .one (likeCode 'x') rest
  have code : likeCode (altered c) = likeCode c := by
    simp only [altered,anything,one,or_self,if_false]
    split
    · rename_i replacement
      subst replacement
      rfl
    · split
      · rename_i replacement
        rcases replacement with rfl | rfl <;> rfl
      · rfl
  have plain : likeCode c ≠ 0x25 := by
    unfold likeCode
    split
    · decide
    · exact fun same => anything (Char.toNat_inj.mp same)
  exact .letter plain (by rw [code]) rest

theorem matches_altered {pattern : List Nat} (rest : Matches pattern []) (cs : List Char) :
    Matches (cs.map likeCode ++ pattern) ((cs.map altered).map likeCode) := by
  induction cs with
  | nil => exact rest
  | cons c cs ih => exact matches_altered_cons c ih

theorem altered_verbatim {c : Char} (known : c ≠ '\x00')
    (same : Text.lowerAscii (altered c) = Text.lowerAscii c) : Verbatim c := by
  intro odd
  simp only [List.mem_cons,List.not_mem_nil,or_false] at odd
  rcases odd with rfl | rfl | rfl | rfl | rfl | rfl
  · exact known rfl
  all_goals exact absurd same (by decide)

theorem altered_seen {c : Char} (known : c ≠ '\x00') : altered c ≠ '\x00' := by
  unfold altered
  split
  · decide
  · split
    · decide
    · split
      · decide
      · exact known

theorem visible_known {cs : List Char} : '\x00' ∉ visible cs := fun present => by
  have nonzero := List.mem_takeWhile_imp present
  exact absurd nonzero (by decide)

def alteredText (s : String) : String := String.ofList ((visible s.toList).map altered)

theorem alteredText_seen (s : String) : Seen (alteredText s) := by
  rw [Seen,alteredText,String.toList_ofList,List.mem_map]
  rintro ⟨c,present,null⟩
  exact altered_seen (fun same => visible_known (same ▸ present)) null

theorem alteredText_length (s : String) : (alteredText s).length ≤ s.length := by
  rw [← String.length_toList,alteredText,String.toList_ofList,List.length_map,← String.length_toList]
  exact (List.takeWhile_prefix _).length_le

theorem visible_cut {cs : List Char} (cut : '\x00' ∈ cs) (rest : List Char) :
    visible (cs ++ rest) = visible cs := by
  have short : ¬ (visible cs).length = cs.length := fun same =>
    visible_known (((List.takeWhile_prefix _).eq_of_length same) ▸ cut)
  exact List.takeWhile_append.trans (if_neg short)

theorem likes_altered (s : String) :
    Likes (s ++ "%") (alteredText s) ∧ Likes ("%" ++ s) (alteredText s) := by
  have text : (alteredText s).toList = (visible s.toList).map altered := String.toList_ofList
  rw [Likes,Likes,(alteredText_seen s).visible_eq,text]
  constructor
  · by_cases seen : Seen s
    · have whole : Seen (s ++ "%") := seen.append (by decide)
      rw [whole.visible_eq,seen.visible_eq,String.toList_append,List.map_append]
      exact matches_altered (.anything [] .nil) s.toList
    · rw [String.toList_append,visible_cut (not_not.mp seen)]
      simpa using matches_altered .nil (visible s.toList)
  · have all : Matches ((visible s.toList).map likeCode)
        (((visible s.toList).map altered).map likeCode) := by
      simpa using matches_altered .nil (visible s.toList)
    rw [String.toList_append]
    exact .anything [] all

theorem verbatim_of_altered {s : String}
    (same : SameLetters (alteredText s).toList s.toList) : ∀ c ∈ s.toList, Verbatim c := by
  rw [SameLetters,alteredText,String.toList_ofList] at same
  have length : (visible s.toList).length = s.toList.length := by
    simpa using congrArg List.length same
  have whole : visible s.toList = s.toList := (List.takeWhile_prefix _).eq_of_length length
  rw [whole,List.map_map] at same
  intro c present
  refine altered_verbatim (fun null => ?_) (List.map_inj_left.mp same c present)
  rw [← whole,null] at present
  exact visible_known present

end TypedRows.Sql
