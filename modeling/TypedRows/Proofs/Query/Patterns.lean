import TypedRows.Proofs.Query.Affixes
import TypedRows.Proofs.Sql.Likeness

namespace TypedRows

-- The rows that tests for the start and the end of a text select when they ignore case. They make
-- the text a pattern, so what stands for other characters in it stands for them in the test too.

namespace Sql

variable {subject operand : String} {xs ys : List Mark}

theorem opens_like : Opens " like (" [.word "like",.symbol "("] := by
  simpa [Connective.text,Connective.marks] using Connective.like.opens.append opens_bracket

theorem opens_concat : Opens " || " [.symbol "||"] := by
  simpa [Connective.text,Connective.marks,TermOp.text,TermOp.mark] using
    (Connective.term .concat).opens

theorem scans_startPattern (first : Scans subject xs) (second : Scans operand ys) :
    Scans (startPatternText subject operand)
      ([Mark.symbol "("] ++ xs ++ [Mark.word "like",.symbol "("] ++ ys ++
        [Mark.symbol "||",.string "%",.symbol ")",.symbol ")"]) := by
  have last : Opens " || '%'))" [.symbol "||",.string "%",.symbol ")",.symbol ")"] := by
    simpa using ((opens_concat.operand scans_anything).close opens_close edge_close).append opens_close
  have pattern := ((opens_bracket.operand first).close opens_like
    (edge_text (s := " like (") rfl (by decide))).operand second
  exact (pattern.close last (edge_text (s := " || '%'))") rfl (by decide))).scans

theorem scans_endPattern (first : Scans subject xs) (second : Scans operand ys) :
    Scans (endPatternText subject operand)
      ([Mark.symbol "("] ++ xs ++ [Mark.word "like",.symbol "(",.string "%",.symbol "||"] ++ ys ++
        [Mark.symbol ")",.symbol ")"]) := by
  have middle : Opens " like ('%' || " [.word "like",.symbol "(",.string "%",.symbol "||"] := by
    simpa using (opens_like.operand scans_anything).close opens_concat
      (edge_text (s := " || ") rfl (by decide))
  have last : Opens "))" [.symbol ")",.symbol ")"] := by
    simpa using opens_close.append opens_close
  have pattern := ((opens_bracket.operand first).close middle
    (edge_text (s := " like ('%' || ") rfl (by decide))).operand second
  exact (pattern.close last fun _ => edge_of_cons (.inr (.inr rfl))).scans

def likeTest (column : String) (pattern : Term) : Term :=
  .call "like" [pattern,.column true column]

def anything : Term := .literal (.text (bytesOf "%"))

theorem condition_startPattern (column : String) :
    conditionOf (marksOf (startPatternText (quotedName column) "?")) =
      some (likeTest column (.binary .concat (.parameter 0) anything)) := by
  rw [(scans_startPattern (scans_name column) scans_parameter).alone]
  rfl

theorem condition_endPattern (column : String) :
    conditionOf (marksOf (endPatternText (quotedName column) "?")) =
      some (likeTest column (.binary .concat anything (.parameter 0))) := by
  rw [(scans_endPattern (scans_name column) scans_parameter).alone]
  rfl

theorem bytesOf_append (s t : String) : bytesOf (s ++ t) = bytesOf s ++ bytesOf t := by
  simp [bytesOf_eq]

section

variable {t : Table} {row : TableRow} {args : List Value} {r w column text : String} {pattern : Term}

theorem likeness_texts (w r : String) :
    (do return (truthOf (← likeness (.text (bytesOf w)) (.text (bytesOf r)))).getD false) =
        (.ok true : Except EngineError Bool) ↔
      (bytesOf w).length ≤ longestPattern ∧ Likes w r := by
  simp only [likeness,textOf]
  split
  · rename_i long
    refine iff_of_false (fun taken => ?_) fun fits => absurd fits.1 (Nat.not_le.mpr long)
    cases taken
  · rename_i short
    have verdict : likeVerdict (codes (bytesOf w)) (codes (bytesOf r)) = .yes ↔ Likes w r := by
      rw [codes_bytesOf,codes_bytesOf]
      exact likeVerdict_yes
    change Except.ok ((truthOf (ofTruth (some _))).getD false) = _ ↔ _
    rw [truthOf_ofTruth,Except.ok.injEq,Option.getD_some,beq_iff_eq,verdict]
    exact (and_iff_right (Nat.not_lt.mp short)).symm

theorem selects_like (read : conditionOf (marksOf text) = some (likeTest column pattern))
    (subject : (t.named row column).2 = .text (bytesOf r))
    (given : (pattern.scoped t args).eval row = .ok (.text (bytesOf w))) :
    Selects ⟨text,args⟩ t row ↔ (bytesOf w).length ≤ longestPattern ∧ Likes w r := by
  have terms : Formula.evalAll row [pattern.scoped t args,(Term.column true column).scoped t args] =
      .ok [.text (bytesOf w),.text (bytesOf r)] := by
    simp only [Formula.evalAll,eval_column,subject,given]
    rfl
  have value : (Formula.apply .like
      [pattern.scoped t args,(Term.column true column).scoped t args]).eval row =
      likeness (.text (bytesOf w)) (.text (bytesOf r)) := by
    simp only [Formula.eval,terms]
    rfl
  have formed : (likeTest column pattern).scoped t args =
      .apply .like [pattern.scoped t args,(Term.column true column).scoped t args] := rfl
  rw [selects_iff read,formed,← likeness_texts]
  simp only [Formula.passes,Formula.simplified,Formula.holds,value]

theorem eval_startPattern (s : String) :
    ((Term.binary .concat (.parameter 0) anything).scoped t [.text s]).eval row =
      .ok (.text (bytesOf (s ++ "%"))) := by
  rw [bytesOf_append]
  rfl

theorem eval_endPattern (s : String) :
    ((Term.binary .concat anything (.parameter 0)).scoped t [.text s]).eval row =
      .ok (.text (bytesOf ("%" ++ s))) := by
  rw [bytesOf_append]
  rfl

end

end Sql

open Sql

variable {m : Mapping} {collation : Collation} {p : String} {column : Column} {e : Expr} {s : String}

def Fits (s : String) : Prop := (bytesOf s).length < longestPattern

theorem fits_start : (bytesOf (s ++ "%")).length ≤ longestPattern ↔ Fits s := by
  have one : (bytesOf "%").length = 1 := by simp [bytesOf_eq]; rfl
  rw [bytesOf_append,List.length_append,one]
  exact Nat.succ_le_iff

theorem fits_end : (bytesOf ("%" ++ s)).length ≤ longestPattern ↔ Fits s := by
  rw [bytesOf_append,List.length_append,Nat.add_comm,← List.length_append,← bytesOf_append,fits_start]

section

variable (ignores : collation.ignoresCase = true) (field : m.byProperty? p = some column)
  (literal : e.evaluate = .ok (.scalar (.text s)))

include ignores field literal

theorem pattern_decides {t : Table} {row : TableRow} {r : String}
    (stored : (t.named row column.name).2 = .text (bytesOf r)) :
    ((Expr.field p).startsWith e collation).Decides m [.text s] t row (Fits s ∧ Likes (s ++ "%") r) ∧
      ((Expr.field p).endsWith e collation).Decides m [.text s] t row
        (Fits s ∧ Likes ("%" ++ s) r) := by
  have first := compiles_named field
  have second := compiles_text (m := m) literal
  constructor <;> intro pre
  · refine ⟨_,startsWith_pattern ignores first second pre,?_⟩
    rw [← fits_start]
    exact selects_like (condition_startPattern column.name) stored (eval_startPattern s)
  · refine ⟨_,endsWith_pattern ignores first second pre,?_⟩
    rw [← fits_end]
    exact selects_like (condition_endPattern column.name) stored (eval_endPattern s)

end

-- A test against a pattern is exact for the texts that only stand for themselves: for any other
-- there is an altered one that the pattern takes as well.
theorem exact_iff_verbatim {test : Expr} {name pattern : String} (part : String → List Char)
    (fits : Fits s)
    (decides : ∀ t row r, (t.named row name).2 = .text (bytesOf r) →
      test.Decides m [.text s] t row (Fits s ∧ Likes pattern r))
    (literally : (∀ c ∈ s.toList, Verbatim c) → ∀ r, Seen r →
      (Likes pattern r ↔ SameLetters (part r) s.toList))
    (altered : Likes pattern (alteredText s)) (whole : part (alteredText s) = (alteredText s).toList) :
    (∀ t row r, (t.named row name).2 = .text (bytesOf r) → Seen r →
      test.Decides m [.text s] t row (SameLetters (part r) s.toList)) ↔
      ∀ c ∈ s.toList, Verbatim c := by
  constructor
  · intro exact
    have stored : ((Table.single name .text).named ⟨0,[.text (bytesOf (alteredText s))]⟩ name).2 =
        .text (bytesOf (alteredText s)) := by rw [named_single]
    have taken := decides _ _ _ stored
    have same := ((exact _ _ _ stored (alteredText_seen s)).iff taken).mpr ⟨fits,altered⟩
    rw [whole] at same
    exact verbatim_of_altered same
  · intro verbatim t row r stored seen
    exact (decides t row r stored).congr ((and_iff_right fits).trans (literally verbatim r seen))

-- Tests that ignore case take the text for a pattern, up to the engine's limit. Within it they are
-- exact as long as the text has no wildcard in it, no null character, and none of those that the
-- engine takes for one another.
theorem ignoring_affixes_are_patterns (ignores : collation.ignoresCase = true)
    (field : m.byProperty? p = some column) (literal : e.evaluate = .ok (.scalar (.text s))) :
    (∀ t row r, (t.named row column.name).2 = .text (bytesOf r) →
      ((Expr.field p).startsWith e collation).Decides m [.text s] t row
        (Fits s ∧ Likes (s ++ "%") r) ∧
      ((Expr.field p).endsWith e collation).Decides m [.text s] t row
        (Fits s ∧ Likes ("%" ++ s) r)) ∧
    (Fits s →
      ((∀ t row r, (t.named row column.name).2 = .text (bytesOf r) → Seen r →
        ((Expr.field p).startsWith e collation).Decides m [.text s] t row
          (SameLetters (r.toList.take s.length) s.toList)) ↔ ∀ c ∈ s.toList, Verbatim c) ∧
      ((∀ t row r, (t.named row column.name).2 = .text (bytesOf r) → Seen r →
        ((Expr.field p).endsWith e collation).Decides m [.text s] t row
          (SameLetters (r.toList.drop (r.length - s.length)) s.toList)) ↔
        ∀ c ∈ s.toList, Verbatim c)) := by
  have decides : ∀ t row r, (t.named row column.name).2 = .text (bytesOf r) →
      ((Expr.field p).startsWith e collation).Decides m [.text s] t row
        (Fits s ∧ Likes (s ++ "%") r) ∧
      ((Expr.field p).endsWith e collation).Decides m [.text s] t row
        (Fits s ∧ Likes ("%" ++ s) r) := fun t row r stored =>
    pattern_decides ignores field literal stored
  have short := alteredText_length s
  refine ⟨decides,fun fits => ⟨?_,?_⟩⟩
  · refine exact_iff_verbatim (fun r => r.toList.take s.length) fits
      (fun t row r stored => (decides t row r stored).1)
      (fun verbatim r seen => likes_start verbatim seen) (likes_altered s).1 ?_
    exact List.take_of_length_le (by rwa [String.length_toList])
  · refine exact_iff_verbatim (fun r => r.toList.drop (r.length - s.length)) fits
      (fun t row r stored => (decides t row r stored).2)
      (fun verbatim r seen => likes_end verbatim seen) (likes_altered s).2 ?_
    rw [Nat.sub_eq_zero_of_le short,List.drop_zero]

theorem wildcard_likes : Fits "_b" ∧ Likes ("_b" ++ "%") "abc" := by
  refine ⟨?_,likeVerdict_yes.mp (by decide)⟩
  rw [Fits,bytesOf_eq]
  decide

theorem ignoring_affixes_are_patterns_eve :
    ((Expr.field "name").startsWith (.value (.text "_b")) .ordinalIgnoreCase).Decides person
      [.text "_b"] (Table.single "Name" .text) ⟨0,[.text (bytesOf "abc")]⟩ True ∧
    ∀ t row r, (t.named row "Name").2 = .text (bytesOf r) → Seen r →
      ((Expr.field "name").endsWith (.value (.text "Eve")) .ordinalIgnoreCase).Decides person
        [.text "Eve"] t row (SameLetters (r.toList.drop (r.length - 3)) "Eve".toList) := by
  have ignores : Collation.ordinalIgnoreCase.ignoresCase = true := by rfl
  have field : person.byProperty? "name" = some ((Column.new "name" .text).named "Name") := by rfl
  have stored : ((Table.single "Name" .text).named ⟨0,[.text (bytesOf "abc")]⟩ "Name").2 =
      .text (bytesOf "abc") := by rw [named_single]
  have fits : Fits "Eve" := by
    rw [Fits,bytesOf_eq]
    decide
  have verbatim : ∀ c ∈ "Eve".toList, Verbatim c := by
    have each : "Eve".toList.all fun c => decide (Verbatim c) := by decide
    exact fun c present => of_decide_eq_true (List.all_eq_true.mp each c present)
  obtain ⟨wild,_⟩ := ignoring_affixes_are_patterns (e := .value (.text "_b")) ignores field (by rfl)
  obtain ⟨_,plain⟩ := ignoring_affixes_are_patterns (e := .value (.text "Eve")) ignores field (by rfl)
  exact ⟨(wild _ _ _ stored).1.congr (iff_true_intro wildcard_likes),
    (plain fits).2.mpr verbatim⟩

-- A wildcard in the text of a test for a prefix is one in the test.
theorem prefix_takes_wildcard :
    ¬ ∀ (m : Mapping) (collation : Collation) (p : String) (column : Column) (e : Expr) (s : String)
      (t : Table) (row : TableRow) (r : String), collation.ignoresCase = true →
      m.byProperty? p = some column → e.evaluate = .ok (.scalar (.text s)) →
      (t.named row column.name).2 = .text (bytesOf r) → Seen r →
      ((Expr.field p).startsWith e collation).Decides m [.text s] t row
        (SameLetters (r.toList.take s.length) s.toList) := by
  intro exact
  have stored : ((Table.single "Name" .text).named ⟨0,[.text (bytesOf "abc")]⟩ "Name").2 =
      .text (bytesOf "abc") := by rw [named_single]
  have ignores : Collation.ordinalIgnoreCase.ignoresCase = true := by rfl
  have field : person.byProperty? "name" = some ((Column.new "name" .text).named "Name") := by rfl
  have taken := (pattern_decides (e := .value (.text "_b")) ignores field (by rfl) stored).1
  have same := ((exact person _ "name" _ _ "_b" _ _ "abc" ignores field (by rfl) stored
    (by decide)).iff taken).mpr wildcard_likes
  exact absurd same (by decide)

end TypedRows
