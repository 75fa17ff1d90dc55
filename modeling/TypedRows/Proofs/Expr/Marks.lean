import TypedRows.Proofs.Expr.Spelling
import TypedRows.Proofs.Grammar.Scanning

namespace TypedRows

-- Where the placeholders of a text stand. Names without `?` leave the bound tokens as the
-- only ones that write a mark.

def Unmarked (tokens : List Token) : Prop := ∀ s, .literal s ∈ tokens → '?' ∉ s.toList

theorem unmarked_spelling : Spelling fun s => '?' ∉ s.toList where
  plain _ unmarked _ := unmarked
  append first second := by simp [first,second]

theorem Unmarked.count {tokens : List Token} (clean : Unmarked tokens) :
    (flattened tokens).toList.count '?' = (boundValues tokens).length := by
  induction tokens with
  | nil => simp
  | cons token rest ih =>
    cases token with
    | literal s =>
      obtain ⟨unmarked,clean⟩ := spelled_literal.mp clean
      rw [flattened_literal,String.toList_append,List.count_append,List.count_eq_zero_of_not_mem unmarked,
        ih clean,boundValues_literal,Nat.zero_add]
    | bound v =>
      rw [flattened_bound,String.toList_append,List.count_append,ih (spelled_bound.mp clean),
        boundValues_bound,List.length_cons,Nat.add_comm]
      rfl

theorem split_of_bound {tokens : List Token} {k : Nat} {v : Value}
    (found : (boundValues tokens)[k]? = some v) :
    ∃ before later, tokens = before ++ .bound v :: later ∧ (boundValues before).length = k := by
  induction tokens generalizing k with
  | nil => simp at found
  | cons token rest ih =>
    cases token with
    | literal s =>
      obtain ⟨before,later,rfl,same⟩ := ih found
      exact ⟨.literal s :: before,later,rfl,same⟩
    | bound w =>
      cases k with
      | zero =>
        simp only [boundValues_bound,List.getElem?_cons_zero,Option.some.injEq] at found
        subst found
        exact ⟨[],rest,rfl,rfl⟩
      | succ k =>
        obtain ⟨before,later,rfl,same⟩ := ih (by simpa using found)
        exact ⟨.bound w :: before,later,rfl,by simp [same]⟩

-- The argument at the place of each mark is the value of its token.
def MarksBound (tokens : List Token) (args : List Value) : Prop :=
  ∀ before v later, tokens = before ++ .bound v :: later →
    args[(flattened before).toList.count '?']? = some v

theorem Unmarked.marksBound_iff {tokens : List Token} {args : List Value} (clean : Unmarked tokens)
    (long : args.length = (boundValues tokens).length) :
    MarksBound tokens args ↔ args = boundValues tokens := by
  have counted : ∀ before v later, tokens = before ++ .bound v :: later →
      (flattened before).toList.count '?' = (boundValues before).length := by
    rintro before v later rfl
    exact Unmarked.count (spelled_append.mp clean).1
  constructor
  · intro bound
    refine List.ext_getElem? fun k => ?_
    cases found : (boundValues tokens)[k]? with
    | none =>
      rw [List.getElem?_eq_none_iff] at found ⊢
      omega
    | some v =>
      obtain ⟨before,later,split,same⟩ := split_of_bound found
      rw [← bound before v later split,counted before v later split,same]
  · rintro rfl before v later split
    rw [counted before v later split,split]
    simp

theorem mark_mem_quotedName {name : String} :
    '?' ∈ (quotedName name).toList ↔ '?' ∈ name.toList := Sql.mem_quotedName (by decide)

end TypedRows
