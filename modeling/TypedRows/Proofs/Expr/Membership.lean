import TypedRows.Proofs.Expr.Carried

namespace TypedRows

-- Tests for membership: what they compile to, and whether what stands behind "in" is a list that
-- is bound.

variable {m : Mapping}

structure Operand.IsList (o : Operand) (items : List Value) : Prop where
  text : o.text = placeholders items.length
  value : o.fragment.value = some (.list (items.map .scalar))
  args : o.args = items

theorem Compiles.isList_iff {e : Expr} {o : Operand} (compiled : Compiles m e o) :
    (∃ items, o.IsList items) ↔ ∃ items, e.evaluate = .ok (.list items) := by
  constructor
  · rintro ⟨items,list⟩
    have bindable : Captured.Bindable (.list (items.map .scalar)) items := .list items
    have form : isPlaceholderForm o.text.toList = true := by
      have placeholder := bindable.isPlaceholderForm
      rwa [Captured.placeholder,List.length_map,← list.text] at placeholder
    have captures := compiled.captures (by simp [list.value]) form
    obtain ⟨v,read,_,fragment⟩ := captures.compiles_iff.mp compiled
    have valued := list.value
    rw [fragment] at valued
    cases valued
    exact ⟨_,read⟩
  · rintro ⟨items,read⟩
    obtain ⟨v,again,bindable,fragment⟩ := (Expr.captures_of_evaluate read).compiles_iff.mp compiled
    cases again.symm.trans read
    generalize bound : o.args = args at bindable
    cases bindable with
    | list => exact ⟨args,by simp [Operand.text,fragment,Captured.placeholder],by rw [fragment],bound⟩

def Expr.CarriesList (e : Expr) : Prop := ∃ items, e.carried = some (.list items)

theorem Compiles.carriesList_iff {e : Expr} {o : Operand} (compiled : Compiles m e o) :
    o.fragment.isList = true ↔ e.CarriesList := by
  rw [Fragment.isList,compiled.carried,Expr.CarriesList]
  rcases e.carried with _ | (_ | _ | _) <;> simp [Captured.isList]

-- The two ways to ask for an item in a collection.
inductive Asks (whole part : Expr) : Option Expr → List Expr → Prop where
  | item : Asks whole part none [whole,part]
  | whole : Asks whole part (some whole) [part]

def memberText (item collection : String) : String := "(" ++ item ++ " in " ++ collection ++ ")"

def instrText (whole part : String) : String := "(instr(" ++ whole ++ ", " ++ part ++ ") > 0)"

def instrPieces (whole part : Operand) : List Piece :=
  [.text "(instr(",.operand whole,.text ", ",.operand part,.text ") > 0)"]

theorem contains_pieces {receiver : Option Operand} {args : List Operand} {pieces : List Piece}
    (laid : Method.contains.pieces receiver args = .ok pieces) : ∃ a b,
    (receiver = none ∧ args = [a,b] ∧ pieces = membership b a) ∨
    (receiver = some a ∧ args = [b] ∧
      pieces = if a.fragment.isList then membership b a else instrPieces a b) := by
  rcases receiver with _ | a <;> rcases args with _ | ⟨b,_ | ⟨b',_ | _⟩⟩ <;>
    simp only [Method.pieces,reduceCtorEq] at laid
  · cases laid
    exact ⟨b,b',.inl ⟨rfl,rfl,rfl⟩⟩
  · rw [← apply_ite Except.ok,Except.ok.injEq] at laid
    exact ⟨a,b,.inr ⟨rfl,rfl,laid.symm⟩⟩

theorem joined_membership (b a : Operand) :
    Piece.joined (membership b a) = memberText b.text a.text ∧
      Piece.allArgs (membership b a) = b.args ++ a.args := by
  simp [membership,memberText,Piece.joined,Piece.string,Piece.allArgs,Piece.args,String.append_assoc]

theorem joined_instrPieces (a b : Operand) :
    Piece.joined (instrPieces a b) = instrText a.text b.text ∧
      Piece.allArgs (instrPieces a b) = a.args ++ b.args := by
  simp [instrPieces,instrText,Piece.joined,Piece.string,Piece.allArgs,Piece.args,String.append_assoc]

-- An item is looked for in any collection that it is asked for first, and in a receiver that carries
-- a list; but only a collection with a list for its value is written as a list that is bound.
theorem membership_against_operand {receiver : Option Expr} {args : List Expr} {pre after : List Value}
    {f : Fragment} (compiled : ((Expr.call .contains receiver args).compile m).runFrom pre =
      (.ok f,after)) :
    ∃ whole part a b, Asks whole part receiver args ∧ Compiles m whole a ∧ Compiles m part b ∧
      (receiver = none ∨ whole.CarriesList →
        f = .plain (memberText b.text a.text) ∧ after = pre ++ (b.args ++ a.args)) ∧
      (¬ (receiver = none ∨ whole.CarriesList) →
        f = .plain (instrText a.text b.text) ∧ after = pre ++ (a.args ++ b.args)) ∧
      ((∃ items, a.IsList items) ↔ ∃ items, whole.evaluate = .ok (.list items)) := by
  obtain ⟨bound,called,rfl⟩ := compiles_of_runFrom compiled
  obtain ⟨receivers,operands,pieces,first,second,laid,same⟩ := compiles_call.mp called
  cases same
  obtain ⟨a,b,⟨rfl,rfl,rfl⟩ | ⟨rfl,rfl,rfl⟩⟩ := contains_pieces laid
  · obtain ⟨whole,rest,collection,others,rfl⟩ := List.forall₂_cons_right_iff.mp second
    obtain ⟨part,rest,item,last,rfl⟩ := List.forall₂_cons_right_iff.mp others
    cases last
    obtain rfl : receiver = none := by cases receiver <;> first | rfl | cases first
    rw [(joined_membership b a).1,(joined_membership b a).2]
    exact ⟨whole,part,a,b,.item,collection,item,fun _ => ⟨rfl,rfl⟩,
      fun absent => absurd (.inl rfl) absent,collection.isList_iff⟩
  · obtain ⟨part,rest,item,last,rfl⟩ := List.forall₂_cons_right_iff.mp second
    cases last
    cases receiver with
    | none => cases first
    | some whole =>
      have collection : Compiles m whole a := (List.forall₂_cons.mp first).1
      refine ⟨whole,part,a,b,.whole,collection,item,fun lists => ?_,fun absent => ?_,
        collection.isList_iff⟩
      · have list := collection.carriesList_iff.mpr (lists.resolve_left nofun)
        rw [if_pos list,(joined_membership b a).1,(joined_membership b a).2]
        exact ⟨rfl,rfl⟩
      · have other : ¬ a.fragment.isList = true := fun list =>
          absent (.inr (collection.carriesList_iff.mp list))
        rw [if_neg other,(joined_instrPieces a b).1,(joined_instrPieces a b).2]
        exact ⟨rfl,rfl⟩

def listedNames : Expr := .convert .text (.values [.scalar (.int 1),.scalar .null])

theorem membership_against_operand_listedNames :
    ((Expr.contains listedNames (.value (.text "1"))).compile person).runFrom [.int 7] =
      (.ok (.plain "(? in (?,?))"),[.int 7,.text "1",.text "1",.null]) ∧
    ∃ a b : Operand, memberText b.text a.text = "(? in (?,?))" ∧ ∃ items, a.IsList items := by
  have compiled : ((Expr.contains listedNames (.value (.text "1"))).compile person).runFrom [.int 7] =
      (.ok (.plain "(? in (?,?))"),[.int 7,.text "1",.text "1",.null]) := by rfl
  obtain ⟨whole,part,a,b,asks,_,_,among,_,list⟩ := membership_against_operand compiled
  have read : listedNames.evaluate = .ok (.list [.scalar (.text "1"),.scalar .null]) := by rfl
  cases asks
  obtain ⟨text,_⟩ := among (.inr ⟨_,by rfl⟩)
  exact ⟨compiled,a,b,(congrArg Fragment.text text).symm,list.mpr ⟨_,read⟩⟩

-- A column asked for another, and a list behind a negation.
theorem membership_without_list :
    (¬ ∀ (m : Mapping) (collection item : Expr) (a b : Operand) (after : List Value),
      Compiles m collection a → Compiles m item b →
      ((item.isIn collection).compile m).runFrom [] = (.ok (.plain (memberText b.text a.text)),after) →
      ∃ items, a.IsList items) ∧
    (¬ ∀ (m : Mapping) (receiver item : Expr) (a b : Operand) (after : List Value),
      Compiles m receiver a → Compiles m item b →
      ((receiver.contains item).compile m).runFrom [] =
        (.ok (.plain (memberText b.text a.text)),after) → ∃ items, a.IsList items) := by
  constructor
  · intro listed
    obtain ⟨items,list⟩ := listed person (.field "name") (.field "age") ⟨.plain "\"Name\"",[]⟩
      ⟨.plain "\"Age\"",[]⟩ [] (by rfl) (by rfl) (by rfl)
    cases list.value
  · intro listed
    have compiled : Compiles person (.not (.values [.scalar (.int 1)]))
        ⟨⟨"NOT((?))",some (.list [.scalar (.int 1)])⟩,[.int 1]⟩ := by rfl
    obtain ⟨items,list⟩ := listed person (.not (.values [.scalar (.int 1)])) (.field "age") _
      ⟨.plain "\"Age\"",[]⟩ [.int 1] compiled (by rfl) (by rfl)
    obtain rfl : [.int 1] = items := list.args
    exact absurd list.text (by decide)

end TypedRows
