import TypedRows.Proofs.Expr.Agreement
import TypedRows.Proofs.Grammar.Writing

namespace TypedRows

open Sql (Phrase Connective TermOp PlainWord)

-- The tree of a condition, in the phrases of the grammar, and what the grammar reads of its
-- text.

variable {m : Mapping}

def Operator.term : Operator → Option TermOp
  | .gt => some .gt
  | .ge => some .ge
  | .lt => some .lt
  | .le => some .le
  | .bitAnd => some .bitAnd
  | .and => some .and
  | .bitOr => some .bitOr
  | .or => some .or
  | .eq => some .eq
  | .ne => some .ne
  | .add => some .add
  | .subtract => some .subtract
  | .concat => some .concat
  | _ => none

theorem Operator.sql_eq_term (op : Operator) : op.sql = op.term.map TermOp.text := by
  cases op <;> rfl

theorem Operator.tight_of_term {op : Operator} {t : TermOp} (found : op.term = some t) :
    (Connective.term t).tight = true ↔ ¬ (op = .and ∨ op = .or) := by
  cases op <;> cases found <;> decide

structure Part where
  rendering : Rendering
  phrase : Phrase

def Part.length? (part : Part) : Option Phrase :=
  match part.rendering.value with
  | some (.scalar (.text s)) => some (.number s.length)
  | none =>
      if (boundValues part.rendering.tokens).isEmpty then some (.call "length" [part.phrase])
      else none
  | _ => none

def Captured.phrase : Captured → Option Phrase
  | .scalar _ => some .parameter
  | .list items => some (.group (List.replicate items.length .parameter))
  | .object _ => none

-- `join` puts two operands together: as they are meant, or as they are read.
section

variable (join : Connective → Phrase → Phrase → Phrase)

def Operator.nullPhrase (op : Operator) (other : Part) : Option Phrase :=
  match op with
  | .eq => some (.group [join .is other.phrase .parameter])
  | .ne => some (.group [join .isNot other.phrase .parameter])
  | _ => none

def Operator.phrase (op : Operator) (left right : Part) : Option Phrase :=
  if left.rendering.isNull then op.nullPhrase join right
  else if right.rendering.isNull then op.nullPhrase join left
  else op.term.map fun t => .group [join (.term t) left.phrase right.phrase]

def Method.phrase (method : Method) (receiver : Option Part) (args : List Part) : Option Phrase :=
  match method, receiver, args with
  | .like, none, [subject,pattern] => some (.group [join .like subject.phrase pattern.phrase])
  | .like, some subject, [pattern] => some (.group [join .like subject.phrase pattern.phrase])
  | .contains, none, [collection,item] => some (.group [join .among item.phrase collection.phrase])
  | .contains, some whole, [part] =>
      if whole.rendering.isList then some (.group [join .among part.phrase whole.phrase])
      else some (.group [join (.term .gt) (.call "instr" [whole.phrase,part.phrase]) (.number 0)])
  | .startsWith collation, some subject, [start] =>
      if collation.ignoresCase then
        some (.group [join .like subject.phrase
          (.group [join (.term .concat) start.phrase (.text "%")])])
      else start.length?.map fun length =>
        .group [join (.term .eq) (.call "substr" [subject.phrase,.number 1,length]) start.phrase]
  | .endsWith collation, some subject, [ending] =>
      if collation.ignoresCase then
        some (.group [join .like subject.phrase
          (.group [join (.term .concat) (.text "%") ending.phrase])])
      else ending.length?.map fun length =>
        .group [join (.term .eq) (.call "substr" [subject.phrase,.negative length,length])
          ending.phrase]
  | .equals, some left, [right] =>
      some (.group [join (.term .eq) left.phrase (.group [right.phrase])])
  | .toLower, some subject, [] => some (.group [.call "lower" [subject.phrase]])
  | .toUpper, some subject, [] => some (.group [.call "upper" [subject.phrase]])
  | .replace, some subject, [old,new] =>
      some (.group [.call "replace" [subject.phrase,old.phrase,new.phrase]])
  | .other name, receiver, args =>
      some (.call (Text.lowercase name) ((receiver.toList ++ args).map Part.phrase))
  | _, _, _ => none

mutual

def Expr.phrase (m : Mapping) : Expr → Option Phrase
  | .binary op left right => do
      op.phrase join ⟨← left.render m,← Expr.phrase m left⟩ ⟨← right.render m,← Expr.phrase m right⟩
  | .not operand => (Expr.phrase m operand).map fun p => .not (.group [p])
  | .call method receiver args => do
      method.phrase join (← Expr.receiverPart m receiver) (← Expr.argParts m args)
  | .constant value => value.phrase
  | .convert _ operand => Expr.phrase m operand
  | .member .parameter field => (m.byProperty? field).map fun column => .name column.name
  | .member receiver field =>
      match receiver.evaluate with
      | .ok (.object fields) => do (← Fields.get? field fields).phrase
      | _ => none
  | .parameter => none

def Expr.receiverPart (m : Mapping) : Option Expr → Option (Option Part)
  | none => some none
  | some receiver => do return some ⟨← receiver.render m,← Expr.phrase m receiver⟩

def Expr.argParts (m : Mapping) : List Expr → Option (List Part)
  | [] => some []
  | arg :: rest => do return ⟨← arg.render m,← Expr.phrase m arg⟩ :: (← Expr.argParts m rest)

end

end

def Expr.tree (m : Mapping) (e : Expr) : Option Phrase := e.phrase .join m

-- A negation takes what stands behind it into its operand.
def Expr.reading (m : Mapping) (e : Expr) : Option Phrase := e.phrase Phrase.attached m

def Expr.negates : Expr → Bool
  | .not _ => true
  | .convert _ operand => operand.negates
  | _ => false

-- The operands that stand before a connective which is tighter than a negation.
def Expr.leading (m : Mapping) : Expr → List Expr
  | .binary op left right =>
      if op = .and ∨ op = .or then []
      else if (left.render m).any Rendering.isNull then [right] else [left]
  | .call .like none [subject,_] => [subject]
  | .call .like (some subject) [_] => [subject]
  | .call .contains none [_,item] => [item]
  | .call .contains (some whole) [part] => if (whole.render m).any Rendering.isList then [part] else []
  | .call (.startsWith collation) (some subject) [start] =>
      if collation.ignoresCase then [subject,start] else []
  | .call (.endsWith collation) (some subject) [_] => if collation.ignoresCase then [subject] else []
  | .call .equals (some left) [_] => [left]
  | _ => []

def Expr.KeepsStructure (m : Mapping) (e : Expr) : Prop :=
  ∀ part ∈ e.parts, ∀ operand ∈ part.leading m, operand.negates = false

def Expr.NamesPlain (e : Expr) : Prop :=
  ∀ name receiver args, .call (.other name) receiver args ∈ e.parts → PlainWord (Text.lowercase name)

theorem keepsStructure_node {e : Expr} (children : List Expr)
    (parts : ∀ part, part ∈ e.parts ↔ part = e ∨ ∃ child ∈ children, part ∈ child.parts) :
    e.KeepsStructure m ↔ (∀ operand ∈ e.leading m, operand.negates = false) ∧
      ∀ child ∈ children, child.KeepsStructure m := by
  constructor
  · intro kept
    exact ⟨kept e ((parts e).mpr (.inl rfl)),fun child present part inner =>
      kept part ((parts part).mpr (.inr ⟨child,present,inner⟩))⟩
  · rintro ⟨own,later⟩ part present
    rcases (parts part).mp present with rfl | ⟨child,there,inner⟩
    · exact own
    · exact later child there part inner

theorem keepsStructure_binary {op : Operator} {left right : Expr} :
    (Expr.binary op left right).KeepsStructure m ↔
      (∀ operand ∈ (Expr.binary op left right).leading m, operand.negates = false) ∧
      left.KeepsStructure m ∧ right.KeepsStructure m := by
  rw [keepsStructure_node [left,right] fun part => by simp [Expr.parts]]
  simp

theorem keepsStructure_not {operand : Expr} :
    (Expr.not operand).KeepsStructure m ↔ operand.KeepsStructure m := by
  rw [keepsStructure_node [operand] fun part => by simp [Expr.parts]]
  simp [Expr.leading]

theorem keepsStructure_convert {target : ValueType} {operand : Expr} :
    (Expr.convert target operand).KeepsStructure m ↔ operand.KeepsStructure m := by
  rw [keepsStructure_node [operand] fun part => by simp [Expr.parts]]
  simp [Expr.leading]

theorem keepsStructure_call {method : Method} {receiver : Option Expr} {args : List Expr} :
    (Expr.call method receiver args).KeepsStructure m ↔
      (∀ operand ∈ (Expr.call method receiver args).leading m, operand.negates = false) ∧
      ∀ child ∈ receiver.toList ++ args, child.KeepsStructure m :=
  keepsStructure_node _ fun _ => mem_callParts

theorem keepsStructure_leaf {e : Expr} (alone : e.parts = [e]) (none : e.leading m = []) :
    e.KeepsStructure m := by
  intro part present operand leading
  rw [alone,List.mem_singleton] at present
  rw [present,none] at leading
  cases leading

end TypedRows
