import TypedRows.Expr.Fragment
import TypedRows.Mapping
import TypedRows.Step

namespace TypedRows

-- From conditions to the text of statements. The state is the list of arguments bound
-- so far; the n-th placeholder of the text belongs to the n-th argument.

abbrev Binding (α : Type) := Step (List Value) α

def append (vs : List Value) : Binding Unit := modify (· ++ vs)

def bindItems : List Captured → Binding Unit
  | [] => pure ()
  | .scalar v :: rest => do
      append [v]
      bindItems rest
  | _ :: _ => throw (.compile .nestedList)

def Captured.bound (value : Captured) : Binding Fragment := do
  match value with
  | .scalar v =>
      append [v]
      return ⟨"?",some value⟩
  | .list items =>
      bindItems items
      return ⟨placeholders items.length,some value⟩
  | .object _ => throw (.compile .wholeObject)

mutual

def Captured.coerce (target : ValueType) : Captured → Except Error Captured
  | .scalar v => (v.coerce target).map .scalar
  | .list items => (Captured.coerceItems target items).map .list
  | .object _ => .error (.conversion (.object target))

def Captured.coerceItems (target : ValueType) : List Captured → Except Error (List Captured)
  | [] => .ok []
  | item :: rest => do
      let item ← Captured.coerce target item
      return item :: (← Captured.coerceItems target rest)

end

def Captured.readField (owner : Captured) (field : String) : Except Error Captured :=
  match owner with
  | .object fields =>
      match Fields.get? field fields with
      | some value => .ok value
      | none => .error (.compile (.missingField field))
  | _ => .error (.compile (.notAnObject field))

def Expr.evaluate : Expr → Except Error Captured
  | .constant value => .ok value
  | .member .parameter field =>
      .error (.compile (.unreadableReceiver (.member .parameter field)))
  | .member receiver field => do (← receiver.evaluate).readField field
  | .convert target operand => do (← operand.evaluate).coerce target
  | e => .error (.compile (.unreadableReceiver e))

-- The scalars of a list take the places of the old arguments one by one.
def overwritten : List Value → List Captured → List Value
  | _ :: rest, .scalar v :: items => v :: overwritten rest items
  | old :: rest, _ :: items => old :: overwritten rest items
  | olds, _ => olds

def rebound (converted : Captured) (bound : List Value) : List Value :=
  match converted with
  | .scalar v => if bound.length = 1 then [v] else bound
  | .list items => if bound.length = items.length then overwritten bound items else bound
  | .object _ => bound

-- Only bare placeholders are bound anew: text around them computes from the old value.
def Fragment.converted (target : ValueType) (start : Nat) (f : Fragment) : Binding Fragment := do
  match f.value with
  | none => return f
  | some value =>
      let value ← Step.ofExcept (value.coerce target)
      if isPlaceholderForm f.text.toList then
        modify fun args => args.take start ++ rebound value (args.drop start)
      return {f with value := some value}

def Fragment.negated (f : Fragment) : Fragment :=
  { text := "NOT(" ++ f.text ++ ")"
    value := match f.value with
      | some (.scalar (.bool b)) => some (.scalar (.bool !b))
      | other => other }

def Mapping.fieldColumn (m : Mapping) (field : String) : Except Error Column :=
  match m.byProperty? field with
  | some column => .ok column
  | none => .error (.compile (.unmappedField m.table field))

mutual

def Expr.compile (m : Mapping) : Expr → Binding Fragment
  | .binary op left right => do
      let left ← Expr.compile m left
      let right ← Expr.compile m right
      return .plain (← Step.ofExcept (op.join left right))
  | .not operand => return (← Expr.compile m operand).negated
  | .call method receiver args => do
      let receiver ← Step.ofExcept (Expr.receiverOperand m receiver)
      let args ← Step.ofExcept (Expr.operands m args)
      let pieces ← Step.ofExcept (method.pieces receiver args)
      append (Piece.allArgs pieces)
      return .plain (Piece.joined pieces)
  | .constant value => value.bound
  | .convert target operand => do
      let start := (← get).length
      (← Expr.compile m operand).converted target start
  | .member .parameter field => do
      return .plain (quotedName (← Step.ofExcept (m.fieldColumn field)).name)
  | .member receiver field => do
      let owner ← Step.ofExcept receiver.evaluate
      (← Step.ofExcept (owner.readField field)).bound
  | .parameter => throw (.compile .bareParameter)

-- Operands of a call bind their arguments apart; a call that fails binds none.
def Expr.receiverOperand (m : Mapping) : Option Expr → Except Error (Option Operand)
  | none => .ok none
  | some receiver =>
      match (Expr.compile m receiver).runFrom [] with
      | (.ok fragment,args) => .ok (some ⟨fragment,args⟩)
      | (.error e,_) => .error e

def Expr.operands (m : Mapping) : List Expr → Except Error (List Operand)
  | [] => .ok []
  | arg :: rest =>
      match (Expr.compile m arg).runFrom [] with
      | (.ok fragment,args) => (Expr.operands m rest).map fun others => ⟨fragment,args⟩ :: others
      | (.error e,_) => .error e

end

def Mapping.orderingColumn (m : Mapping) (key : Expr) : Except Error String :=
  match key with
  | .member .parameter field => (m.fieldColumn field).map Column.name
  | .convert _ (.member .parameter field) => (m.fieldColumn field).map Column.name
  | _ => .error (.compile (.orderingKey key))

end TypedRows
