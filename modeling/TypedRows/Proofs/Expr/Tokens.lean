import TypedRows.Proofs.Expr.Nodes

namespace TypedRows

-- A second way to write a condition down: a list of literal pieces and bound values, where
-- the tokens of an operand stand wherever its text stands. No argument list is kept beside
-- the text, so the order of the values is the order of the placeholders by construction.
inductive Token where
  | literal (s : String)
  | bound (v : Value)

def Token.text : Token → String
  | .literal s => s
  | .bound _ => "?"

def Token.value? : Token → Option Value
  | .literal _ => none
  | .bound v => some v

def flattened (tokens : List Token) : String := String.join (tokens.map Token.text)

def boundValues (tokens : List Token) : List Value := tokens.filterMap Token.value?

@[simp] theorem flattened_nil : flattened [] = "" := by simp [flattened]

@[simp] theorem flattened_literal (s : String) (rest : List Token) :
    flattened (.literal s :: rest) = s ++ flattened rest := by
  simp [flattened,Token.text,String.join_cons]

@[simp] theorem flattened_bound (v : Value) (rest : List Token) :
    flattened (.bound v :: rest) = "?" ++ flattened rest := by
  simp [flattened,Token.text,String.join_cons]

@[simp] theorem flattened_append (xs ys : List Token) :
    flattened (xs ++ ys) = flattened xs ++ flattened ys := by
  simp [flattened,String.join_append]

@[simp] theorem boundValues_nil : boundValues [] = [] := rfl

@[simp] theorem boundValues_literal (s : String) (rest : List Token) :
    boundValues (.literal s :: rest) = boundValues rest := rfl

@[simp] theorem boundValues_bound (v : Value) (rest : List Token) :
    boundValues (.bound v :: rest) = v :: boundValues rest := rfl

@[simp] theorem boundValues_append (xs ys : List Token) :
    boundValues (xs ++ ys) = boundValues xs ++ boundValues ys := List.filterMap_append

theorem mark_of_bound {tokens : List Token} {v : Value} (present : v ∈ boundValues tokens) :
    '?' ∈ (flattened tokens).toList := by
  induction tokens with
  | nil => cases present
  | cons token rest ih =>
    cases token with
    | literal s =>
      rw [flattened_literal,String.toList_append]
      exact List.mem_append_right _ (ih present)
    | bound w => simp

-- `bare` says that the tokens are the placeholders of `value` and nothing else.
structure Rendering where
  tokens : List Token
  value : Option Captured
  bare : Bool

def listTokens (vs : List Value) : List Token :=
  .literal "(" :: (vs.map Token.bound).intersperse (.literal ",") ++ [.literal ")"]

def Captured.rendered (value : Captured) : Option Rendering :=
  match value with
  | .scalar v => some ⟨[.bound v],some value,true⟩
  | .list items => (items.mapM Captured.asScalar).map fun vs => ⟨listTokens vs,some value,true⟩
  | .object _ => none

namespace Rendering

def plain (chunks : List (List Token)) : Rendering := ⟨chunks.flatten,none,false⟩

def isNull (r : Rendering) : Bool := r.bare && (r.value.map Captured.isNull).getD false

def isList (r : Rendering) : Bool := (r.value.map Captured.isList).getD false

def negated (r : Rendering) : Rendering where
  tokens := .literal "NOT(" :: r.tokens ++ [.literal ")"]
  value := match r.value with
    | some (.scalar (.bool b)) => some (.scalar (.bool !b))
    | other => other
  bare := false

def converted (target : ValueType) (r : Rendering) : Option Rendering :=
  match r.value with
  | none => some r
  | some value =>
      match value.coerce target with
      | .error _ => none
      | .ok value => if r.bare then value.rendered else some {r with value := some value}

def length? (r : Rendering) : Option String :=
  match r.value with
  | some (.scalar (.text s)) => some (shownNat s.length)
  | none => if (boundValues r.tokens).isEmpty then some ("length(" ++ flattened r.tokens ++ ")") else none
  | _ => none

end Rendering

def spelled (s : String) : List Token := [.literal s]

def Method.rendered (method : Method) (receiver : Option Rendering) (args : List Rendering) :
    Option Rendering :=
  match method, receiver, args with
  | .like, none, [subject,pattern] =>
      some (.plain [spelled "(",subject.tokens,spelled " like ",pattern.tokens,spelled ")"])
  | .like, some subject, [pattern] =>
      some (.plain [spelled "(",subject.tokens,spelled " like ",pattern.tokens,spelled ")"])
  | .contains, none, [collection,item] =>
      some (.plain [spelled "(",item.tokens,spelled " in ",collection.tokens,spelled ")"])
  | .contains, some whole, [part] =>
      if whole.isList then
        some (.plain [spelled "(",part.tokens,spelled " in ",whole.tokens,spelled ")"])
      else
        some (.plain [spelled "(instr(",whole.tokens,spelled ", ",part.tokens,spelled ") > 0)"])
  | .startsWith collation, some subject, [start] =>
      if collation.ignoresCase then
        some (.plain [spelled "(",subject.tokens,spelled " like (",start.tokens,spelled " || '%'))"])
      else start.length?.map fun length =>
        .plain [spelled "(substr(",subject.tokens,spelled (", 1, " ++ length ++ ") = "),start.tokens,
          spelled ")"]
  | .endsWith collation, some subject, [ending] =>
      if collation.ignoresCase then
        some (.plain [spelled "(",subject.tokens,spelled " like ('%' || ",ending.tokens,spelled "))"])
      else ending.length?.map fun length =>
        .plain [spelled "(substr(",subject.tokens,spelled (", -" ++ length ++ ", " ++ length ++ ") = "),
          ending.tokens,spelled ")"]
  | .equals, some left, [right] =>
      some (.plain [spelled "(",left.tokens,spelled " = (",right.tokens,spelled "))"])
  | .toLower, some subject, [] =>
      some (.plain [spelled "(lower(",subject.tokens,spelled "))"])
  | .toUpper, some subject, [] =>
      some (.plain [spelled "(upper(",subject.tokens,spelled "))"])
  | .replace, some subject, [old,new] =>
      some (.plain [spelled "(replace(",subject.tokens,spelled ", ",old.tokens,spelled ", ",new.tokens,
        spelled "))"])
  | .other name, receiver, args =>
      some (.plain [spelled (Text.lowercase name ++ "("),
        ((receiver.toList ++ args).map Rendering.tokens).intersperse (spelled ",") |>.flatten,
        spelled ")"])
  | _, _, _ => none

def Operator.rendered (op : Operator) (left right : Rendering) : Option Rendering :=
  if left.isNull then nullTest right left
  else if right.isNull then nullTest left right
  else op.sql.map fun sql =>
    .plain [spelled "(",left.tokens,spelled (" " ++ sql ++ " "),right.tokens,spelled ")"]
where
  nullTest (other null : Rendering) : Option Rendering :=
    match op with
    | .eq => some (.plain [spelled "(",other.tokens,spelled " is ",null.tokens,spelled ")"])
    | .ne => some (.plain [spelled "(",other.tokens,spelled " is not ",null.tokens,spelled ")"])
    | _ => none

mutual

def Expr.render (m : Mapping) : Expr → Option Rendering
  | .binary op left right => do op.rendered (← Expr.render m left) (← Expr.render m right)
  | .not operand => (Expr.render m operand).map Rendering.negated
  | .call method receiver args => do
      method.rendered (← Expr.renderReceiver m receiver) (← Expr.renderArgs m args)
  | .constant value => value.rendered
  | .convert target operand => do (← Expr.render m operand).converted target
  | .member .parameter field =>
      (m.byProperty? field).map fun column => .plain [spelled (quotedName column.name)]
  | .member receiver field =>
      match receiver.evaluate with
      | .ok (.object fields) => do (← Fields.get? field fields).rendered
      | _ => none
  | .parameter => none

def Expr.renderReceiver (m : Mapping) : Option Expr → Option (Option Rendering)
  | none => some none
  | some receiver => (Expr.render m receiver).map some

def Expr.renderArgs (m : Mapping) : List Expr → Option (List Rendering)
  | [] => some []
  | arg :: rest => do return (← Expr.render m arg) :: (← Expr.renderArgs m rest)

end

mutual

def Expr.parts : Expr → List Expr
  | .binary op left right => .binary op left right :: (left.parts ++ right.parts)
  | .not operand => .not operand :: operand.parts
  | .call method receiver args =>
      .call method receiver args :: (Expr.receiverParts receiver ++ Expr.argsParts args)
  | .convert target operand => .convert target operand :: operand.parts
  | e => [e]

def Expr.receiverParts : Option Expr → List Expr
  | none => []
  | some receiver => receiver.parts

def Expr.argsParts : List Expr → List Expr
  | [] => []
  | arg :: rest => arg.parts ++ Expr.argsParts rest

end

def Captured.tokens : Captured → List Value → List Token
  | .list _, vs => listTokens vs
  | _, vs => vs.map .bound

theorem mapM_asScalar (vs : List Value) :
    (vs.map Captured.scalar).mapM Captured.asScalar = some vs := by
  induction vs with
  | nil => rfl
  | cons v rest ih =>
    rw [List.map_cons,List.mapM_cons,ih]
    rfl

theorem boundValues_listTokens (vs : List Value) : boundValues (listTokens vs) = vs := by
  have inner : boundValues ((vs.map Token.bound).intersperse (.literal ",")) = vs := by
    induction vs with
    | nil => rfl
    | cons v rest ih =>
      cases rest with
      | nil => rfl
      | cons w rest =>
        rw [List.map_cons] at ih ⊢
        rw [List.map_cons,List.intersperse_cons_cons,boundValues_bound,boundValues_literal,ih]
  simp [listTokens,inner]

theorem flattened_listTokens (vs : List Value) :
    flattened (listTokens vs) = placeholders vs.length := by
  have inner : flattened ((vs.map Token.bound).intersperse (.literal ",")) =
      ",".intercalate (List.replicate vs.length "?") := by
    induction vs with
    | nil => rfl
    | cons v rest ih =>
      cases rest with
      | nil => simp
      | cons w rest =>
        rw [List.map_cons,List.length_cons,List.replicate_succ] at ih ⊢
        rw [List.map_cons,List.intersperse_cons_cons,flattened_bound,flattened_literal,ih,
          List.length_cons,List.replicate_succ,String.intercalate_cons_cons,String.append_assoc]
  simp [listTokens,placeholders,inner,String.append_assoc]

namespace Captured.Bindable

variable {value : Captured} {xs : List Value}

theorem rendered (bindable : value.Bindable xs) :
    value.rendered = some ⟨value.tokens xs,some value,true⟩ := by
  cases bindable with
  | scalar v => rfl
  | list => rw [Captured.rendered,mapM_asScalar]; rfl

theorem boundValues_tokens (bindable : value.Bindable xs) : boundValues (value.tokens xs) = xs := by
  cases bindable with
  | scalar v => rfl
  | list => exact boundValues_listTokens xs

theorem flattened_tokens (bindable : value.Bindable xs) :
    flattened (value.tokens xs) = value.placeholder := by
  cases bindable with
  | scalar v => simp [Captured.tokens,Captured.placeholder]
  | list => simp [Captured.tokens,Captured.placeholder,flattened_listTokens]

end Captured.Bindable

end TypedRows
