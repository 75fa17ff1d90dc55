import TypedRows.Expr.Basic

namespace TypedRows

-- The form of conditions in diagnostics.

def Operator.shown : Operator → String
  | .gt => "Gt"
  | .ge => "Ge"
  | .lt => "Lt"
  | .le => "Le"
  | .bitAnd => "BitAnd"
  | .and => "And"
  | .bitOr => "BitOr"
  | .or => "Or"
  | .eq => "Eq"
  | .ne => "Ne"
  | .add => "Add"
  | .subtract => "Subtract"
  | .concat => "Concat"
  | .multiply => "Multiply"
  | .divide => "Divide"
  | .modulo => "Modulo"
  | .coalesce => "Coalesce"

def Operator.all : List Operator :=
  [.gt,.ge,.lt,.le,.bitAnd,.and,.bitOr,.or,.eq,.ne,.add,.subtract,.concat,.multiply,
    .divide,.modulo,.coalesce]

def Operator.named? (name : String) : Option Operator := Operator.all.find? fun op => op.shown = name

def Collation.shown : Collation → String
  | .ordinal => "Ordinal"
  | .ordinalIgnoreCase => "OrdinalIgnoreCase"
  | .currentCulture => "CurrentCulture"
  | .currentCultureIgnoreCase => "CurrentCultureIgnoreCase"
  | .invariantCulture => "InvariantCulture"
  | .invariantCultureIgnoreCase => "InvariantCultureIgnoreCase"

def Collation.all : List Collation :=
  [.ordinal,.ordinalIgnoreCase,.currentCulture,.currentCultureIgnoreCase,.invariantCulture,
    .invariantCultureIgnoreCase]

def Collation.named? (name : String) : Option Collation :=
  Collation.all.find? fun collation => collation.shown = name

def Method.shown : Method → String
  | .like => "Like"
  | .contains => "Contains"
  | .startsWith collation => "StartsWith(" ++ collation.shown ++ ")"
  | .endsWith collation => "EndsWith(" ++ collation.shown ++ ")"
  | .equals => "Equals"
  | .toLower => "ToLower"
  | .toUpper => "ToUpper"
  | .replace => "Replace"
  | .other name => "Other(" ++ Text.quoted name ++ ")"

def shownParts (name : String) (parts : List (String × String)) : String :=
  name ++ " \x7b " ++ ", ".intercalate (parts.map fun part => part.1 ++ ": " ++ part.2) ++ " \x7d"

def shownOption : Option String → String
  | none => "None"
  | some s => "Some(" ++ s ++ ")"

mutual

def Expr.shown : Expr → String
  | .binary op left right =>
      shownParts "Binary" [("op",op.shown),("left",left.shown),("right",right.shown)]
  | .not operand => "Not(" ++ operand.shown ++ ")"
  | .call method receiver args =>
      shownParts "Call" [("method",method.shown),("receiver",Expr.receiverShown receiver),
        ("args",shownList (Expr.argsShown args))]
  | .constant value => "Constant(" ++ value.shown ++ ")"
  | .convert target operand =>
      shownParts "Convert" [("target",target.shown),("operand",operand.shown)]
  | .member receiver field =>
      shownParts "Member" [("receiver",receiver.shown),("field",Text.quoted field)]
  | .parameter => "Parameter"

def Expr.receiverShown : Option Expr → String
  | none => "None"
  | some receiver => "Some(" ++ receiver.shown ++ ")"

def Expr.argsShown : List Expr → List String
  | [] => []
  | arg :: rest => arg.shown :: Expr.argsShown rest

end

end TypedRows
