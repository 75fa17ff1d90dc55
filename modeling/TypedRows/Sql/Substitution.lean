import TypedRows.Sql.Formula

namespace TypedRows.Sql

-- A condition that fixes a column by an equation with a constant holds for one value of the
-- column only, so that every other use of the column may take the value at once.

structure Equation where
  field : Field
  value : Formula
  place : Nat

def equationAt (place : Nat) : Formula → Option Equation
  | .binary .eq (.field f) value =>
      if value.readsRow || value.affinity.isSome then none else some ⟨f,value,place⟩
  | .binary .eq value (.field f) =>
      if value.readsRow || value.affinity.isSome then none else some ⟨f,value,place⟩
  | _ => none

def equations (parts : List Formula) : List Equation :=
  (parts.zipIdx.filterMap fun (x,place) => equationAt place x).foldr
    (fun equation later =>
      if later.any (·.field == equation.field) then later else later ++ [equation]) []

-- A column that keeps values as they come takes its value only as an operand of a comparison.
def Field.fixedBy (known : List Equation) (operand : Bool) (f : Field) : Formula :=
  match known.find? (·.field == f) with
  | some equation => if f.affinity == .blob && !operand then .field f else .fixed f equation.value
  | none => .field f

def TermOp.takesValues : TermOp → Bool
  | .ne => false
  | op => op.isComparison

namespace Formula

mutual

def substitute (known : List Equation) : Formula → Formula
  | .field f => f.fixedBy known false
  | .not x => .not (x.substitute known)
  | .negate x => .negate (x.substitute known)
  | .plain x => .plain (x.substitute known)
  | .binary op left right =>
      .binary op
        (match left with
          | .field f => f.fixedBy known op.takesValues
          | left => left.substitute known)
        (match right with
          | .field f => f.fixedBy known (op.takesValues && left.affinity != some .text)
          | right => right.substitute known)
  | .is negated left right =>
      .is negated
        (match left with
          | .field f => f.fixedBy known (!negated)
          | left => left.substitute known)
        (match right with
          | .field f => f.fixedBy known (!negated && left.affinity != some .text)
          | right => right.substitute known)
  | .among item choices => .among (item.substitute known) (substituteAll known choices)
  | .amongRows items affinities rows => .amongRows (substituteAll known items) affinities rows
  | .apply f args => .apply f (substituteAll known args)
  | .row items => .row (substituteAll known items)
  | x => x

def substituteAll (known : List Equation) : List Formula → List Formula
  | [] => []
  | x :: rest => x.substitute known :: substituteAll known rest

end

def withValues (parts : List Formula) : List Formula :=
  let known := equations parts
  parts.zipIdx.map fun (x,place) =>
    if known.any (·.place == place) then x else x.substitute known

-- Values that take the place of columns can make further equations, of which there are no
-- more than parts.
def withEquations (parts : List Formula) : List Formula :=
  if parts.length < 2 then parts
  else parts.foldl (fun parts _ => withValues parts) parts

end Formula

end TypedRows.Sql
