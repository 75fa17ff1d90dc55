import TypedRows.Sql.Formula
import TypedRows.Sql.PatternRange

namespace TypedRows.Sql

-- What the parts of a condition can do for the search of rows.

inductive Relation where
  | compare (op : TermOp) (value : Formula)
  | same (value : Formula)
  | among (values : List Formula)
  | amongRows (affinities : List Affinity) (rows : List (List Datum))
  | within (low high : List UInt8)

namespace Relation

def test (f : Field) : Relation → Formula
  | .compare op value => .binary op (.field f) value
  | .same value => .is false (.field f) value
  | .among values => .among (.field f) values
  | .amongRows affinities rows => .amongRows [.field f] affinities rows
  | .within low high =>
      .binary .and (.binary .ge (.field f) (.literal (.text low)))
        (.binary .lt (.field f) (.literal (.text high)))

def values : Relation → List Formula
  | .compare _ value => [value]
  | .same value => [value]
  | .among values => values
  | .amongRows _ _ => []
  | .within _ _ => []

def isEquation : Relation → Bool
  | .compare .eq _ => true
  | .same _ => true
  | _ => false

def isAbove : Relation → Bool
  | .compare .gt _ => true
  | .compare .ge _ => true
  | _ => false

def isBelow : Relation → Bool
  | .compare .lt _ => true
  | .compare .le _ => true
  | _ => false

def isExact : Relation → Bool
  | .among _ => true
  | .amongRows _ _ => true
  | relation => relation.isEquation

end Relation

def TermOp.flipped : TermOp → TermOp
  | .lt => .gt
  | .le => .ge
  | .gt => .lt
  | .ge => .le
  | op => op

-- A part that is about one column. It finds rows unless both of its sides read the row,
-- and it can do so only if its values are `bound` before any row is read. An equation of
-- two columns names the other one as its twin.
structure Finder where
  field : Field
  relation : Relation
  finds : Bool
  bound : Bool
  twin : Option Field

namespace Formula

def column? : Formula → Option Field
  | .field f => some f
  | .fixed f _ => some f
  | _ => none

def ownColumn? : Formula → Option Field
  | .field f => some f
  | _ => none

end Formula

def Affinity.agrees (a b : Affinity) : Bool := a == b || (a.isNumeric && b.isNumeric)

def findersOf (forth back : Formula → Relation) (equates : Bool) (left right : Formula) :
    List Finder :=
  let finds := !(left.readsRow && right.readsRow)
  let linked := match left.column?, right.ownColumn? with
    | some f, some g => equates && f.affinity.agrees g.affinity
    | _, _ => false
  let twin (x : Formula) := if linked then x.ownColumn? else none
  let own := left.column?.map fun f =>
    (⟨f,forth right,finds,!right.readsRow,twin right⟩ : Finder)
  let other := right.ownColumn?.map fun f =>
    (⟨f,back left,finds,!left.readsRow,twin left⟩ : Finder)
  own.toList ++ other.toList

def finders : Formula → List Finder
  | .binary op left right =>
      if op.isComparison && op != .ne then
        findersOf (.compare op) (.compare op.flipped) (op == .eq) left right
      else []
  | .is false left right => findersOf .same .same true left right
  | .among item choices =>
      let bound := !Formula.anyReadsRow choices
      (item.column?.map fun f =>
        (⟨f,.among choices,bound || !item.readsRow,bound,none⟩ : Finder)).toList
  | .amongRows [item] affinities rows =>
      (item.column?.map fun f =>
        (⟨f,.amongRows affinities rows,true,true,none⟩ : Finder)).toList
  | _ => []

-- Clauses are the parts of the condition themselves, the single equations of an equation of
-- rows, which take its place, and clauses that follow from another one. Those that say all
-- that it says name its place; a silent clause is never tested.
inductive Role where
  | part
  | slice
  | silent
  | derived (place : Nat)
deriving DecidableEq

mutual

inductive Clause where
  | mk (test : Formula) (finder : Option Finder) (role : Role) (branches : List Branch)

inductive Branch where
  | mk (test : Formula) (clauses : List Clause)

end

namespace Clause

def test : Clause → Formula
  | .mk test _ _ _ => test

def finder : Clause → Option Finder
  | .mk _ finder _ _ => finder

def role : Clause → Role
  | .mk _ _ role _ => role

def branches : Clause → List Branch
  | .mk _ _ _ branches => branches

def ofTest (test : Formula) : Clause := .mk test (finders test).head? .part []

def isUseful (c : Clause) : Bool :=
  !c.branches.isEmpty || c.finder.any fun finder => finder.finds || finder.twin.isSome

end Clause

namespace Branch

def test : Branch → Formula
  | .mk test _ => test

def clauses : Branch → List Clause
  | .mk _ clauses => clauses

def finder? (b : Branch) : Option Finder :=
  match b.clauses with
  | [c] => c.finder.filter Finder.finds
  | _ => none

def isSearchable (b : Branch) : Bool := b.clauses.any fun c => c.finder.isSome

end Branch

def amongOf (branches : List Branch) : Option Formula := do
  let finders ← branches.mapM Branch.finder?
  let first ← finders.head?
  let values ← finders.mapM fun finder =>
    match finder.relation with
    | .compare .eq value =>
        if finder.field == first.field && value.affinity.all (· == first.field.affinity) then
          some value
        else none
    | _ => none
  return .among (.field first.field) values

-- Two comparisons of one column with one value that are bounds from the same side, or
-- equations, make a comparison that holds wherever one of them does.
def TermOp.joined (a b : TermOp) : Option TermOp :=
  let bounds (op : TermOp) (strict weak : TermOp) := op == .eq || op == strict || op == weak
  if a == b && a.isComparison && a != .ne then some a
  else if bounds a .lt .le && bounds b .lt .le then some .le
  else if bounds a .gt .ge && bounds b .gt .ge then some .ge
  else none

def joinedOf (c d : Clause) : Option Formula :=
  match c.finder.filter Finder.finds, d.finder.filter Finder.finds with
  | some x, some y =>
      match x.relation, y.relation with
      | .compare a (.literal v), .compare b (.literal w) =>
          if x.field == y.field && v == w then
            (a.joined b).map fun op => .binary op (.field x.field) (.literal v)
          else none
      | _, _ => none
  | _, _ => none

def joinedClauses (branches : List Branch) : List Clause :=
  match branches with
  | [a,b] =>
      if a.isSearchable && b.isSearchable then
        a.clauses.flatMap fun c => b.clauses.filterMap fun d =>
          (joinedOf c d).map fun test => .mk test (finders test).head? .silent []
      else []
  | _ => []

def slices : List Formula → List Formula → (Formula → Formula → Formula) → List Clause
  | x :: xs, y :: ys, join => .mk (join x y) none .slice [] :: slices xs ys join
  | _, _, _ => []

def rangeClause (place : Nat) (test : Formula) (f : Field) (pattern : List UInt8) : List Clause :=
  match if f == .rowId then patternRange pattern else none with
  | some range =>
      [.mk test (some ⟨f,.within range.low range.high,true,true,none⟩)
        (if range.complete then .derived place else .silent) []]
  | none => []

def derivedFrom (place : Nat) (c : Clause) : List Clause :=
  match c.test with
  | .binary .eq (.row xs) (.row ys) => slices xs ys (.binary .eq)
  | .is false (.row xs) (.row ys) => slices xs ys (.is false)
  | .apply .like [.literal (.text pattern),.field f] => rangeClause place c.test f pattern
  | .apply .like [.argument (.text pattern),.field f] => rangeClause place c.test f pattern
  | test =>
      let mirrored := ((finders test).drop 1).map fun finder =>
        Clause.mk test (some finder) (.derived place) []
      let among := ((if c.branches.isEmpty then none else amongOf c.branches).map fun test =>
        Clause.mk test (finders test).head? (.derived place) []).toList
      mirrored ++ joinedClauses c.branches ++ among

def isDivided : Formula → Bool
  | .binary .eq (.row _) (.row _) => true
  | .is false (.row _) (.row _) => true
  | _ => false

def withDerived (clauses : List Clause) : List Clause :=
  (clauses.map fun c =>
    if isDivided c.test then .mk c.test c.finder .silent c.branches else c) ++
    clauses.zipIdx.reverse.flatMap fun (c,place) => derivedFrom place c

def branchOf (test : Formula) (clauses : List Clause) : Branch :=
  match clauses with
  | [c] => .mk test (if c.finder.any Finder.finds then [c] else withDerived [c])
  | clauses => .mk test (withDerived clauses)

mutual

def clausesOf : Formula → List Clause
  | .binary .and left right => clausesOf left ++ clausesOf right
  | .binary .or left right =>
      [.mk (.binary .or left right) none .part (branchesOf left ++ branchesOf right)]
  | x => [.ofTest x]

def branchesOf : Formula → List Branch
  | .binary .or left right => branchesOf left ++ branchesOf right
  | .binary .and left right =>
      [branchOf (.binary .and left right) (clausesOf left ++ clausesOf right)]
  | x => [branchOf x [.ofTest x]]

end

end TypedRows.Sql
