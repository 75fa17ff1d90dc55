import TypedRows.Sql.Evaluate
import TypedRows.Sql.Plan

namespace TypedRows.Sql

-- The rows that a plan gives, one after the other, up to the first test that fails.

structure Visit where
  rows : List TableRow
  failure : Option EngineError

def emptyRow : TableRow := ⟨0,[]⟩

def testRows (tests : List Formula) : List TableRow → Visit
  | [] => ⟨[],none⟩
  | row :: rest =>
      match passesAll row tests with
      | .error e => ⟨[],some e⟩
      | .ok passed =>
          let ⟨rows,failure⟩ := testRows tests rest
          ⟨if passed then row :: rows else rows,failure⟩

def rowsThat (test : TableRow → Except EngineError Bool) :
    List TableRow → Except EngineError (List TableRow)
  | [] => .ok []
  | row :: rest => do
      if ← test row then return row :: (← rowsThat test rest) else rowsThat test rest

def found (f : Field) (relation : Relation) (rows : List TableRow) :
    Except EngineError (List TableRow) := do
  let _ ← Formula.evalAll emptyRow relation.values
  let test := relation.test f
  rowsThat (fun row => test.passes row) rows

-- From one bound to the other. The far bound is looked at only when there is a row to start
-- with.
def between (f : Field) (near far : Option Relation) (rows : List TableRow) :
    Except EngineError (List TableRow) := do
  let started ← match near with
    | some relation => found f relation rows
    | none => .ok rows
  match far with
  | some relation => if started.isEmpty then return [] else found f relation started
  | none => return started

namespace Way

def ordered (way : Way) (rows : List TableRow) : List TableRow :=
  match way with
  | .byId => rows
  | .byKey key => rows.mergeSort fun a b => order (key.field.read a) (key.field.read b) != .gt

def walk (way : Way) (uses : List Use) (reversed : Bool) (rows : List TableRow) :
    Except EngineError (List TableRow) := do
  let relations := uses.map Use.relation
  let rows := if reversed then (way.ordered rows).reverse else way.ordered rows
  let lower := relations.find? Relation.isAbove
  let upper := relations.find? Relation.isBelow
  match relations.find? fun relation => !relation.isAbove && !relation.isBelow with
  | some relation => found way.field relation rows
  | none =>
      if reversed then between way.field upper lower rows
      else between way.field lower upper rows

end Way

namespace Request

def onceTests (r : Request) : List Formula :=
  (r.clauses.filter fun c => c.isTested && !c.test.readsRow).map Clause.test

-- Tests of single rows that the course leaves open. On a walk by the key, those come first
-- that need no look at the row itself; `apart` tells that rows are looked up.
def rowTests (r : Request) (course : Course) (apart : Bool) : List Formula :=
  let settled (place : Nat) : Bool :=
    match course with
    | .walk _ uses => uses.any (settles r.clauses · place)
    | .union union => union == place
  let tests := (r.clauses.zipIdx.filter fun (c,place) =>
    c.isTested && c.test.readsRow && !settled place).map fun (c,_) => c.test
  match course with
  | .walk way@(.byKey _) _ =>
      if apart then
        tests.filter (·.readsOnly way.knows) ++ tests.filter fun x => !x.readsOnly way.knows
      else tests
  | _ => tests

def branchClauses (r : Request) (place : Nat) (b : Branch) : List Clause :=
  let around := (r.clauses.zipIdx.filter fun (c,other) =>
    other != place && c.role == .part && c.test.readsRow && c.isUseful).map fun (c,_) => c.test
  withDerived ((b.test.conjuncts ++ around).flatMap clausesOf)

end Request

structure Gathered where
  seen : List Int64
  found : Visit

def Gathered.add (g : Gathered) (tests : List Formula) (branch : Visit) : Gathered :=
  let fresh := testRows tests (branch.rows.filter fun row => !g.seen.contains row.id)
  { seen := g.seen ++ branch.rows.map TableRow.id
    found := ⟨g.found.rows ++ fresh.rows,fresh.failure <|> branch.failure⟩ }

def Formula.alternatives : Formula → Nat
  | .binary .or left right => left.alternatives + right.alternatives + 1
  | .binary .and left right => left.alternatives + right.alternatives
  | _ => 0

namespace Request

-- Every step into a branch leaves a disjunction behind.
def depth (r : Request) : Nat := r.clauses.foldr (fun c n => c.test.alternatives + n) 1

-- A deletion takes rows away at once, so that later branches do not meet them again.
def visitBy (r : Request) (apart : Bool) : Nat → Plan → List TableRow → Visit
  | 0, _, rows => testRows (r.clauses.map Clause.test) rows
  | fuel + 1, plan, rows =>
      match passesAll emptyRow r.onceTests with
      | .error e => ⟨[],some e⟩
      | .ok false => ⟨[],none⟩
      | .ok true =>
          let tests := r.rowTests plan.course apart
          match plan.course with
          | .walk way uses =>
              match way.walk uses plan.reversed rows with
              | .error e => ⟨[],some e⟩
              | .ok rows => testRows tests rows
          | .union place =>
              let branches := ((r.clauses[place]?).map Clause.branches).getD []
              (branches.foldl (fun (g : Gathered) b =>
                if g.found.failure.isSome then g
                else
                  let r' := {r with clauses := r.branchClauses place b, order := [], limit := none}
                  let left := if r.deleting then
                      rows.filter fun row => !g.found.rows.any (·.id == row.id)
                    else rows
                  g.add tests (r'.visitBy true fuel r'.branchPlan left)) ⟨[],⟨[],none⟩⟩).found

def visit (r : Request) (plan : Plan) : Visit :=
  r.visitBy (!r.covering || r.deleting) r.depth plan r.table.rows

end Request

end TypedRows.Sql
