import TypedRows.Sql.Clause
import TypedRows.Sql.Estimate

namespace TypedRows.Sql

-- Routes to the rows that a condition asks for: a walk through all rows or through those
-- that a column leads to, by the row id or by the unique key, or a union of walks. What a
-- route gives is the same for all; they differ in cost and in the order of rows and tests.

structure Key where
  field : Field
  nullable : Bool

def Table.key? (t : Table) : Option Key :=
  (t.columns.zipIdx.find? fun (column,_) => column.unique).map fun (column,i) =>
    ⟨⟨some i,column.affinity⟩,!column.notNull⟩

inductive Way where
  | byId
  | byKey (key : Key)

namespace Way

def field : Way → Field
  | .byId => .rowId
  | .byKey key => key.field

def knows (way : Way) (f : Field) : Bool := f == .rowId || f == way.field

end Way

-- A clause that leads the way, by its place in one of the lists of clauses around.
structure Use where
  level : Nat
  place : Nat
  relation : Relation

inductive Course where
  | walk (way : Way) (uses : List Use)
  | union (place : Nat)

-- Routes of different groups never rule each other out.
structure Route where
  course : Course
  group : Nat
  run : Estimate
  out : Estimate

-- What is asked of a table. An item of the order is a column, or some other value; `limit`
-- is the number of rows, if the statement says it; `covering` tells that nothing but the
-- unique key and the row id is read.
structure Request where
  table : Table
  clauses : List Clause
  order : List (Option Field × Bool)
  limit : Option Nat
  width : Nat
  covering : Bool
  deleting : Bool

-- The clauses that are in sight, from the innermost list outwards.

structure Located where
  level : Nat
  place : Nat
  clause : Clause

def located (chain : List (List Clause)) : List Located :=
  chain.zipIdx.flatMap fun (clauses,level) =>
    clauses.zipIdx.map fun (clause,place) => ⟨level,place,clause⟩

def twinsOf (clauses : List Located) (f : Field) : List Field :=
  clauses.filterMap fun l => (l.clause.finder.filter (·.field == f)).bind Finder.twin

def linkedFields (clauses : List Located) (f : Field) : List Field :=
  let links := clauses.filter fun l => l.clause.finder.any fun finder => finder.twin.isSome
  links.foldl (fun fields _ =>
    fields.foldl (fun known g =>
      (twinsOf links g).foldl (fun known h =>
        if known.contains h then known else known ++ [h]) known) fields) [f]

def Way.accepts (way : Way) (f : Field) (relation : Relation) : Bool :=
  match way with
  | .byId => true
  | .byKey key =>
      let other := match relation with
        | .compare _ value => value.affinity
        | .same value => value.affinity
        | .among _ => none
        | .amongRows affinities _ => affinities.head?
        | .within _ _ => none
      match comparisonAffinity (some f.affinity) other with
      | .blob => true
      | .text => key.field.affinity == .text
      | _ => key.field.affinity.isNumeric

def relationsOn (chain : List (List Clause)) (f : Field) (accepts : Field → Relation → Bool) :
    List Use :=
  let clauses := located chain
  (linkedFields clauses f).flatMap fun g =>
    clauses.filterMap fun l =>
      (l.clause.finder.filter fun finder =>
        finder.field == g && finder.finds && finder.bound && accepts g finder.relation).map
      fun finder => ⟨l.level,l.place,finder.relation⟩

def Way.uses (way : Way) (chain : List (List Clause)) : List Use :=
  relationsOn chain way.field way.accepts

-- Costs.

def tableRows : Estimate := 200

def seekCost : Estimate := 43

def Affinity.size : Affinity → Nat
  | .text => 5
  | .blob => 5
  | _ => 1

def Table.rowSize (t : Table) : Estimate :=
  estimate (4 * (t.columns.foldr (fun column n => column.affinity.size + n) 0 +
    (if t.rowKey.isNone then 1 else 0)))

def Key.size (key : Key) : Estimate := estimate (4 * (key.field.affinity.size + 1))

def Way.stepCost (way : Way) (t : Table) : Estimate :=
  match way with
  | .byId => 16
  | .byKey key => 1 + 15 * key.size / t.rowSize

def Clause.isTested (c : Clause) : Bool := c.role == .part || c.role == .slice

def Clause.isEquation (c : Clause) : Bool :=
  c.finder.any fun finder => finder.finds && finder.relation.isEquation

-- A clause is settled by its own use, and by the use of a clause that follows from it.
def settles (clauses : List Clause) (use : Use) (place : Nat) : Bool :=
  use.level == 0 &&
    (use.place == place || (clauses[use.place]?).any fun c => c.role == .derived place)

def Relation.isSmall : Relation → Bool
  | .compare _ (.literal (.integer n)) => -1 ≤ n.toInt && n.toInt ≤ 1
  | .same (.literal (.integer n)) => -1 ≤ n.toInt && n.toInt ≤ 1
  | _ => false

def Clause.reduction (c : Clause) : Estimate :=
  if c.isEquation then
    if c.finder.any fun finder => finder.relation.isSmall then 10 else 20
  else 0

def adjusted (clauses : List Clause) (uses : List Use) (out : Estimate) : Estimate :=
  let left := (clauses.zipIdx.filter fun (c,place) =>
    c.isTested && c.test.readsRow && !uses.any (settles clauses · place)).map Prod.fst
  let reduction := (left.map Clause.reduction).foldl max 0
  min (out - left.length) (tableRows - reduction)

namespace Request

def helps (r : Request) (way : Way) : Bool :=
  r.order.any fun (f,_) => f.any way.knows

def group (r : Request) (way : Way) : Nat :=
  if r.helps way then
    match way with
    | .byId => 1
    | .byKey _ => 2
  else 0

def searched (r : Request) (way : Way) (clauses : List Clause) (uses : List Use)
    (out values : Estimate) : Route :=
  let found := estimateSum seekCost (out + way.stepCost r.table)
  let run := match way with
    | .byId => found
    | .byKey _ => if r.covering then found else estimateSum found (out + 16)
  { course := .walk way uses, group := r.group way, run := run + values
    out := adjusted clauses uses (out + values) }

def searches (r : Request) (way : Way) (chain : List (List Clause)) : List Route :=
  let clauses := (chain.head?).getD []
  let uses := way.uses chain
  uses.flatMap fun use =>
    match use.relation with
    | .among values => [r.searched way clauses [use] 0 (estimate values.length)]
    | .amongRows _ _ => [r.searched way clauses [use] 0 46]
    | .within _ _ => [r.searched way clauses [use] 140 0]
    | relation =>
        if relation.isEquation then [r.searched way clauses [use] 0 0]
        else
          r.searched way clauses [use] 180 0 ::
            if relation.isAbove then
              (uses.filter fun other => other.relation.isBelow).map fun other =>
                r.searched way clauses [use,other] 140 0
            else []

-- What it takes to look up the rows behind all entries of a key. Tests that need no more
-- than the entry come first and spare look-ups.
def lookupCost (way : Way) : Estimate → List Clause → Estimate
  | cost, [] => cost
  | cost, c :: rest =>
      if c.test.readsOnly way.knows then
        lookupCost way (cost - 1 - if c.isEquation then 19 else 0) rest
      else cost

-- The walk through all rows. It goes by the key where that gives the order or is shorter.
def scans (r : Request) (way : Way) : List Route :=
  let route (run : Estimate) : Route :=
    { course := .walk way [], group := r.group way, run
      out := adjusted r.clauses [] tableRows }
  match way with
  | .byId => [route (tableRows + 16)]
  | .byKey key =>
      let shorter := r.covering && key.size < r.table.rowSize && !r.deleting
      if r.helps way || shorter then
        let run := tableRows + way.stepCost r.table
        [route (if r.covering then run
          else estimateSum run (lookupCost way (tableRows + 16) r.clauses))]
      else []

def ways (r : Request) : List Way :=
  .byId :: (r.table.key?.map Way.byKey).toList

end Request

structure Cost where
  run : Estimate
  out : Estimate

def cheapest (costs : List Cost) : Option Cost :=
  costs.foldl (fun best c =>
    match best with
    | none => some c
    | some b => if c.run ≤ b.run then some ⟨c.run,min b.out c.out⟩ else some b) none

def addCost (before : Option Cost) (c : Cost) : Cost :=
  match before with
  | none => c
  | some b => ⟨estimateSum b.run c.run,estimateSum b.out c.out⟩

mutual

-- The cost of the union over a disjunction, when each branch has some route of its own.
-- `direct` gives the walks that a chain of clauses leads to.
def Clause.unionCost (direct : List (List Clause) → List Cost) (chain : List (List Clause)) :
    Clause → Option Cost
  | .mk _ _ _ branches =>
      if branches.all Branch.isSearchable then branchesCost direct chain none branches else none

def branchesCost (direct : List (List Clause) → List Cost) (chain : List (List Clause))
    (before : Option Cost) : List Branch → Option Cost
  | [] => before
  | b :: rest =>
      match b.cost direct chain with
      | none => none
      | some c => branchesCost direct chain (some (addCost before c)) rest

def Branch.cost (direct : List (List Clause) → List Cost) (chain : List (List Clause)) :
    Branch → Option Cost
  | .mk _ clauses =>
      cheapest (direct (clauses :: chain) ++ unionCosts direct (clauses :: chain) clauses)

def unionCosts (direct : List (List Clause) → List Cost) (chain : List (List Clause)) :
    List Clause → List Cost
  | [] => []
  | c :: rest =>
      match c.unionCost direct chain with
      | none => unionCosts direct chain rest
      | some cost => ⟨cost.run + 1,cost.out⟩ :: unionCosts direct chain rest

end

namespace Route

def isAsGood (a b : Route) : Bool := a.run ≤ b.run && a.out ≤ b.out

def withoutWorse (new : Route) : List Route → List Route
  | [] => []
  | r :: rest =>
      if r.group != new.group then r :: withoutWorse new rest
      else if r.isAsGood new then r :: rest
      else if new.isAsGood r then withoutWorse new rest
      else r :: withoutWorse new rest

-- A route that is as good as another takes its place; earlier ones win.
def addTo (new : Route) : List Route → List Route
  | [] => [new]
  | r :: rest =>
      if r.group != new.group then r :: new.addTo rest
      else if r.isAsGood new then r :: rest
      else if new.isAsGood r then new :: withoutWorse new rest
      else r :: new.addTo rest

end Route

namespace Request

def unions (r : Request) : List Route :=
  let direct (chain : List (List Clause)) :=
    (r.ways.flatMap fun way => r.searches way chain).map fun route => (⟨route.run,route.out⟩ : Cost)
  r.clauses.zipIdx.filterMap fun (c,place) =>
    (c.unionCost direct [r.clauses]).map fun cost =>
      { course := .union place, group := 0, run := cost.run + 1, out := cost.out }

def routes (r : Request) : List Route :=
  let walks := r.ways.flatMap fun way => r.scans way ++ r.searches way [r.clauses]
  (walks ++ r.unions).foldl (fun known route => route.addTo known) []

end Request

end TypedRows.Sql
