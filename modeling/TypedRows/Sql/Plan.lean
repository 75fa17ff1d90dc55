import TypedRows.Sql.Route

namespace TypedRows.Sql

-- The choice among routes. Of the items of the order, the first `satisfied` ones are met
-- by the order of the route, so that a sort has to look at the others only.

structure Plan where
  course : Course
  satisfied : Nat
  reversed : Bool

abbrev Marks := List ((Option Field × Bool) × Bool)

-- The first open item is met by the next column of a route. The direction is free until
-- the first such item fixes it; the answer is the direction.
def meet (f : Field) (direction : Option Bool) : Marks → Option (Marks × Bool)
  | [] => none
  | (item,true) :: rest => do
      let (rest,descending) ← meet f direction rest
      return ((item,true) :: rest,descending)
  | (item,false) :: rest =>
      if item.1 == some f && direction.all (· == item.2) then
        some ((item,true) :: rest,item.2)
      else none

namespace Request

def isFixed (r : Request) (f : Field) : Bool :=
  (relationsOn [r.clauses] f fun _ _ => true).any fun use => use.relation.isEquation

def marks (r : Request) : Marks :=
  r.order.map fun item => (item,item.1.any r.isFixed)

end Request

namespace Course

def isSingle : Course → Bool
  | .walk .byId [use] => use.relation.isEquation
  | .walk (.byKey key) [use] =>
      match use.relation with
      | .compare .eq _ => true
      | .same _ => !key.nullable
      | _ => false
  | _ => false

def isExact : Course → Bool
  | .walk _ (use :: _) => use.relation.isExact
  | _ => false

def isBounded : Course → Bool
  | .walk _ (_ :: _) => true
  | _ => false

end Course

structure Sorting where
  marks : Marks
  reversed : Bool
  distinct : Bool

-- Rows that all differ in what the order has met so far are in order altogether.
def sortingById (marks : Marks) : Sorting :=
  match meet .rowId none marks with
  | some (marks,descending) => ⟨marks,descending,true⟩
  | none => ⟨marks,false,false⟩

def sortingByKey (key : Key) (uses : List Use) (marks : Marks) : Sorting :=
  let behind (marks : Marks) (direction : Option Bool) (distinct : Bool) : Sorting :=
    match meet .rowId direction marks with
    | some (marks,descending) => ⟨marks,direction.getD descending,true⟩
    | none => ⟨marks,direction.getD false,distinct⟩
  if uses.any fun use => use.relation.isEquation then behind marks none false
  else
    match meet key.field none marks with
    | some (marks,descending) =>
        let listed := (Course.walk (.byKey key) uses).isExact
        behind marks (some descending) (listed || !key.nullable)
    | none => ⟨marks,false,false⟩

def Marks.satisfied (marks : Marks) : Nat := (marks.takeWhile Prod.snd).length

def Request.sorting (r : Request) (course : Course) : Nat × Bool :=
  let marks := r.marks
  let known (s : Sorting) : Nat × Bool :=
    (if s.distinct then marks.length else Marks.satisfied s.marks,s.reversed)
  match course with
  | .union _ => (0,false)
  | course@(.walk way uses) =>
      if course.isSingle then (marks.length,false)
      else match way with
        | .byId => known (sortingById marks)
        | .byKey key => known (sortingByKey key uses marks)

def Request.sortCost (r : Request) (rows : Estimate) (satisfied : Nat) : Estimate :=
  let items := r.order.length
  let whole := rows + estimate ((r.width + 59) / 30)
  let partly := if satisfied = 0 then 0 else estimate ((items - satisfied) * 100 / items) - 66
  match r.limit with
  | none => whole + partly + estimateLog rows
  | some limit =>
      whole + partly + 10 + (if satisfied = 0 then 0 else 6) +
        estimateLog (min rows (estimate limit))

abbrev Rank := Estimate × Estimate × Estimate

def Rank.isBelow (a b : Rank) : Bool :=
  a.1 < b.1 || (a.1 == b.1 && (a.2.1 < b.2.1 || (a.2.1 == b.2.1 && a.2.2 < b.2.2)))

def leastBy (rank : Route → Rank) : List Route → Option Route
  | [] => none
  | r :: rest =>
      match leastBy rank rest with
      | none => some r
      | some best => if (rank best).isBelow (rank r) then some best else some r

namespace Request

def unsortedRank (r : Route) : Rank :=
  let run := estimateSum r.run 0
  (run,r.out,run - 2)

-- A course that leaves a part of the order unmet is charged for the sort.
def sortedRank (r : Request) (rows : Estimate) (route : Route) : Rank :=
  let satisfied := (r.sorting route.course).1
  if satisfied < r.order.length then
    let run := estimateSum route.run 0
    (estimateSum run (r.sortCost rows satisfied) + 3,route.out,run)
  else unsortedRank route

def lookUp (r : Request) : Option Course :=
  r.ways.firstM fun way =>
    ((way.uses [r.clauses]).map fun use => Course.walk way [use]).find? Course.isSingle

-- The best route without regard to the order comes first. If it goes by exact values,
-- only routes that are bounded by the condition compete for the order.
def choice (r : Request) : Option Course := do
  let first ← leastBy unsortedRank r.routes
  if r.order.isEmpty then return first.course
  else
    let rivals :=
      if first.course.isExact then r.routes.filter fun route => route.course.isBounded
      else r.routes
    return (← leastBy (r.sortedRank (first.out + 1)) rivals).course

def planOf (r : Request) (course : Option Course) : Plan :=
  let course := course.getD (.walk .byId [])
  let (satisfied,reversed) := r.sorting course
  { course, satisfied, reversed }

def plan (r : Request) : Plan := r.planOf (r.lookUp <|> r.choice)

def branchPlan (r : Request) : Plan := r.planOf r.choice

end Request

end TypedRows.Sql
