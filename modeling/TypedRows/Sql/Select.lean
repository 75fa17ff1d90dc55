import TypedRows.Sql.Substitution
import TypedRows.Sql.Visit

namespace TypedRows.Sql

-- The rows of a selection. They come one by one, so those before a failure are given out.

structure Scan where
  names : List String
  rows : List (List Datum)
  failure : Option EngineError

namespace Scan

def nothing (names : List String) : Scan := ⟨names,[],none⟩

def failed (names : List String) (failure : EngineError) : Scan := ⟨names,[],some failure⟩

end Scan

-- The rows from `offset` on, at most `limit` of them, each read by `read`. A failure that
-- lies behind the limit is never met.
def page {α : Type} (read : α → Except EngineError (List Datum)) (failure : Option EngineError) :
    Nat → Option Nat → List α → List (List Datum) × Option EngineError
  | _, some 0, _ => ([],none)
  | _, _, [] => ([],failure)
  | offset + 1, limit, _ :: rest => page read failure offset limit rest
  | 0, limit, row :: rest =>
      match read row with
      | .error e => ([],some e)
      | .ok values =>
          let (others,failure) := page read failure 0 (limit.map (· - 1)) rest
          (values :: others,failure)

-- Sorting. A row waits with its keys until its place is known.

structure Waiting where
  keys : List Datum
  values : List Datum

def waitingRows (read : TableRow → Except EngineError Waiting) (failure : Option EngineError) :
    List TableRow → List Waiting × Option EngineError
  | [] => ([],failure)
  | row :: rest =>
      match read row with
      | .error e => ([],some e)
      | .ok w =>
          let (others,failure) := waitingRows read failure rest
          (w :: others,failure)

def keysInOrder : List Bool → List Datum → List Datum → Bool
  | descending :: more, d :: ds, e :: es =>
      match if descending then order e d else order d e with
      | .lt => true
      | .gt => false
      | .eq => keysInOrder more ds es
  | _, _, _ => true

def sameKeys (ds es : List Datum) : Bool := (ds.zip es).all fun (d,e) => order d e == .eq

def blocks (count : Nat) : List Waiting → List (List Waiting)
  | [] => []
  | w :: rest =>
      match blocks count rest with
      | (v :: block) :: others =>
          if sameKeys (w.keys.take count) (v.keys.take count) then (w :: v :: block) :: others
          else [w] :: (v :: block) :: others
      | others => [w] :: others

-- Rows that come ordered by their first keys are sorted block by block. A block is given
-- out once the next one has begun, so that a failure takes the last one with it.
def sorted (descending : List Bool) (satisfied : Nat) (failure : Option EngineError)
    (rows : List Waiting) : List Waiting :=
  let all := blocks satisfied rows
  let ready := if failure.isSome then all.dropLast else all
  ready.flatMap fun block => block.mergeSort fun a b => keysInOrder descending a.keys b.keys

def bound (s : Scope) (t : Term) : Except EngineError Int := do
  match Affinity.store .integer (← (t.formula s).eval emptyRow) with
  | .integer n => return n.toInt
  | _ => throw .typeMismatch

def Term.isAggregate : Term → Bool
  | .countRows _ => true
  | .call name _ => aggregates.contains (lowerWord name)
  | _ => false

def Term.operands : Term → List Term
  | .call name args => if aggregates.contains (lowerWord name) then args else [.call name args]
  | t => [t]

def greatest (largest : Bool) (ds : List Datum) : Datum :=
  ds.foldl (fun best d =>
    if d == .null then best
    else if best == .null || order d best == (if largest then .gt else .lt) then d
    else best) .null

def aggregate (scope : Scope) (rows : List TableRow) : Term → Except EngineError Datum
  | .countRows _ => .ok (.integer (Int64.ofInt rows.length))
  | .call name args => do
      let formulas := Term.formulas scope args
      let values ← rows.mapM fun row => do
        return ((← Formula.evalAll row formulas).head?).getD .null
      let known := values.filter (· != .null)
      if lowerWord name = "count" then
        return .integer (Int64.ofInt (if args.isEmpty then rows.length else known.length))
      else return greatest (lowerWord name = "max") known
  | _ => .ok .null

def isCovering (t : Table) (formulas : List Formula) : Bool :=
  t.key?.any fun key => formulas.all (·.readsOnly (Way.byKey key).knows)

def conditionParts (scope : Scope) (condition : Option Term) : List Formula :=
  (condition.map fun t => (t.formula scope).conjuncts).getD []

namespace Selection

def isAggregate (s : Selection) : Bool := s.items.any fun item => item.term.isAggregate

def statedLimit (s : Selection) : Option Nat :=
  match s.limit with
  | some (.literal (.integer n)) =>
      if 0 < n.toInt ∧ n.toInt ≤ Int32.maxValue.toInt then some n.toInt.toNat else none
  | _ => none

def request (s : Selection) (scope : Scope) (t : Table) : Request :=
  let parts := conditionParts scope s.condition
  let items := Term.formulas scope (s.items.flatMap fun item => item.term.operands)
  let keys := s.order.map fun item => item.term.formula scope
  let order := s.order.map fun item =>
    match item.term.formula scope with
    | .field f => (some f,item.descending)
    | _ => (none,item.descending)
  { table := t
    clauses := withDerived ((Formula.withEquations parts).flatMap clausesOf)
    order := if s.isAggregate then [] else order
    limit := if s.isAggregate then none else s.statedLimit
    width := s.items.length
    covering := isCovering t (items ++ parts ++ keys)
    deleting := false }

def columnNames (s : Selection) (table : Option Table) : List String :=
  s.items.map fun item =>
    match item.term with
    | .column quoted name =>
        match reference table quoted name, table with
        | .field f, some t =>
            match f.column with
            | some i => t.columnName i
            | none => t.rowIdName
        | _, _ => item.source
    | _ => item.source

def visited (s : Selection) (scope : Scope) : Visit × Nat :=
  match scope.table with
  | none =>
      match passesAll emptyRow (conditionParts scope s.condition) with
      | .error e => (⟨[],some e⟩,0)
      | .ok passed => (⟨if passed then [emptyRow] else [],none⟩,s.order.length)
  | some t =>
      let request := s.request scope t
      let plan := request.plan
      (request.visit plan,plan.satisfied)

def scanPaged (s : Selection) (scope : Scope) (names : List String) (offset : Nat)
    (limit : Option Nat) : Scan :=
  let (visit,satisfied) := s.visited scope
  let terms := s.items.map SelectItem.term
  if s.isAggregate then
    match terms.mapM (aggregate scope visit.rows), visit.failure with
    | .error e, _ => .failed names e
    | .ok _, some e => .failed names e
    | .ok values, none => ⟨names,if offset = 0 then [values] else [],none⟩
  else
    let items := Term.formulas scope terms
    if s.order.length ≤ satisfied then
      let (rows,failure) := page (Formula.evalAll · items) visit.failure offset limit visit.rows
      ⟨names,rows,failure⟩
    else
      let keys := Term.formulas scope (s.order.map OrderItem.term)
      let read (row : TableRow) : Except EngineError Waiting := do
        let values ← Formula.evalAll row items
        return { keys := ← Formula.evalAll row keys, values }
      let (waiting,failure) := waitingRows read visit.failure visit.rows
      let rows := sorted (s.order.map OrderItem.descending) satisfied failure waiting
      let (rows,failure) := page (fun w : Waiting => .ok w.values) failure offset limit rows
      ⟨names,rows,failure⟩

-- A limit of zero ends the selection before anything else is looked at.
def scan (s : Selection) (scope : Scope) : Scan :=
  let names := s.columnNames scope.table
  let fixed := Scope.fixed scope.arguments
  match s.limit.mapM (bound fixed) with
  | .error e => .failed names e
  | .ok limit =>
      if limit = some 0 then .nothing names
      else match s.offset.mapM (bound fixed) with
        | .error e => .failed names e
        | .ok offset =>
            s.scanPaged scope names ((offset.getD 0).toNat)
              (limit.bind fun n => if n < 0 then none else some n.toNat)

end Selection

end TypedRows.Sql
