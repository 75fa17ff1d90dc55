import TypedRows.Sql.Formula

namespace TypedRows.Sql

-- The value of a formula on one row, and whether the row passes it as a test. Truth has
-- three values; null is neither.

def Field.read (f : Field) (row : TableRow) : Datum :=
  match f.column with
  | none => .integer row.id
  | some i => (row.values[i]?).getD .null

def both : Option Bool → Option Bool → Option Bool
  | some false, _ => some false
  | _, some false => some false
  | some true, some true => some true
  | _, _ => none

def either : Option Bool → Option Bool → Option Bool
  | some true, _ => some true
  | _, some true => some true
  | some false, some false => some false
  | _, _ => none

def negation (t : Option Bool) : Option Bool := t.map Bool.not

def TermOp.holds : TermOp → Ordering → Bool
  | .eq, o => o == .eq
  | .ne, o => o != .eq
  | .lt, o => o == .lt
  | .le, o => o != .gt
  | .gt, o => o == .gt
  | .ge, o => o != .lt
  | _, _ => false

def arithmetic (exact : Int → Int → Int) (rounded : Double → Double → Double) (d e : Datum) :
    Datum :=
  match numberOf d, numberOf e with
  | some (.integer n), some (.integer m) =>
      let sum := exact n.toInt m.toInt
      if Int64.minValue.toInt ≤ sum ∧ sum ≤ Int64.maxValue.toInt then .integer (Int64.ofInt sum)
      else .ofReal (rounded (Double.ofInt n.toInt) (Double.ofInt m.toInt))
  | some a, some b => .ofReal (rounded a.double b.double)
  | _, _ => .null

def bitwise (f : Int64 → Int64 → Int64) (d e : Datum) : Datum :=
  match integerOf d, integerOf e with
  | some n, some m => .integer (f n m)
  | _, _ => .null

def concatenated (d e : Datum) : Datum :=
  match textOf d, textOf e with
  | some s, some t => .text (s ++ t)
  | _, _ => .null

-- Both operands are known here, also those of `and` and `or`.
def TermOp.apply (op : TermOp) (a : Affinity) (d e : Datum) : Datum :=
  match op with
  | .and => ofTruth (both (truthOf d) (truthOf e))
  | .or => ofTruth (either (truthOf d) (truthOf e))
  | .add => arithmetic (· + ·) Double.add d e
  | .subtract => arithmetic (· - ·) Double.sub d e
  | .bitAnd => bitwise (· &&& ·) d e
  | .bitOr => bitwise (· ||| ·) d e
  | .concat => concatenated d e
  | op => ofTruth ((compareUnder a d e).map op.holds)

def isSame (a : Affinity) (d e : Datum) : Bool :=
  match compareUnder a d e with
  | some o => o == .eq
  | none => d == .null && e == .null

def membership (a : Affinity) (d : Datum) : List Datum → Option Bool
  | [] => some false
  | e :: rest => either ((compareUnder a d e).map (· == .eq)) (membership a d rest)

def sameRow : List Affinity → List Datum → List Datum → Option Bool
  | a :: as, d :: ds, e :: es => both ((compareUnder a d e).map (· == .eq)) (sameRow as ds es)
  | _, _, _ => some true

def equalRows : List Datum → List Datum → Option Bool
  | d :: ds, e :: es => both ((compareUnder .blob d e).map (· == .eq)) (equalRows ds es)
  | _, _ => some true

def orderedRows (op : TermOp) : List Datum → List Datum → Option Bool
  | [d], [e] => (compareUnder .blob d e).map op.holds
  | d :: ds, e :: es =>
      match compareUnder .blob d e with
      | some .eq => orderedRows op ds es
      | o => o.map op.holds
  | _, _ => none

def compareRows (op : TermOp) (ds es : List Datum) : Option Bool :=
  match op with
  | .eq => equalRows ds es
  | .ne => negation (equalRows ds es)
  | op => orderedRows op ds es

def sameRows : List Datum → List Datum → Bool
  | d :: ds, e :: es => isSame .blob d e && sameRows ds es
  | _, _ => true

def memberRow (affinities : List Affinity) (ds : List Datum) : List (List Datum) → Option Bool
  | [] => some false
  | row :: rest => either (sameRow affinities ds row) (memberRow affinities ds rest)

namespace Formula

mutual

def eval (row : TableRow) : Formula → Except EngineError Datum
  | .literal d => .ok d
  | .argument d => .ok d
  | .truth b => .ok (ofTruth (some b))
  | .field f => .ok (f.read row)
  | .fixed f value => do return f.affinity.store (← value.eval row)
  | .not x => do return ofTruth (negation (truthOf (← x.eval row)))
  | .negate x => do return arithmetic (· - ·) Double.sub (.integer 0) (← x.eval row)
  | .plain x => x.eval row
  | .binary op (.row left) (.row right) => do
      let ds ← evalAll row left
      let es ← evalAll row right
      return ofTruth (compareRows op ds es)
  | .binary op left right => do
      let d ← left.eval row
      let e ← right.eval row
      return op.apply (comparisonAffinity left.affinity right.affinity) d e
  | .is negated (.row left) (.row right) => do
      let ds ← evalAll row left
      let es ← evalAll row right
      return ofTruth (some (sameRows ds es != negated))
  | .is negated left right => do
      let d ← left.eval row
      let e ← right.eval row
      let same := isSame (comparisonAffinity left.affinity right.affinity) d e
      return ofTruth (some (same != negated))
  | .among item choices => do
      let d ← item.eval row
      let all ← evalAll row choices
      return ofTruth (membership (comparisonAffinity item.affinity none) d all)
  | .amongRows items affinities rows => do
      let ds ← evalAll row items
      let compared := (items.zip affinities).map fun (item,a) =>
        comparisonAffinity item.affinity (some a)
      return ofTruth (memberRow compared ds rows)
  | .apply f args => do f.apply (← evalAll row args)
  | .row _ => .ok .null

def evalAll (row : TableRow) : List Formula → Except EngineError (List Datum)
  | [] => .ok []
  | x :: rest => do
      let d ← x.eval row
      return d :: (← evalAll row rest)

end

-- A test stops at the first part that settles it. `unknown` is the answer for null.
def holds (row : TableRow) (unknown : Bool) : Formula → Except EngineError Bool
  | .not x => do return !(← x.holds row (!unknown))
  | .binary .and left right => do
      if ← left.holds row unknown then right.holds row unknown else return false
  | .binary .or left right => do
      if ← left.holds row unknown then return true else right.holds row unknown
  | x => do return (truthOf (← x.eval row)).getD unknown

def passes (row : TableRow) (x : Formula) : Except EngineError Bool := x.simplified.holds row false

end Formula

def passesAll (row : TableRow) : List Formula → Except EngineError Bool
  | [] => .ok true
  | x :: rest => do
      if ← x.passes row then passesAll row rest else return false

end TypedRows.Sql
