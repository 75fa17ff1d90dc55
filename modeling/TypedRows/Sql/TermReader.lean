import TypedRows.Number.DoublePair
import TypedRows.Sql.Reader

namespace TypedRows.Sql

-- Expressions by precedence, from the loosest: or, and, not, equality with `is`, `in`
-- and `like`, order, bits, sums, `||`. All operators group to the left.

inductive Level where
  | disjunction | conjunction | negation | equality | order | bits | sums | products | concat
  | operand
deriving DecidableEq

def Level.rank : Level → Nat
  | .disjunction => 0
  | .conjunction => 1
  | .negation => 2
  | .equality => 3
  | .order => 4
  | .bits => 5
  | .sums => 6
  | .products => 7
  | .concat => 8
  | .operand => 9

def Level.tighter : Level → Level
  | .disjunction => .conjunction
  | .conjunction => .negation
  | .negation => .equality
  | .equality => .order
  | .order => .bits
  | .bits => .sums
  | .sums => .products
  | .products => .concat
  | .concat => .operand
  | .operand => .operand

def symbolOp : String → Option (TermOp × Level)
  | "=" => some (.eq,.equality)
  | "==" => some (.eq,.equality)
  | "!=" => some (.ne,.equality)
  | "<>" => some (.ne,.equality)
  | "<" => some (.lt,.order)
  | "<=" => some (.le,.order)
  | ">" => some (.gt,.order)
  | ">=" => some (.ge,.order)
  | "&" => some (.bitAnd,.bits)
  | "|" => some (.bitOr,.bits)
  | "+" => some (.add,.sums)
  | "-" => some (.subtract,.sums)
  | "||" => some (.concat,.concat)
  | _ => none

def wordOp (s : String) : Option (TermOp × Level) :=
  if lowerWord s = "or" then some (.or,.disjunction)
  else if lowerWord s = "and" then some (.and,.conjunction)
  else none

def Mark.operator : Mark → Option (TermOp × Level)
  | .symbol s => symbolOp s
  | .word s => wordOp s
  | _ => none

def realLiteral (negative : Bool) (digits : Nat) (exponent : Int) : Datum :=
  .real (Double.ofDigits negative ((Text.numeral digits).map fun c => c.toNat - 0x30) exponent)

def integerLiteral (negative : Bool) (n : Nat) : Datum :=
  let whole : Int := if negative then -n else n
  if Int64.minValue.toInt ≤ whole ∧ whole ≤ Int64.maxValue.toInt then
    .integer (Int64.ofInt whole)
  else realLiteral negative n 0

-- A term with its height: a leaf has one, and brackets add nothing.
structure Tree where
  term : Term
  height : Nat

def greatestHeight : Nat := 1000

def greatestParameterCount : Nat := 32766

def greatestArgumentCount : Nat := 1000

namespace Reader

def leaf (t : Term) : Reader Tree := return ⟨t,1⟩

def node (t : Term) (parts : List Tree) : Reader Tree := do
  let height := (parts.map Tree.height).foldl max 0 + 1
  if greatestHeight < height then throw (.tooDeep greatestHeight)
  return ⟨t,height⟩

def negatedIf (negated : Bool) (t : Tree) : Reader Tree :=
  if negated then node (.not t.term) [t] else return t

def operation (op : TermOp) (left right : Tree) : Reader Tree :=
  if op = .and && (left.term.isFalse || right.term.isFalse) then
    leaf (.literal (.integer 0))
  else node (.binary op left.term right.term) [left,right]

def checkWidths (item : Tree) (choices : List Tree) : Reader Unit :=
  if item.term.isRow then
    match choices.find? fun choice => choice.term.width ≠ item.term.width with
    | some choice => throw (.rowWidth choice.term.width item.term.width)
    | none => return ()
  else return ()

def listMembership (item : Tree) (choices : List Tree) : Reader Tree := do
  checkWidths item choices
  node (.among item.term (choices.map Tree.term)) (item :: choices)

def membership (item : Tree) (choices : List Tree) : Reader Tree := do
  match choices with
  | [choice] =>
      if choice.term.isConstant && !item.term.isRow then
        let choice ← node (.plain choice.term) [choice]
        node (.binary .eq item.term choice.term) [item,choice]
      else listMembership item choices
  | choices => listMembership item choices

def application (function : String) (args : List Tree) : Reader Tree := do
  if greatestArgumentCount < args.length then throw (.tooManyArguments function)
  node (.call function (args.map Tree.term)) args

def likeness (negated : Bool) (subject pattern : Tree) : Reader Tree := do
  negatedIf negated (← application "like" [pattern,subject])

mutual

def term : Nat → Level → Reader Tree
  | 0, _ => fail
  | fuel + 1, level => do
      let left ← operand fuel
      rest fuel level left

-- A prefix `not` takes all tighter operators into its operand, wherever it stands.
def operand : Nat → Reader Tree
  | 0 => fail
  | fuel + 1 => do
      match ← peek with
      | some (.integer n) =>
          advance
          leaf (.literal (integerLiteral false n))
      | some (.real digits exponent) =>
          advance
          leaf (.literal (realLiteral false digits exponent))
      | some (.string s) =>
          advance
          leaf (.literal (.text (bytesOf s)))
      | some (.parameter i) =>
          if greatestParameterCount ≤ i then throw .tooManyParameters
          advance
          leaf (.parameter i)
      | some (.symbol "(") =>
          advance
          let items ← commaList (term fuel .disjunction) (fuel + 1)
          symbol ")"
          match items with
          | [item] => return item
          | items => leaf (.row (items.map Tree.term))
      | some (.symbol "-") =>
          advance
          match ← peek with
          | some (.integer n) =>
              advance
              leaf (.literal (integerLiteral true n))
          | _ =>
              let t ← operand fuel
              node (.negate t.term) [t]
      | some (.symbol "+") =>
          advance
          let t ← operand fuel
          node (.plain t.term) [t]
      | some (.name s) =>
          advance
          if ← symbol? "(" then call fuel s else leaf (.column true s)
      | some (.word s) =>
          if lowerWord s = "not" then
            advance
            let t ← term fuel .equality
            node (.not t.term) [t]
          else if lowerWord s = "null" then
            advance
            leaf (.literal .null)
          else if isReserved s then fail
          else
            advance
            if ← symbol? "(" then call fuel s else leaf (.column false s)
      | _ => fail

def call : Nat → String → Reader Tree
  | 0, _ => fail
  | fuel + 1, function => do
      if ← symbol? ")" then return ← application function []
      if ← symbol? "*" then
        symbol ")"
        return ← leaf (.countRows function)
      let args ← commaList (term fuel .disjunction) (fuel + 1)
      symbol ")"
      application function args

def choices : Nat → Bool → Tree → Reader Tree
  | 0, _, _ => fail
  | fuel + 1, negated, item => do
      if ← symbol? "(" then
        if ← symbol? ")" then return ← leaf (.truth negated)
        let items ← commaList (term fuel .disjunction) (fuel + 1)
        symbol ")"
        return ← negatedIf negated (← membership item items)
      let table ← name
      if ← symbol? "(" then
        let _ ← call fuel table
      negatedIf negated (← node (.amongRows item.term table) [item,⟨.literal .null,1⟩])

-- The operators that follow an operand, as long as they bind at least as tight as `level`.
def rest : Nat → Level → Tree → Reader Tree
  | 0, _, _ => fail
  | fuel + 1, level, left => do
      match ← peek with
      | none => return left
      | some mark =>
          match mark.operator with
          | some (op,own) =>
              if own.rank < level.rank then return left
              advance
              let right ← term fuel own.tighter
              rest fuel level (← operation op left right)
          | none =>
              if Level.equality.rank < level.rank then return left
              else if isKeyword "is" mark then
                advance
                let negated ← keyword? "not"
                let right ← term fuel .order
                rest fuel level (← node (.is negated left.term right.term) [left,right])
              else if isKeyword "in" mark then
                advance
                let whole ← choices fuel false left
                rest fuel level whole
              else if isKeyword "like" mark then
                advance
                let pattern ← term fuel .order
                rest fuel level (← likeness false left pattern)
              else if isKeyword "not" mark then
                advance
                if ← keyword? "in" then
                  let whole ← choices fuel true left
                  rest fuel level whole
                else if ← keyword? "like" then
                  let pattern ← term fuel .order
                  rest fuel level (← likeness true left pattern)
                else fail
              else return left

end

-- Each token opens at most four nested steps.
def expression : Reader Term := do
  return (← term (4 * (← size) + 4) .disjunction).term

end Reader

end TypedRows.Sql
