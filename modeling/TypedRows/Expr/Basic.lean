import TypedRows.Captured

namespace TypedRows

-- Conditions over the records of one table.

inductive Operator where
  | gt | ge | lt | le
  | bitAnd | and | bitOr | or
  | eq | ne
  | add | subtract | concat
  | multiply | divide | modulo | coalesce
deriving DecidableEq

inductive Collation where
  | ordinal | ordinalIgnoreCase
  | currentCulture | currentCultureIgnoreCase
  | invariantCulture | invariantCultureIgnoreCase
deriving DecidableEq

inductive Method where
  | like | contains
  | startsWith (collation : Collation)
  | endsWith (collation : Collation)
  | equals | toLower | toUpper | replace
  | other (name : String)
deriving DecidableEq

-- `parameter` is the record that the condition is about.
inductive Expr where
  | binary (op : Operator) (left right : Expr)
  | not (operand : Expr)
  | call (method : Method) (receiver : Option Expr) (args : List Expr)
  | constant (value : Captured)
  | convert (target : ValueType) (operand : Expr)
  | member (receiver : Expr) (field : String)
  | parameter

def Operator.sql : Operator → Option String
  | .gt => some ">"
  | .ge => some ">="
  | .lt => some "<"
  | .le => some "<="
  | .bitAnd => some "&"
  | .and => some "and"
  | .bitOr => some "|"
  | .or => some "or"
  | .eq => some "="
  | .ne => some "!="
  | .add => some "+"
  | .subtract => some "-"
  | .concat => some "||"
  | .multiply => none
  | .divide => none
  | .modulo => none
  | .coalesce => none

def Collation.ignoresCase : Collation → Bool
  | .ordinalIgnoreCase => true
  | .currentCultureIgnoreCase => true
  | .invariantCultureIgnoreCase => true
  | _ => false

namespace Expr

def field (name : String) : Expr := .member .parameter name

def value (v : Value) : Expr := .constant (.scalar v)

def values (items : List Captured) : Expr := .constant (.list items)

def isNull (e : Expr) : Expr := .binary .eq e (value .null)

def isNotNull (e : Expr) : Expr := .binary .ne e (value .null)

def like (e pattern : Expr) : Expr := .call .like none [e,pattern]

def contains (e item : Expr) : Expr := .call .contains (some e) [item]

def isIn (e collection : Expr) : Expr := .call .contains none [collection,e]

def startsWith (e start : Expr) (collation : Collation) : Expr :=
  .call (.startsWith collation) (some e) [start]

def endsWith (e ending : Expr) (collation : Collation) : Expr :=
  .call (.endsWith collation) (some e) [ending]

def equals (e other : Expr) : Expr := .call .equals (some e) [other]

def toLower (e : Expr) : Expr := .call .toLower (some e) []

def toUpper (e : Expr) : Expr := .call .toUpper (some e) []

def replace (e old new : Expr) : Expr := .call .replace (some e) [old,new]

def apply (e : Expr) (name : String) (args : List Expr) : Expr :=
  .call (.other name) (some e) args

end Expr

end TypedRows
