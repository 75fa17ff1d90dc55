import TypedRows.Query.Basic

namespace TypedRows

-- The statement of a query, and the form of a query in diagnostics.

structure Statement where
  text : String
  args : List Value

def SortKey.text (key : SortKey) : String :=
  quotedName key.column ++ if key.ascending then "" else " desc"

def uint64Text (n : UInt64) : String := shownNat n.toNat

def orderText : List SortKey → String
  | [] => ""
  | keys => " order by " ++ ", ".intercalate (keys.map SortKey.text)

-- An offset cannot stand alone: a limit of -1 is no limit.
def pageText : Option UInt64 → Option UInt64 → String
  | none, none => ""
  | some limit, none => " limit " ++ uint64Text limit
  | some limit, some offset => " limit " ++ uint64Text limit ++ " offset " ++ uint64Text offset
  | none, some offset => " limit -1 offset " ++ uint64Text offset

def Mapping.condition (m : Mapping) (predicate : Expr) : Except Error Statement :=
  match (Expr.compile m predicate).runFrom [] with
  | (.ok fragment,args) => .ok ⟨fragment.text,args⟩
  | (.error e,_) => .error e

def Mapping.whereClause (m : Mapping) : Option Expr → Except Error Statement
  | none => .ok ⟨"",[]⟩
  | some predicate => do
      let condition ← m.condition predicate
      return {condition with text := " where " ++ condition.text}

namespace Query

variable {ρ : Type}

def render (q : Query ρ) (selection : String) : Except Error Statement := do
  let condition ← q.entity.mapping.whereClause q.predicate
  let start := "select " ++ selection ++ " from " ++ quotedName q.table
  return {condition with
    text := start ++ condition.text ++ orderText q.orderings ++ pageText q.limit q.offset}

def statement (q : Query ρ) : Except Error Statement := q.render q.entity.mapping.selectList

end Query

def SortKey.shown (key : SortKey) : String :=
  shownParts "Ordering" [("column",Text.quoted key.column),("ascending",shownBool key.ascending)]

def Query.shown {ρ : Type} (q : Query ρ) : String :=
  shownParts "TableQuery" [("predicate",shownOption (q.predicate.map Expr.shown)),
    ("orderings",shownList (q.orderings.map SortKey.shown)),
    ("limit",shownOption (q.limit.map uint64Text)),
    ("offset",shownOption (q.offset.map uint64Text)),
    ("eager",shownBool q.eager)]

end TypedRows
