import TypedRows.Proofs.Expr.PlaceholderOrder

namespace TypedRows

-- The placeholders of a text: its marks outside of names in double quotes. A quote written
-- twice inside a name closes the name and opens it again at once, so it counts for nothing.

variable {m : Mapping}

def openMarksFrom (quoted : Bool) : List Char → Nat
  | [] => 0
  | c :: rest =>
      if c = '"' then openMarksFrom (!quoted) rest
      else if c = '?' ∧ quoted = false then openMarksFrom quoted rest + 1
      else openMarksFrom quoted rest

def openMarks (s : String) : Nat := openMarksFrom false s.toList

def Marks (n : Nat) (s : String) : Prop :=
  ∀ rest, openMarksFrom false (s.toList ++ rest) = n + openMarksFrom false rest

namespace Marks

variable {s t : String} {a b : Nat}

theorem count (marks : Marks a s) : openMarks s = a := by
  have alone := marks []
  rwa [List.append_nil] at alone

theorem append (first : Marks a s) (second : Marks b t) : Marks (a + b) (s ++ t) := by
  intro rest
  rw [String.toList_append,List.append_assoc,first,second,Nat.add_assoc]

theorem plain (unmarked : '?' ∉ s.toList) (unquoted : '"' ∉ s.toList) : Marks 0 s := by
  intro rest
  rw [Nat.zero_add]
  generalize s.toList = cs at unmarked unquoted
  induction cs with
  | nil => rfl
  | cons c cs ih =>
    rw [List.mem_cons,not_or] at unmarked unquoted
    rw [List.cons_append,openMarksFrom,if_neg (Ne.symm unquoted.1),
      if_neg fun found => unmarked.1 found.1.symm]
    exact ih unmarked.2 unquoted.2

theorem placeholder : Marks 1 "?" := fun rest => by
  simp [openMarksFrom,Nat.add_comm]

-- Inside a name every quote is doubled, so the name ends at its own closing quote.
theorem openMarksFrom_doubled (cs rest : List Char) :
    openMarksFrom true (doubledQuotes cs ++ '"' :: rest) = openMarksFrom false rest := by
  induction cs with
  | nil => simp [doubledQuotes,openMarksFrom]
  | cons c cs ih =>
    unfold doubledQuotes
    split <;> simp_all [openMarksFrom]

theorem quotedName (name : String) : Marks 0 (quotedName name) := fun rest => by
  have inside := openMarksFrom_doubled name.toList rest
  simp [TypedRows.quotedName,openMarksFrom,inside]

theorem spelling : Spelling (Marks 0) where
  plain _ unmarked unquoted := plain unmarked unquoted
  append first second := append first second

theorem flattened {tokens : List Token} (every : Spelled (Marks 0) tokens) :
    Marks (boundValues tokens).length (flattened tokens) := by
  induction tokens with
  | nil => exact plain (by simp) (by simp)
  | cons token rest ih =>
    cases token with
    | literal s =>
      obtain ⟨first,later⟩ := spelled_literal.mp every
      rw [flattened_literal,boundValues_literal,← Nat.zero_add (boundValues rest).length]
      exact first.append (ih later)
    | bound v =>
      rw [flattened_bound,boundValues_bound,List.length_cons,Nat.add_comm]
      exact placeholder.append (ih (spelled_bound.mp every))

end Marks

-- Names of unknown methods that write neither a mark nor a quote. The names of columns do not
-- matter: they stand between quotes.
def Expr.NamesQuiet (e : Expr) : Prop :=
  ∀ name receiver args, .call (.other name) receiver args ∈ e.parts →
    '?' ∉ (Text.lowercase name).toList ∧ '"' ∉ (Text.lowercase name).toList

theorem Compiles.marks {e : Expr} {o : Operand} (compiled : Compiles m e o)
    (names : e.NamesQuiet) : Marks o.args.length o.text := by
  obtain ⟨r,rendered,agrees⟩ := e.rendered o compiled
  have every : Spelled (Marks 0) r.tokens := Marks.spelling.render {
    columns := fun c _ => .quotedName c.name
    methods := fun name receiver args present =>
      .plain (names name receiver args present).1 (names name receiver args present).2 } rendered
  rw [← agrees.text,agrees.delayed.length]
  exact Marks.flattened every

theorem call_runFrom (method : Method) (receiver : Option Expr) (args : List Expr)
    (pre : List Value) :
    ((Expr.call method receiver args).compile m).runFrom pre =
      match (do method.pieces (← Expr.receiverOperand m receiver) (← Expr.operands m args) :
        Except Error (List Piece)) with
      | .ok pieces => (.ok (.plain (Piece.joined pieces)),pre ++ Piece.allArgs pieces)
      | .error cause => (.error cause,pre) := by
  simp only [Expr.compile,Step.runFrom_bind,Step.runFrom_ofExcept]
  cases Expr.receiverOperand m receiver with
  | error cause => rfl
  | ok whole =>
    cases Expr.operands m args with
    | error cause => rfl
    | ok rest =>
      simp only [bind,Except.bind]
      cases method.pieces whole rest with
      | error cause => rfl
      | ok pieces => rfl

-- Compilation appends to the arguments that are there: what it answers and what it appends is
-- the same whatever is bound before, when it fails as well. A call that fails appends nothing,
-- and a text has as many placeholders as arguments are appended for it.
theorem compile_appends (m : Mapping) (e : Expr) :
    ∃ outcome appended, (∀ pre, (e.compile m).runFrom pre = (outcome,pre ++ appended)) ∧
      (∀ method receiver args cause, e = .call method receiver args → outcome = .error cause →
        appended = []) ∧
      ∀ f, outcome = .ok f → e.NamesQuiet → openMarks f.text = appended.length := by
  refine ⟨((e.compile m).runFrom []).1,((e.compile m).runFrom []).2,compile_framed m e,?_,?_⟩
  · rintro method receiver args cause rfl failed
    rw [call_runFrom] at failed ⊢
    split at failed
    · cases failed
    · rfl
  · intro f accepted names
    have compiled : Compiles m e ⟨f,((e.compile m).runFrom []).2⟩ := by
      rw [Compiles,← accepted]
    exact (compiled.marks names).count

def riddles : Mapping where
  table := "Riddle?"
  columns := [(Column.new "age" .integer).named "a?\"b"]

def riddle : Expr :=
  .binary .and (.isIn (.field "age") (.convert .integer (.values [.scalar (.text "5"),.scalar .null])))
    (.binary .eq (.value .null) (.apply (.field "age") "NullIf" [.value (.int 7)]))

theorem riddle_namesQuiet : riddle.NamesQuiet := by
  intro name receiver args present
  simp [riddle,Expr.isIn,Expr.apply,Expr.field,Expr.value,Expr.values,Expr.parts,
    Expr.receiverParts,Expr.argsParts] at present
  obtain ⟨rfl,_,_⟩ := present
  decide

theorem compile_appends_riddle :
    (riddle.compile riddles).runFrom [.bool true] =
      (.ok ⟨"((\"a?\"\"b\" in (?,?)) and (nullif(\"a?\"\"b\",?) is ?))",none⟩,
        [.bool true,.int 5,.null,.null,.int 7]) ∧
    openMarks "((\"a?\"\"b\" in (?,?)) and (nullif(\"a?\"\"b\",?) is ?))" = 4 ∧
    ((Expr.call .toUpper none [.value (.int 7)]).compile riddles).runFrom [.bool true] =
      (.error (.compile (.arity .toUpper)),[.bool true]) := by
  obtain ⟨outcome,appended,ran,_,counted⟩ := compile_appends riddles riddle
  have compiled : (riddle.compile riddles).runFrom [] =
      (.ok ⟨"((\"a?\"\"b\" in (?,?)) and (nullif(\"a?\"\"b\",?) is ?))",none⟩,
        [.int 5,.null,.null,.int 7]) := by rfl
  have same := (ran []).symm.trans compiled
  rw [Prod.mk.injEq,List.nil_append] at same
  obtain ⟨rfl,rfl⟩ := same
  obtain ⟨outcome,appended,ranCall,untouched,_⟩ :=
    compile_appends riddles (.call .toUpper none [.value (.int 7)])
  have refused : ((Expr.call .toUpper none [.value (.int 7)]).compile riddles).runFrom [] =
      (.error (.compile (.arity .toUpper)),[]) := by rfl
  have failed := congrArg Prod.fst ((ranCall []).symm.trans refused)
  refine ⟨ran _,counted _ rfl riddle_namesQuiet,?_⟩
  rw [ranCall,untouched _ _ _ _ rfl failed]
  exact Prod.ext failed rfl

end TypedRows
