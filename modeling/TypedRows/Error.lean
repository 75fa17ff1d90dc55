import TypedRows.Expr.Text
import TypedRows.Value.Conversion
import TypedRows.Pool.State

namespace TypedRows

-- Every way to fail, by cause. The wording is in the `message` functions and nowhere
-- else.

inductive CompileError where
  | unmappedField (table field : String)
  | bareParameter
  | unsupportedOperator (op : Operator)
  | nullComparison (op : Operator)
  | nestedList
  | wholeObject
  | unreadableReceiver (receiver : Expr)
  | missingField (field : String)
  | notAnObject (field : String)
  | arity (method : Method)
  | textRequired (collation : Collation)
  | orderingKey (key : Expr)

inductive ConversionError where
  | value (v : Value) (target : ValueType)
  | object (target : ValueType)
  | missingColumn (name : String)
  | recordLength (table : String) (columns values : Nat)
  | countResult (v : Value)
  | capture (cause : CaptureError)

inductive KeyAction where
  | find
  | update
  | delete
deriving DecidableEq

inductive UnsupportedError where
  | filterAfterPaging (table : String)
  | join (table other : String)
  | pagedDelete (table : String)
  | deleteWithoutPredicate (table : String)
  | noPrimaryKey (action : KeyAction) (table : String)

inductive NotFoundError where
  | row (table : String)
  | key (table : String) (key : Value)

inductive TransactionError where
  | nested
  | invalidSavepoint (name : String)

inductive EngineError where
  | syntaxError (near : String)
  | unrecognizedToken (token : String)
  | incompleteInput
  | noSuchTable (name : String)
  | noSuchColumn (name : String)
  | noSuchFunction (name : String)
  | wrongArguments (function : String)
  | misplacedAggregate (function : String)
  | misplacedRow (located : Bool)
  | rowWidth (given needed : Nat)
  | selectedColumns (given needed : Nat)
  | tooDeep (limit : Nat)
  | tooManyParameters
  | tooManyArguments (function : String)
  | tooManyColumns (table : String)
  | tooManyItems
  | tooManyKeys
  | noColumnInTable (table column : String)
  | columnCount (table : String) (columns values : Nat)
  | valueCount (values columns : Nat)
  | unevenRows
  | tableExists (quotedName : String)
  | reservedName (name : String)
  | duplicateColumn (name : String)
  | severalKeys (table : String)
  | autoIncrementType
  | notNull (table column : String)
  | unique (table column : String)
  | typeMismatch
  | integerOverflow
  | patternTooComplex
  | tooBig
  | parameterCount (given needed : Nat)
  | returnedRows
  | nestedBegin
  | nothingToCommit
  | nothingToRollBack
  | noSuchSavepoint (name : String)
  | readOnly
  | cannotOpen (path : String)
  | nulByte (position : Nat)
  | invalidAuthority (name : String)
  | noSuchMode (kind name : String)
  | modeNotAllowed (kind name : String)
  | noSuchSystem (name : String)
  | interrupted
  | busy
  | full
  | outOfMemory
  | inputOutput
  | misuse

inductive Error where
  | engine (cause : EngineError)
  | compile (cause : CompileError)
  | invariant (id : Nat) (state target : SlotState)
  | connection (path : String) (cause : EngineError)
  | closed (id : Nat) (key : String)
  | unsupported (cause : UnsupportedError)
  | notFound (cause : NotFoundError)
  | conversion (cause : ConversionError)
  | transaction (cause : TransactionError)
  | cancelled
  | execution (detail : String)
  | panicked

def Expr.shape : Expr → String
  | .binary .. => "a binary expression"
  | .not _ => "a negation"
  | .call .. => "a method call"
  | .constant _ => "a constant"
  | .convert .. => "a conversion"
  | .member .. => "a member access"
  | .parameter => "the record parameter"

def Method.operands : Method → String
  | .like => "a subject and a pattern"
  | .contains => "a receiver and one argument, or two arguments"
  | .startsWith _ => "a receiver and one argument"
  | .endsWith _ => "a receiver and one argument"
  | .equals => "a receiver and one argument"
  | .toLower => "a receiver only"
  | .toUpper => "a receiver only"
  | .replace => "a receiver and two arguments"
  | .other _ => "any operands"

def CompileError.message : CompileError → String
  | .unmappedField table field => table ++ " has no mapped field named " ++ field
  | .bareParameter => "the record parameter can only be used through one of its fields"
  | .unsupportedOperator op => "unsupported operator " ++ op.shown
  | .nullComparison op => "cannot compare with null using " ++ op.shown
  | .nestedList => "only lists of scalar values can be bound"
  | .wholeObject => "a captured object must be read through one of its fields"
  | .unreadableReceiver receiver => "member access on " ++ receiver.shape ++ " is not supported"
  | .missingField field => "captured value has no field " ++ field
  | .notAnObject field => "cannot read field " ++ field ++ " of a non-object value"
  | .arity method => method.shown ++ " expects " ++ method.operands
  | .textRequired collation => collation.shown ++ " prefix/suffix tests need a text value"
  | .orderingKey key => "order by must be a simple field reference, got " ++ key.shown

def ConversionError.message : ConversionError → String
  | .value v target => "cannot convert " ++ v.shown ++ " to " ++ target.shown
  | .object target => "cannot convert an object to " ++ target.shown
  | .missingColumn name => "column " ++ name ++ " missing from row"
  | .recordLength table columns values =>
      table ++ " maps " ++ shownNat columns ++ " columns but the record produced " ++
        shownNat values ++ " values"
  | .countResult v => "count(*) returned " ++ v.shown
  | .capture cause => "cannot capture value: " ++ cause.message

def KeyAction.verb : KeyAction → String
  | .find => "find"
  | .update => "update"
  | .delete => "delete"

def UnsupportedError.message : UnsupportedError → String
  | .filterAfterPaging table => "cannot filter " ++ table ++ " after a skip or a take"
  | .join table other => "joining " ++ table ++ " with " ++ other ++ " is not supported"
  | .pagedDelete table => "cannot delete from " ++ table ++ " with a limit or offset"
  | .deleteWithoutPredicate table =>
      "delete from " ++ table ++ " requires a predicate; use delete_all to clear the table"
  | .noPrimaryKey action table =>
      "cannot " ++ action.verb ++ " " ++ table ++ ": it has no primary key"

def NotFoundError.message : NotFoundError → String
  | .row table => "no " ++ table ++ " row matched"
  | .key table wanted => "no " ++ table ++ " row with key " ++ wanted.shown

def TransactionError.message : TransactionError → String
  | .nested => "cannot begin a transaction while already in a transaction"
  | .invalidSavepoint name =>
      "savepoint " ++ name ++ " is not valid; use a name returned by save_transaction_point"

def EngineError.message : EngineError → String
  | .syntaxError near => "near \"" ++ near ++ "\": syntax error"
  | .unrecognizedToken token => "unrecognized token: \"" ++ token ++ "\""
  | .incompleteInput => "incomplete input"
  | .noSuchTable name => "no such table: " ++ name
  | .noSuchColumn name => "no such column: " ++ name
  | .noSuchFunction name => "no such function: " ++ name
  | .wrongArguments function => "wrong number of arguments to function " ++ function ++ "()"
  | .misplacedAggregate function => "misuse of aggregate function " ++ function ++ "()"
  | .misplacedRow _ => "row value misused"
  | .rowWidth given needed =>
      "IN(...) element has " ++ shownNat given ++ (if 1 < given then " terms" else " term") ++
        " - expected " ++ shownNat needed
  | .selectedColumns given needed =>
      "sub-select returns " ++ shownNat given ++ " columns - expected " ++ shownNat needed
  | .tooDeep limit => "Expression tree is too large (maximum depth " ++ shownNat limit ++ ")"
  | .tooManyParameters => "too many SQL variables"
  | .tooManyArguments function => "too many arguments on function " ++ function
  | .tooManyColumns table => "too many columns on " ++ table
  | .tooManyItems => "too many columns in result set"
  | .tooManyKeys => "too many terms in ORDER BY clause"
  | .noColumnInTable table column => "table " ++ table ++ " has no column named " ++ column
  | .columnCount table columns values =>
      "table " ++ table ++ " has " ++ shownNat columns ++ " columns but " ++ shownNat values ++
        " values were supplied"
  | .valueCount values columns =>
      shownNat values ++ " values for " ++ shownNat columns ++ " columns"
  | .unevenRows => "all VALUES must have the same number of terms"
  | .tableExists quotedName => "table " ++ quotedName ++ " already exists"
  | .reservedName name => "object name reserved for internal use: " ++ name
  | .duplicateColumn name => "duplicate column name: " ++ name
  | .severalKeys table => "table \"" ++ table ++ "\" has more than one primary key"
  | .autoIncrementType => "AUTOINCREMENT is only allowed on an INTEGER PRIMARY KEY"
  | .notNull table column => "NOT NULL constraint failed: " ++ table ++ "." ++ column
  | .unique table column => "UNIQUE constraint failed: " ++ table ++ "." ++ column
  | .typeMismatch => "datatype mismatch"
  | .integerOverflow => "integer overflow"
  | .patternTooComplex => "LIKE or GLOB pattern too complex"
  | .tooBig => "string or blob too big"
  | .parameterCount given needed =>
      "Wrong number of parameters passed to query. Got " ++ shownNat given ++ ", needed " ++
        shownNat needed
  | .returnedRows => "Execute returned results - did you mean to call query?"
  | .nestedBegin => "cannot start a transaction within a transaction"
  | .nothingToCommit => "cannot commit - no transaction is active"
  | .nothingToRollBack => "cannot rollback - no transaction is active"
  | .noSuchSavepoint name => "no such savepoint: " ++ name
  | .readOnly => "attempt to write a readonly database"
  | .cannotOpen path => "unable to open database file: " ++ path
  | .nulByte position => "nul byte found in provided data at position: " ++ shownNat position
  | .invalidAuthority name => "invalid uri authority: " ++ name
  | .noSuchMode kind name => "no such " ++ kind ++ " mode: " ++ name
  | .modeNotAllowed kind name => kind ++ " mode not allowed: " ++ name
  | .noSuchSystem name => "no such vfs: " ++ name
  | .interrupted => "interrupted"
  | .busy => "database is locked"
  | .full => "database or disk is full"
  | .outOfMemory => "out of memory"
  | .inputOutput => "disk I/O error"
  | .misuse => "bad parameter or other API misuse"

-- After these the state of a transaction that was being opened is not known.
def EngineError.requiresRollback : EngineError → Bool
  | .interrupted => true
  | .busy => true
  | .full => true
  | .outOfMemory => true
  | .inputOutput => true
  | _ => false

-- A write that meets one of these takes the open transaction with it.
def EngineError.losesTransaction : EngineError → Bool
  | .full => true
  | _ => false

def Error.message : Error → String
  | .engine cause => cause.message
  | .compile cause => "Expression compile error: " ++ cause.message
  | .invariant id state target =>
      "Invariant violation: connection " ++ shownNat id ++ " cannot move from " ++
        state.shown ++ " to " ++ target.shown
  | .connection path cause => "Connection error: failed to open " ++ path ++ ": " ++ cause.message
  | .closed id key =>
      "Connection closed: connection " ++ shownNat id ++ " (" ++ key ++ ") has been closed"
  | .unsupported cause => "Unsupported operation: " ++ cause.message
  | .notFound cause => "Not found: " ++ cause.message
  | .conversion cause => "Value conversion error: " ++ cause.message
  | .transaction cause => "Transaction error: " ++ cause.message
  | .cancelled => "Operation cancelled"
  | .execution detail => "SQL execution error: " ++ detail
  | .panicked => "SQL execution error: blocking task failed"

def Value.coerce (v : Value) (target : ValueType) : Except Error Value :=
  match v.convert target with
  | some w => .ok w
  | none => .error (.conversion (.value v target))

end TypedRows
