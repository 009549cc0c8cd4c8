/-!
# `SqlLoom.Error`: what can go wrong

Errors are causes. Each family of causes has one function for the wording, and where a cause
belongs to a clause, a setting or a feature, one function for that.

* `BuildError`: a statement description that cannot be compiled.
* `ConfigError`: a connection or a profile that is missing or misconfigured.
* `StateError`: a transaction operation outside a transaction.
* `Feature`: a capability that a dialect lacks.
* `Error`: any of these, a failure of the database, or a value of the wrong kind.
-/

set_option autoImplicit false

namespace SqlLoom

/-- Why a statement description cannot be compiled. `kind` is the kind of the offending value. -/
inductive BuildError where
  | operatorNotText (kind : String)
  | conditionShape (kind : String)
  | conditionNode (kind : String)
  | oneOperand (op : String)
  | twoOperands (op : String)
  | threeOperands (op : String)
  | existenceNeedsQuery
  | noSubqueries
  | itemNeedsAlias
  | sourceNeedsAlias (clause : String)
  | joinIncomplete
  | insertNeedsNames
  | insertItemNameless
  | unknownTarget (name known : String)
  deriving DecidableEq, Repr

/-- The wording of a build error. -/
def BuildError.message : BuildError → String
  | .operatorNotText kind => "Condition operator must be a string, got " ++ kind ++ "."
  | .conditionShape kind => "Unsupported condition shape: " ++ kind ++ "."
  | .conditionNode kind => "Unsupported condition node: " ++ kind ++ "."
  | .oneOperand op => "Operator '" ++ op ++ "' requires exactly one operand."
  | .twoOperands op => "Operator '" ++ op ++ "' requires two operands."
  | .threeOperands op => "Operator '" ++ op ++ "' requires three operands."
  | .existenceNeedsQuery => "Subquery for EXISTS operator must be a Query object."
  | .noSubqueries => "No sub-query build function configured."
  | .itemNeedsAlias => "A sub-query select item requires an alias."
  | .sourceNeedsAlias _ => "A sub-query source requires an alias."
  | .joinIncomplete => "A join clause must specify a join type and a table."
  | .insertNeedsNames => "Expected select query object with enumerated (named) parameters."
  | .insertItemNameless => "Select items of INSERT ... SELECT must be column names or aliased."
  | .unknownTarget name known =>
    "Unsupported dialect target: '" ++ name ++ "'. Registered targets: " ++ known ++ "."

/-- The clause that a build error arose in, where one is known. -/
def BuildError.clause? : BuildError → Option String
  | .itemNeedsAlias => some "SELECT"
  | .sourceNeedsAlias clause => some clause
  | .joinIncomplete => some "JOIN"
  | .insertNeedsNames | .insertItemNameless => some "INSERT"
  | _ => none

/-- What is missing or wrong in a configuration. -/
inductive ConfigError where
  | emptyDsn
  | unknownDriver (driver known : String)
  | charsetOutsideDsn
  | emptyParamMark
  | notUrl (dsn : String)
  | connectionNotOpen
  | nothingToBeginOn
  | wrongDialect (lockKind wanted found : String)
  deriving DecidableEq, Repr

/-- The wording of a configuration error. -/
def ConfigError.message : ConfigError → String
  | .emptyDsn => "Connection DSN cannot be empty."
  | .unknownDriver driver known =>
    "Cannot infer dialect from DSN driver '" ++ driver ++ "'. Known drivers: " ++ known
      ++ ". Pass target= explicitly."
  | .charsetOutsideDsn =>
    "Oracle connections take the character set from the DSN; remove .charset() and add charset=... "
      ++ "to the DSN instead."
  | .emptyParamMark => "Parameter prefix cannot be empty."
  | .notUrl dsn => "DSN '" ++ dsn ++ "' is not a SQLAlchemy URL."
  | .connectionNotOpen => "The connection is not open; call open() first."
  | .nothingToBeginOn => "Transaction cannot begin: no open connection."
  | .wrongDialect lockKind wanted found =>
    lockKind ++ " requires a connection configured for '" ++ wanted ++ "', got '" ++ found ++ "'."

/-- The setting at fault, where one is. -/
def ConfigError.setting? : ConfigError → Option String
  | .emptyDsn | .unknownDriver .. | .notUrl _ => some "dsn"
  | .charsetOutsideDsn => some "charset"
  | .emptyParamMark => some "param_prefix"
  | .wrongDialect .. => some "dialect"
  | .connectionNotOpen | .nothingToBeginOn => none

/-- A transaction operation that needs an active transaction. -/
inductive StateError where
  | commitInactive
  | isolationInactive
  deriving DecidableEq, Repr

/-- The wording of a state error. -/
def StateError.message : StateError → String
  | .commitInactive => "Failed to commit transaction: transaction was inactive."
  | .isolationInactive => "Failed to set isolation level: transaction was inactive."

/-- A capability that some dialect lacks. -/
inductive Feature where
  | returning
  | checkConstraints
  | defaultConstraints (database : String)
  deriving DecidableEq, Repr

/-- The short name of a capability. -/
def Feature.name : Feature → String
  | .returning => "returning"
  | .checkConstraints => "check_constraints"
  | .defaultConstraints _ => "default_value_constraints"

/-- What is said of a capability that is missing. -/
def Feature.absence : Feature → String
  | .returning => "INSERT ... RETURNING is not supported; read the last insert id instead."
  | .checkConstraints => "MySQL does not support check constraints."
  | .defaultConstraints database => database ++ " does not support default value constraints."

/-- What a failure below the connection is about. -/
inductive Fault where
  /-- A constraint of the database. -/
  | integrity
  /-- Anything else that the driver reports. -/
  | driver
  /-- The layer above the driver. -/
  | layer
  deriving DecidableEq, Repr

/-- Any failure. -/
inductive Error where
  | build (cause : BuildError)
  | config (cause : ConfigError)
  | state (cause : StateError)
  /-- The dialect of the given name lacks a capability. -/
  | unsupported (dialect : String) (feature : Feature)
  /-- A nested transaction without a savepoint was rolled back at this level. -/
  | nestedRollback (level : Nat)
  /-- The database failed to execute a statement. -/
  | backend (message : String) (sql : Option String)
  /-- The database refused a statement for the sake of a constraint. -/
  | integrity (message : String) (sql : Option String)
  /-- A failure below the connection, as it is reported there. -/
  | fault (kind : Fault) (message : String)
  /-- The caller's own code failed. -/
  | external (message : String)
  /-- A part of a description is malformed. -/
  | malformed
  /-- A value of the right kind that means nothing here. -/
  | badValue
  /-- A value of the wrong kind. -/
  | badType
  /-- A name that is not there. -/
  | missing
  /-- A bound parameter that the statement text does not name. -/
  | unboundName
  /-- The program was told to stop. -/
  | interrupted
  deriving DecidableEq, Repr

/-- The wording of an error, where it has one of its own. -/
def Error.message? : Error → Option String
  | .build cause => some cause.message
  | .config cause => some cause.message
  | .state cause => some cause.message
  | .unsupported dialect feature => some (dialect ++ ": " ++ feature.absence)
  | .nestedRollback level =>
    some ("Roll back failed at level " ++ toString level ++ ": nested transaction not supported.")
  | .backend message _ | .integrity message _ | .external message => some message
  | _ => none

/-- The error is one that this library reports on its own account or on the database's, rather
than a failure of the caller's code or a value of the wrong kind. -/
def Error.isOwn : Error → Bool
  | .build _ | .config _ | .state _ | .unsupported .. | .nestedRollback _ | .backend ..
  | .integrity .. => true
  | _ => false

/-- The error may be dealt with; being told to stop may not. -/
def Error.isRecoverable : Error → Bool
  | .interrupted => false
  | _ => true

end SqlLoom
