import SqlLoom.Entries
import SqlLoom.Value

/-!
# `SqlLoom.Dialect`: the databases that statements are written for

A `Dialect` is a family (`Backend`) with the capabilities that can be set apart from it: the quote
character of names, the escapes of patterns, the ceiling of an IN list, and whether patterns may
ignore case and savepoints exist. `Dialect.standard` is the built-in dialect of a family. What the
families do differently beyond that hangs on the family alone, here and in the modules under
`Dialect`.
-/

set_option autoImplicit false

namespace SqlLoom

/-- The families of dialects; `ansi` is the one that the others depart from. -/
inductive Backend where
  | ansi | mysql | postgres | oracle
  deriving DecidableEq, Repr, Inhabited

/-- The families. -/
def Backend.all : List Backend := [.ansi, .mysql, .postgres, .oracle]

/-- The name of a family, which is also that of its built-in dialect. -/
def Backend.name : Backend → String
  | .ansi => "ansi"
  | .mysql => "mysql"
  | .postgres => "postgres"
  | .oracle => "oracle"

/-- The kind of a family's built-in dialect. -/
def Backend.kind : Backend → String
  | .ansi => "SQLDialect"
  | .mysql => "MySQLDialect"
  | .postgres => "PostgresDialect"
  | .oracle => "OracleDialect"

/-- A dialect. -/
structure Dialect where
  backend : Backend
  name : String
  kind : String
  /-- The character on both sides of a quoted name. -/
  quote : String
  /-- What the characters of a pattern value are replaced by, so that each stands for itself. -/
  likeEscapes : Entries String
  /-- The escape character that a pattern test declares, if it declares one. -/
  likeEscape? : Option String
  /-- Patterns that ignore case are understood. -/
  ilike : Bool
  /-- The most values of one IN list, if there is such a ceiling. -/
  maxInList? : Option Int
  /-- Savepoints are understood. -/
  savepoints : Bool

/-- Escapes with a backslash. -/
def backslashEscapes : Entries String := [("%", "\\%"), ("_", "\\_"), ("\\", "\\\\")]

/-- Escapes with an exclamation mark; the backslash stands for itself anyway. -/
def exclamationEscapes : Entries String :=
  [("%", "!%"), ("_", "!_"), ("!", "!!"), ("\\", "\\")]

/-- The built-in dialect of a family. -/
def Dialect.standard : Backend → Dialect
  | .ansi => ⟨.ansi, "ansi", "SQLDialect", "\"", backslashEscapes, none, false, none, true⟩
  | .mysql => ⟨.mysql, "mysql", "MySQLDialect", "\x60", backslashEscapes, none, false, none, true⟩
  | .postgres =>
    ⟨.postgres, "postgres", "PostgresDialect", "\"", backslashEscapes, none, true, none, true⟩
  | .oracle =>
    ⟨.oracle, "oracle", "OracleDialect", "\"", exclamationEscapes, some "!", false, some 1000, true⟩

instance : Inhabited Dialect := ⟨.standard .ansi⟩

namespace Dialect

/-- An isolation level that is set before a transaction begins holds for that transaction. -/
def isolationBeforeBegin (d : Dialect) : Bool := d.backend != .postgres

/-- A backslash inside a literal escapes the character after it. -/
def backslashInLiterals (d : Dialect) : Bool := d.backend == .mysql

/-- A truth value as a literal of a batch insert. -/
def boolLiteral (d : Dialect) (b : Bool) : String :=
  match d.backend, b with
  | .postgres, true => "TRUE"
  | .postgres, false => "FALSE"
  | _, true => "1"
  | _, false => "0"

/-! ### Savepoints, isolation and existence -/

/-- The statement that sets a savepoint. -/
def createSavepoint (_ : Dialect) (name : String) : String := "SAVEPOINT " ++ name

/-- The statement that releases a savepoint, where there is one. -/
def releaseSavepoint? (d : Dialect) (name : String) : Option String :=
  if d.backend = .oracle then none else some ("RELEASE SAVEPOINT " ++ name)

/-- The statement that goes back to a savepoint. -/
def rollbackToSavepoint (_ : Dialect) (name : String) : String := "ROLLBACK TO SAVEPOINT " ++ name

/-- The statement that sets the isolation level. -/
def setIsolation (_ : Dialect) (level : String) : String :=
  "SET TRANSACTION ISOLATION LEVEL " ++ level

/-- A statement that tells whether a query has rows. -/
def selectExists (d : Dialect) (sql : String) : String :=
  if d.backend = .oracle then "SELECT CASE WHEN EXISTS(" ++ sql ++ ") THEN 1 ELSE 0 END FROM DUAL"
  else "SELECT EXISTS(" ++ sql ++ ")"

end Dialect

end SqlLoom
