import SqlLoom.Dialect.Identifier
import SqlLoom.Error
import SqlLoom.Fragment
import SqlLoom.Schema

/-!
# `SqlLoom.Dialect.Insert`: what the families write differently around an INSERT

Literals of a batch insert, the batch itself, the insert of a row of defaults, the return of the
primary key, and the binding of binary columns; also the catalogue queries for constraints.
-/

set_option autoImplicit false

namespace SqlLoom.Dialect

/-! ### Literals and batches -/

/-- A value as a literal of a batch insert. -/
def batchLiteral (d : Dialect) (v : Value) : String :=
  match v with
  | .expr e => e.text
  | .bool b => d.boolLiteral b
  | .null => "NULL"
  | v =>
    match v.text? with
    | some s => d.quoteText s
    | none => v.shown

/-- A statement that inserts several rows. The columns are quoted names, and each row stands in
parentheses. -/
def batchInsert (d : Dialect) (table : String) (columns rows : List String) : String :=
  let target := "INTO " ++ table ++ " (" ++ commaJoined columns ++ ")"
  if d.backend = .oracle then
    "INSERT ALL " ++ " ".intercalate (rows.map fun row => target ++ " VALUES " ++ row)
      ++ " SELECT 1 FROM SYS.DUAL"
  else "INSERT " ++ target ++ " VALUES " ++ commaJoined rows

/-- A statement that inserts a row of defaults. Oracle names the columns of the primary key, or
else the first column. -/
def emptyInsert (d : Dialect) (table : String) (info : Option Table) : String :=
  let keys := (info.map Table.primaryKey).getD []
  let columns := (info.map Table.columnNames).getD []
  let names := if keys.isEmpty then columns.take 1 else keys
  if d.backend = .oracle && !names.isEmpty then
    "INSERT INTO " ++ table ++ " (" ++ commaJoined (names.map d.quoteColumn) ++ ") VALUES ("
      ++ commaJoined (names.map fun _ => "DEFAULT") ++ ")"
  else "INSERT INTO " ++ table ++ " DEFAULT VALUES"

/-! ### Returning the key -/

/-- The output parameter for one column of the primary key. -/
def outParam (info : Table) (name : String) : Value :=
  match info.column? name with
  | some c => .out (if c.isInteger then .int else .str) (c.size?.getD (-1)) (some name) .null
  | none => .out .str (-1) (some name) .null

/-- An INSERT that also returns the primary key; without a key it is left as it is. -/
def returning (d : Dialect) (sql : Fragment) (info : Option Table) : Except Error Fragment :=
  match d.backend with
  | .mysql => .error (.unsupported d.name .returning)
  | backend =>
    match info with
    | none => .ok sql
    | some table =>
      let keys := table.primaryKey
      if keys.isEmpty then .ok sql
      else
        let columns := .ofText (" RETURNING " ++ commaJoined (keys.map d.quoteColumn))
        if backend = .oracle then
          .ok (sql ++ columns ++ .ofText " INTO "
            ++ .join ", " (keys.map fun name => .bound (outParam table name)))
        else .ok (sql ++ columns)

/-! ### Binary columns -/

/-- Text and octets for a binary column are bound as large objects. -/
def bindBinary (info : Table) (name : String) (v : Value) : Value :=
  match info.column? name with
  | some c =>
    if c.type = .binary then
      match v with
      | .bytes _ => .typed v .lob
      | v => if v.text?.isSome then .typed v .lob else v
    else v
  | none => v

/-- The values of a row as they go to the database. -/
def normalizeRow (d : Dialect) (info : Option Table) (row : Entries Value) : Entries Value :=
  match d.backend, info with
  | .postgres, some table => row.map fun e => (e.1, bindBinary table e.1 e.2)
  | _, _ => row

/-! ### Constraints -/

/-- The catalogue query for the check constraints of a table. -/
def checkConstraints (d : Dialect) (table : Value) : Except Error String :=
  match d.backend with
  | .mysql => .error (.unsupported d.name .checkConstraints)
  | .oracle =>
    .ok ("SELECT constraint_name, search_condition FROM user_constraints "
      ++ "WHERE constraint_type = 'C' AND table_name = " ++ (d.quoteValue table).shown)
  | _ =>
    .ok ("SELECT tc.constraint_name, cc.check_clause FROM information_schema.table_constraints tc "
      ++ "JOIN information_schema.check_constraints cc ON tc.constraint_name = cc.constraint_name "
      ++ "WHERE tc.constraint_type = 'CHECK' AND tc.table_name = " ++ (d.quoteValue table).shown)

/-- The catalogue query for the column defaults of a table. -/
def defaultConstraints (d : Dialect) (table : Value) : Except Error String :=
  match d.backend with
  | .mysql => .error (.unsupported d.name (.defaultConstraints "MySQL"))
  | .oracle => .error (.unsupported d.name (.defaultConstraints "Oracle"))
  | _ =>
    .ok ("SELECT column_name, column_default FROM information_schema.columns WHERE table_name = "
      ++ (d.quoteValue table).shown ++ " AND column_default IS NOT NULL")

end SqlLoom.Dialect
