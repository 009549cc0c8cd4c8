import SqlLoom.Dialect.Insert
import SqlLoom.Fragment.Select
import SqlLoom.Query.Shorthand

/-!
# `SqlLoom.Statement`: whole statements

A `Compiler` joins a dialect with the tables that are known and the mark of generated names. Its
functions compile a query, a condition, an INSERT (of values, of the rows of a query, of several
rows of literals, or with the key returned), an UPDATE and a DELETE. Each but the batch first
yields a fragment, which `Compiler.finish` binds to the parameters of the caller.

Values of known columns are cast by column type before they are bound; expressions are put into the
text, and a sub-query is a value of an INSERT.
-/

set_option autoImplicit false

namespace SqlLoom

/-- A statement ready for the database. -/
structure Compiled where
  sql : String
  params : Entries Value
  dialect : String

/-- What a statement is compiled with. -/
structure Compiler where
  dialect : Dialect
  schema? : Option Schema := none
  mark : String := defaultMark

namespace Compiler

/-- The metadata of a table, if it is known. -/
def table? (c : Compiler) (name : String) : Option Table := c.schema?.bind (·.table? name)

/-- A fragment bound to the parameters of the caller. -/
def finish (c : Compiler) (params : Entries Value) (f : Fragment) : Compiled :=
  let (sql, table) := f.bind (.ofEntries c.mark params)
  ⟨sql, table.entries, c.dialect.name⟩

/-! ### Queries and conditions -/

/-- Compiles a query. -/
def build (c : Compiler) (q : Query) (params : Entries Value) : Except Error Compiled := do
  return c.finish params (← q.fragment c.dialect)

/-- Compiles a condition by itself. -/
def buildCondition (c : Compiler) (condition : Value) (params : Entries Value) :
    Except Error Compiled := do
  return c.finish params (← condition.conditionFragment c.dialect true)

/-- Quotes a column list, which is given as text or as a list, and joins it with commas. A text
with a parenthesis is left as it is. -/
def buildColumns (c : Compiler) (columns : Value) : Except Error String := do
  match columns.text? with
  | some s =>
    if s.toList.contains '(' then return s
    return commaJoined ((splitNames s).map c.dialect.quoteColumn)
  | none =>
    let parts ← (← columns.goThrough).mapM fun v =>
      match v with
      | .expr e => pure e.text
      | v => c.dialect.columnNamed v
    return commaJoined parts

/-! ### Inserting -/

/-- A value in the form in which it is bound for a column of a table that may be known. -/
def castFor (info : Option Table) (name : String) (v : Value) : Value :=
  match v, info.bind (·.column? name) with
  | .typed .., _ => v
  | _, some column => column.cast v
  | _, none => v

/-- The value of one column of an INSERT. -/
def insertedValue (d : Dialect) (info : Option Table) (name : String) (v : Value) :
    Except Error Fragment :=
  match v with
  | .expr e => .ok (.ofExpression e)
  | .query q => do return (← q.fragment d).parens
  | v => .ok (.bound (castFor info name v))

/-- The name under which a query exposes an item of its select list. -/
def exposedName (item : SelectItem) : Except Error String :=
  match item.alias? with
  | some alias_ => .ok alias_
  | none =>
    match item.expr.text? with
    | some s => .ok (((splitAlias s).map Prod.snd).getD s)
    | none => buildError .insertItemNameless

/-- The INSERT of the rows of a query. Every item of its select list must have a name. -/
def insertRows (c : Compiler) (table : String) (q : Query) : Except Error Fragment := do
  if q.items.isEmpty || q.items.any fun i => i.expr.text? == some "*" then
    buildError .insertNeedsNames
  let rows ← q.fragment c.dialect
  let names ← q.items.mapM exposedName
  return .ofText ("INSERT INTO " ++ c.dialect.quoteTable table ++ " ("
    ++ commaJoined (names.map c.dialect.quoteColumn) ++ ") ") ++ rows

/-- The INSERT of one row. -/
def insertRow (c : Compiler) (table : String) (columns : Entries Value) :
    Except Error Fragment := do
  let d := c.dialect
  let info := c.table? table
  let row := d.normalizeRow info columns
  if row.isEmpty then return .ofText (d.emptyInsert (d.quoteTable table) info)
  let values ← row.mapM fun e => insertedValue d info e.1 e.2
  return .ofText ("INSERT INTO " ++ d.quoteTable table ++ " ("
      ++ commaJoined (row.map fun e => d.quoteColumn e.1) ++ ") VALUES ")
    ++ (Fragment.join ", " values).parens

/-- The INSERT of a row, given as a mapping or as pairs, or of the rows of a query. -/
def insertFragment (c : Compiler) (table : String) (columns : Value) : Except Error Fragment :=
  match columns with
  | .query q => c.insertRows table q
  | v => do c.insertRow table (← v.toEntries)

/-- Compiles an INSERT. -/
def insert (c : Compiler) (table : String) (columns : Value) (params : Entries Value) :
    Except Error Compiled := do
  return c.finish params (← c.insertFragment table columns)

/-- Compiles an INSERT that returns the primary key. -/
def insertReturning (c : Compiler) (table : String) (columns : Value) (params : Entries Value) :
    Except Error Compiled := do
  let f ← c.insertFragment table columns
  return c.finish params (← c.dialect.returning f (c.table? table))

/-! ### Batches -/

/-- The literal of one value of a batch, for the column at its position. -/
def batchValue (d : Dialect) (info : Option Table) (columns : List String) (i : Nat) (v : Value) :
    String :=
  let column := do (← info).column? (← columns[i]?)
  d.batchLiteral (match column with
    | some column => column.cast v
    | none => v)

/-- The literals of a row from position `i` on. -/
def batchValues (d : Dialect) (info : Option Table) (columns : List String) :
    Nat → List Value → List String
  | _, [] => []
  | i, v :: rest => batchValue d info columns i v :: batchValues d info columns (i + 1) rest

/-- Compiles an INSERT of several rows of literals. There are no parameters, and without rows
there is no statement. -/
def batchInsert (c : Compiler) (table : String) (columns : List String) (rows : Value) :
    Except Error Compiled := do
  let d := c.dialect
  let groups ← (← rows.goThrough).mapM fun row => do
    return "(" ++ commaJoined (batchValues d (c.table? table) columns 0 (← row.goThrough)) ++ ")"
  if groups.isEmpty then return ⟨"", [], d.name⟩
  return ⟨d.batchInsert (d.quoteTable table) (columns.map d.quoteColumn) groups, [], d.name⟩

/-! ### Updating and deleting -/

/-- The WHERE clause of a condition, with a space in front, where the condition says anything. -/
def whereClause (d : Dialect) (condition : Value) : Except Error Fragment := do
  return (← condition.conditionFragment d true).headed " WHERE"

/-- The assignment of one column. -/
def assignment (d : Dialect) (info : Option Table) (name : String) (v : Value) : Fragment :=
  .ofText (d.quoteColumn name ++ "=") ++ match v with
    | .expr e => .ofExpression e
    | v => .bound (castFor info name v)

/-- The UPDATE of the rows that a condition holds of. -/
def updateFragment (c : Compiler) (table : String) (columns condition : Value) :
    Except Error Fragment := do
  let d := c.dialect
  let info := c.table? table
  let row := d.normalizeRow info (← columns.toEntries)
  let assignments := row.map fun e => assignment d info e.1 e.2
  return .ofText ("UPDATE " ++ d.quoteTable table ++ " SET ") ++ .join ", " assignments
    ++ (← whereClause d condition)

/-- Compiles an UPDATE. -/
def update (c : Compiler) (table : String) (columns condition : Value) (params : Entries Value) :
    Except Error Compiled := do
  return c.finish params (← c.updateFragment table columns condition)

/-- The DELETE of the rows that a condition holds of. -/
def deleteFragment (c : Compiler) (table : String) (condition : Value) : Except Error Fragment := do
  let d := c.dialect
  return .ofText ("DELETE FROM " ++ d.quoteTable table) ++ (← whereClause d condition)

/-- Compiles a DELETE. -/
def delete (c : Compiler) (table : String) (condition : Value) (params : Entries Value) :
    Except Error Compiled := do
  return c.finish params (← c.deleteFragment table condition)

end Compiler

end SqlLoom
