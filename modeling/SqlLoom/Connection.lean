import SqlLoom.Action
import SqlLoom.Connection.Binding
import SqlLoom.Connection.Literal
import SqlLoom.Statement
import SqlLoom.Transaction

/-!
# `SqlLoom.Connection`: statements on an engine

An `Engine` is the layer below: it connects, reads off a text which parameters it binds, executes,
and begins a transaction of its own with the first statement. A `Connection` puts rules on top of
that:

* A statement outside a native transaction is settled at once: committed when it succeeds, rolled
  back when it fails (`Connection.settle`).
* Statements are templates: tokens are resolved with the table prefix, and the colons of literals
  are escaped, before they go to the engine.
* A failure of the engine to execute a statement is reported as one of the database. Any other
  failure of the engine is passed on.

`Connection.link` lets a transaction manager drive a connection.
-/

set_option autoImplicit false

namespace SqlLoom

/-- What the execution of a statement gives: rows under column names or a number of rows, and the
values of output parameters. -/
structure Reply where
  rows? : Option (List String × List (List Value))
  count : Int
  outs : Entries Value

/-- Where metadata is read from. -/
inductive Bind where
  | engine | connection
  deriving DecidableEq, Repr

/-- The layer below a connection, over its states `σ`. -/
structure Engine (σ : Type) where
  connect : Action σ Unit
  disconnect : Action σ Unit
  begin_ : Action σ Unit
  /-- Ends a transaction that a statement began. -/
  commit : Action σ Unit
  rollback : Action σ Unit
  /-- Ends a transaction that `begin_` began. -/
  commitBegun : Action σ Unit
  rollbackBegun : Action σ Unit
  /-- A transaction is open, whatever began it. -/
  inTransaction : σ → Bool
  /-- The names of the parameters that a text binds, in order, each as often as it stands there. -/
  boundNames : String → List String
  execute : String → Entries Value → Action σ Reply
  /-- Brings the rows of a reply up, which are on the way until then. -/
  fetch : Reply → Action σ Unit := fun _ => pure ()
  reflect : Bind → Action σ Schema
  reflectTable : String → Bind → Action σ (Option Table)

/-- A connection over an engine. -/
structure Connection (σ : Type) where
  engine : Engine σ
  dialect : Dialect
  tablePrefix : String := ""
  mark : String := defaultMark
  savepoints : Bool := true

/-- The state of a connection and of its engine. -/
structure Connection.State (σ : Type) where
  isOpen : Bool
  /-- A native transaction has begun. -/
  inTransaction : Bool
  /-- The metadata of all tables, once it has been read. -/
  schema? : Option Schema
  engine : σ

/-- The state before a connection is opened. -/
def Connection.State.closed {σ : Type} (engine : σ) : Connection.State σ :=
  ⟨false, false, none, engine⟩

namespace Connection

variable {σ : Type}

/-- Runs an action of the engine. -/
def below {α : Type} (a : Action σ α) : Action (State σ) α :=
  a.onPart State.engine fun engine s => { s with engine }

/-- The connection must be open. -/
def requireOpen : Action (State σ) Unit := do
  if !(← Action.read State.isOpen) then throw (.config .connectionNotOpen)

/-- Sets whether a native transaction has begun. -/
def setInTransaction (b : Bool) : Action (State σ) Unit :=
  Action.change fun s => { s with inTransaction := b }

/-! ### Opening and closing -/

/-- A failure of the driver to connect, as a failure of the database. -/
def connectionFailure : Error → Error
  | .fault .layer message => .fault .layer message
  | .fault _ message => .backend ("Cannot open connection: " ++ message) none
  | e => e

/-- Opens the connection, if it is not open already. -/
def open_ (c : Connection σ) : Action (State σ) Unit := do
  if !(← Action.read State.isOpen) then
    try below c.engine.connect
    catch e => throw (connectionFailure e)
    Action.change fun s => { s with isOpen := true }

/-- Closes the connection, if it is open. The engine ends a transaction that is left over. -/
def close (c : Connection σ) : Action (State σ) Unit := do
  if ← Action.read State.isOpen then
    below c.engine.disconnect
    Action.change fun s => { s with isOpen := false, inTransaction := false }

/-! ### Statements -/

/-- Ends what a statement began on its own, outside a native transaction. -/
def settle (c : Connection σ) (failed : Bool) : Action (State σ) Unit := do
  let s ← Action.read id
  if s.isOpen && !s.inTransaction && c.engine.inTransaction s.engine then
    below (if failed then c.engine.rollback else c.engine.commit)

/-- A template with its tokens resolved. -/
def quoteSql (c : Connection σ) (sql : String) : String := c.dialect.quoteSql sql c.tablePrefix

/-- A failure below the connection, as a failure of the database; any other failure has no such
form. -/
def statementFailure? (sql : String) : Error → Option Error
  | .fault .integrity message => some (.integrity message (some sql))
  | .fault _ message => some (.backend message (some sql))
  | _ => none

/-- Runs a statement on the engine. -/
def submit (c : Connection σ) (sql : String) (binding : Binding) : Action (State σ) Reply := do
  try below (c.engine.execute (escapeColons c.dialect.backslashInLiterals sql) binding.values)
  catch e =>
    match statementFailure? sql e with
    | some failure => do
      c.settle true
      throw failure
    | none => throw e

/-- Runs a template with its parameters. A parameter whose type is declared must stand in the
text. -/
def perform (c : Connection σ) (sql : String) (params : Entries Value) :
    Action (State σ) Reply := do
  requireOpen
  let sql := c.quoteSql sql
  let binding := Binding.ofParams params
  let names := c.engine.boundNames (escapeColons c.dialect.backslashInLiterals sql)
  if binding.declared.any fun name => !names.contains name then throw .unboundName
  c.submit sql binding

/-- The rows of a reply as mappings, or the number of rows. -/
def Reply.answer (r : Reply) : Value :=
  match r.rows? with
  | some (columns, rows) =>
    .list (rows.map fun row => .map (Entries.merge [] (columns.zip row)))
  | none => .int r.count

/-- The first value of the first row, if there is one. -/
def Reply.scalar (r : Reply) : Value :=
  match r.rows? with
  | some (_, (v :: _) :: _) => v
  | _ => .null

/-- Brings the rows of a reply up, if it has any. -/
def fetch (c : Connection σ) (reply : Reply) : Action (State σ) Unit := do
  if reply.rows?.isSome then below (c.engine.fetch reply)

/-- Runs a template to its end: its rows are brought up before it is settled. -/
def complete (c : Connection σ) (sql : String) (params : Entries Value) :
    Action (State σ) Reply := do
  let reply ← c.perform sql params
  c.fetch reply
  c.settle false
  return reply

/-- Runs a statement. Gives its rows or the number of rows, and the parameters with the output
parameters filled. -/
def execute (c : Connection σ) (sql : String) (params : Entries Value) :
    Action (State σ) (Value × Entries Value) := do
  let reply ← c.complete sql params
  return (Reply.answer reply, fillOuts reply.outs params)

/-- Runs a query and gives the first value of its first row, and the parameters with the output
parameters filled. -/
def queryScalar (c : Connection σ) (sql : String) (params : Entries Value) :
    Action (State σ) (Value × Entries Value) := do
  let reply ← c.complete sql params
  return (Reply.scalar reply, fillOuts reply.outs params)

/-! ### Native transactions -/

/-- Begins a native transaction. What statements began before is committed first. -/
def beginNative (c : Connection σ) : Action (State σ) Unit := do
  requireOpen
  let s ← Action.read id
  if c.engine.inTransaction s.engine && !s.inTransaction then below c.engine.commit
  below c.engine.begin_
  setInTransaction true

/-- Ends the native transaction, if there is one. It is over even if ending it fails. -/
def endNative (a : Action σ Unit) : Action (State σ) Unit := do
  if ← Action.read State.inTransaction then
    setInTransaction false
    below a

/-- Commits the native transaction. -/
def commitNative (c : Connection σ) : Action (State σ) Unit := endNative c.engine.commitBegun

/-- Rolls the native transaction back. -/
def rollbackNative (c : Connection σ) : Action (State σ) Unit := endNative c.engine.rollbackBegun

/-- The connection as a transaction manager drives it. -/
def link (c : Connection σ) : Link (State σ) where
  dialect := c.dialect
  isOpen := State.isOpen
  wantsSavepoints := fun _ => c.savepoints
  issue
    | .begin_ => c.beginNative
    | .commit => c.commitNative
    | .rollback => c.rollbackNative
    | command =>
      match command.text? c.dialect with
      | some sql => do
        let _ ← c.execute sql []
      | none => pure ()

/-! ### Metadata -/

/-- Where metadata is read from: the connection, if it is open. -/
def bindOf (s : State σ) : Bind := if s.isOpen then .connection else .engine

/-- The metadata of all tables, read once unless `refresh` asks for it again. -/
def getSchema (c : Connection σ) (refresh : Bool) : Action (State σ) Schema := do
  match ← Action.read State.schema?, refresh with
  | some schema, false => return schema
  | _, _ =>
    let schema ← below (c.engine.reflect (← Action.read bindOf))
    Action.change fun s => { s with schema? := some schema }
    c.settle false
    return schema

/-- The metadata of one table, from what has been read already if it is there. -/
def getTable (c : Connection σ) (name : String) (refresh : Bool) :
    Action (State σ) (Option Table) := do
  let known := (← Action.read State.schema?).bind (·.table? name)
  match known, refresh with
  | some table, false => return some table
  | _, _ =>
    let table? ← below (c.engine.reflectTable name (← Action.read bindOf))
    c.settle false
    return table?

/-- The compiler of the connection, with the metadata of all tables if it is asked for. -/
def compiler (c : Connection σ) (withSchema : Bool) : Action (State σ) Compiler := do
  let schema? ← if withSchema then some <$> c.getSchema false else pure none
  return ⟨c.dialect, schema?, c.mark⟩

end Connection

end SqlLoom
