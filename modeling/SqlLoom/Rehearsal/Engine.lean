import SqlLoom.Connection
import SqlLoom.Rehearsal.Recorder

/-!
# `SqlLoom.Rehearsal.Engine`: an engine that plays a script

A `ScriptedEngine` records the calls that reach it and answers each statement with the next outcome
of its script. It keeps one flag, whether a transaction is open: a statement sets the flag, and so
does `begin_`; the end of a transaction and the return of the connection clear it. A call other than
a statement can be told to fail once it is recorded. The names that it binds in a text are those
after a colon that no colon, backslash or word character stands before and that no colon follows
(`ScriptedEngine.boundNames`).

`ScriptedEngine.stage` is a connection over such an engine, as scripts run on it.
-/

set_option autoImplicit false

namespace SqlLoom

/-- The calls of an engine that carry nothing. -/
inductive BareCall where
  | connect | disconnect | begin_ | commit | rollback | commitBegun | rollbackBegun
  deriving DecidableEq, Repr

/-- The bare calls. -/
def BareCall.all : List BareCall :=
  [.connect, .disconnect, .begin_, .commit, .rollback, .commitBegun, .rollbackBegun]

/-- The name under which a call is recorded. -/
def BareCall.name : BareCall → String
  | .connect => "connect"
  | .disconnect => "close"
  | .begin_ => "begin"
  | .commit => "conn.commit"
  | .rollback => "conn.rollback"
  | .commitBegun => "tx.commit"
  | .rollbackBegun => "tx.rollback"

/-- A call as it is recorded. -/
inductive EngineCall where
  | bare (call : BareCall)
  | execute (text : String) (binds : Entries Value)
  | reflect (bind : Bind)
  | reflectTable (name : String) (bind : Bind)

/-- What the script has for one statement. -/
structure EngineOutcome where
  result : Except Error Reply := .ok ⟨none, 0, []⟩
  /-- The statement ends the open transaction. -/
  endsTransaction : Bool := false

/-- An engine that plays a script. -/
structure ScriptedEngine where
  autobegun : Bool := false
  calls : List EngineCall := []
  failures : Failures BareCall := []
  outcomes : List EngineOutcome := []
  schema : Schema := ⟨[]⟩

namespace ScriptedEngine

/-- Sets whether a transaction is open. -/
def setFlag (b : Bool) : Action ScriptedEngine Unit :=
  Action.change fun e => { e with autobegun := b }

/-- Writes a call down. -/
def note (c : EngineCall) : Action ScriptedEngine Unit :=
  Action.change fun e => { e with calls := e.calls ++ [c] }

/-- Fails if that is the turn of a call. -/
def failOnCue (call : BareCall) : Action ScriptedEngine Unit := fun e =>
  match e.failures.take? call with
  | some (error, failures) => (.error error, { e with failures })
  | none => (.ok (), e)

/-- A call that ends a transaction, even if it fails. -/
def ending (call : BareCall) : Action ScriptedEngine Unit := do
  note (.bare call)
  setFlag false
  failOnCue call

/-- The next outcome of the script; when there is none left a statement succeeds without rows. -/
def nextOutcome : Action ScriptedEngine EngineOutcome := fun e =>
  match e.outcomes with
  | outcome :: outcomes => (.ok outcome, { e with outcomes })
  | [] => (.ok {}, e)

/-- Plays a statement. -/
def execute (text : String) (binds : Entries Value) : Action ScriptedEngine Reply := do
  note (.execute text binds)
  setFlag true
  let outcome ← nextOutcome
  if outcome.endsTransaction then setFlag false
  Action.ofExcept outcome.result

/-- Reading metadata over the connection begins a transaction. -/
def touch (b : Bind) : Action ScriptedEngine Unit := do
  if b = .connection then setFlag true

/-! ### Names in a text -/

/-- A colon after this character marks no parameter. -/
def hidesColon : Option Char → Bool
  | some c => c == ':' || c == '\\' || Text.isWord c
  | none => false

/-- The name after a colon. A colon right after a run of word characters takes its last one away. -/
def nameAfterColon (rest : List Char) : List Char :=
  let name := rest.takeWhile Text.isWord
  if (rest.dropWhile Text.isWord).head? = some ':' then name.dropLast else name

/-- The names that a text binds, after the given character. -/
def boundNamesAfter : Option Char → List Char → List (List Char)
  | _, [] => []
  | before, c :: rest =>
    let later := boundNamesAfter (some c) rest
    let name := nameAfterColon rest
    if c = ':' && !hidesColon before && !name.isEmpty then name :: later else later

/-- The names that a text binds. -/
def boundNames (sql : String) : List String := (boundNamesAfter none sql.toList).map String.ofList

/-! ### The engine -/

/-- The engine of the script. -/
def engine : Engine ScriptedEngine where
  connect := do
    note (.bare .connect)
    failOnCue .connect
  disconnect := do
    note (.bare .disconnect)
    failOnCue .disconnect
    setFlag false
  begin_ := do
    note (.bare .begin_)
    failOnCue .begin_
    setFlag true
  commit := ending .commit
  rollback := ending .rollback
  commitBegun := ending .commitBegun
  rollbackBegun := ending .rollbackBegun
  inTransaction := ScriptedEngine.autobegun
  boundNames := boundNames
  execute := execute
  reflect b := do
    note (.reflect b)
    touch b
    Action.read ScriptedEngine.schema
  reflectTable name b := do
    note (.reflectTable name b)
    touch b
    return (← Action.read ScriptedEngine.schema).table? name

/-! ### Scripts -/

/-- The steps of a script that concern the connection and its engine. -/
inductive Cue where
  | open_
  | close
  | execute (sql : String) (params : Entries Value)
  | queryScalar (sql : String) (params : Entries Value)
  | beginNative
  | commitNative
  | rollbackNative
  | expect (outcomes : List EngineOutcome)
  | autobegin
  | getSchema (refresh : Bool)
  | getTable (name : String) (refresh : Bool)
  | setSchema (schema : Schema)
  /-- Compiles an INSERT, with the metadata of all tables if it is asked for. -/
  | insert (withSchema : Bool) (table : String) (columns : Value)
  | failNext (call : BareCall) (e : Error)
  /-- Tells the dialect and whether the connection is open. -/
  | describe
  /-- Tells something that does not depend on the state. -/
  | tell (v : Value)

/-- What a report has beside the result of a step. -/
inductive Detail where
  /-- The parameters of a statement afterwards, where there are output parameters. -/
  | params (params : Entries Value)
  | compiled (statement : Compiled)

/-- The state of the connection that scripts run on. -/
abbrev World := Connection.State ScriptedEngine

/-- What a step does. -/
abbrev Play := Action World (Value × Option Detail)

/-- A step that gives nothing. -/
def silent (a : Action World Unit) : Play := do
  a
  return (.null, none)

/-- A step on the engine alone. -/
def onEngine (f : ScriptedEngine → ScriptedEngine) : Play :=
  silent (Connection.below (Action.change f))

/-- A step that runs a statement. -/
def statement (params : Entries Value) (a : Action World (Value × Entries Value)) : Play := do
  let (v, after) ← a
  return (v, if params.any fun e => e.2.isOut then some (.params after) else none)

/-- Names as a value. -/
def namesValue (names : List String) : Value := .list (names.map .text)

/-- The text that tells the dialect and whether the connection is open. -/
def describe (c : Connection ScriptedEngine) (w : World) : String :=
  "SQLAlchemyConnection(" ++ quotedText c.dialect.name ++ ", "
    ++ (if w.isOpen then "open" else "closed") ++ ")"

/-- Runs a step of the connection's own. -/
def play (c : Connection ScriptedEngine) : Cue → Play
  | .open_ => silent c.open_
  | .close => silent c.close
  | .execute sql params => statement params (c.execute sql params)
  | .queryScalar sql params => statement params (c.queryScalar sql params)
  | .beginNative => silent c.beginNative
  | .commitNative => silent c.commitNative
  | .rollbackNative => silent c.rollbackNative
  | .expect outcomes => onEngine fun e => { e with outcomes := e.outcomes ++ outcomes }
  | .autobegin => onEngine fun e => { e with autobegun := true }
  | .getSchema refresh => do return (namesValue (← c.getSchema refresh).tableNames, none)
  | .getTable name refresh => do
    let table? ← c.getTable name refresh
    return (((table?.map fun t => namesValue t.columnNames).getD .null), none)
  | .setSchema schema => onEngine fun e => { e with schema }
  | .insert withSchema table columns => do
    let compiler ← c.compiler withSchema
    return (.null, some (.compiled (← Action.ofExcept (compiler.insert table columns []))))
  | .failNext call error => onEngine fun e => { e with failures := e.failures ++ [(call, error)] }
  | .describe => do return (.text (← Action.read (describe c)), none)
  | .tell v => return (v, none)

/-- Runs a step and takes its result and its detail apart. -/
def perform (c : Connection ScriptedEngine) (cue : Cue) (w : World) :
    (Except Error Value × Option Detail) × World :=
  match play c cue w with
  | (.ok (v, detail?), w) => ((.ok v, detail?), w)
  | (.error e, w) => ((.error e, none), w)

/-- The stage on which scripts are run over a connection. -/
def stage (c : Connection ScriptedEngine) : Stage Cue World Detail :=
  ⟨⟨some c.link, none⟩, perform c⟩

end ScriptedEngine

end SqlLoom
