import SqlLoom.Action
import SqlLoom.Dialect
import SqlLoom.Value.Shown
import SqlLoom.Warning

/-!
# `SqlLoom.Transaction`: nested transactions on one connection

A `Manager` counts how deep transactions are nested on a connection. The outermost one is a native
transaction. An inner one is a savepoint named for its level where savepoints are used; elsewhere it
is flattened into the outer one, and then it cannot be rolled back alone.

The connection is a `Link`: whether it is open, and a way to issue a `Command`. The manager itself
never looks at the text of a statement; `Command.text?` writes it.

* `Manager.begin_`, `Manager.commit`, `Manager.rollback` and `Manager.setIsolation` are the
  transitions. Commit and rollback leave a level before they issue a command, so a command that
  fails has left its level all the same.
* `Manager.run` runs a unit of work: it commits when the work is done and rolls back when it fails,
  unless the work has left the nesting level changed.
-/

set_option autoImplicit false

namespace SqlLoom

/-- What a manager asks of a connection. A savepoint is named for the level it protects. -/
inductive Command where
  | begin_
  | commit
  | rollback
  | setIsolation (level : String)
  | savepoint (level : Nat)
  | release (level : Nat)
  | rollbackTo (level : Nat)
  deriving DecidableEq, Repr

/-- The name of the savepoint of a level. -/
def savepointName (level : Nat) : String := "LEVEL" ++ toString level

/-- The statement of a command; the three native commands have none. -/
def Command.text? (d : Dialect) : Command → Option String
  | .begin_ | .commit | .rollback => none
  | .setIsolation level => some (d.setIsolation level)
  | .savepoint level => some (d.createSavepoint (savepointName level))
  | .release level => d.releaseSavepoint? (savepointName level)
  | .rollbackTo level => some (d.rollbackToSavepoint (savepointName level))

/-- A connection that transactions are run on, over the states `σ` of the connection. -/
structure Link (σ : Type) where
  dialect : Dialect
  isOpen : σ → Bool
  /-- The connection wants savepoints for nested transactions. -/
  wantsSavepoints : σ → Bool
  issue : Command → Action σ Unit

/-- The nesting level, the warnings so far, and the state of the connection. -/
structure Session (σ : Type) where
  level : Nat
  warnings : List Warning
  world : σ

/-- The session before any transaction. -/
def Session.start {σ : Type} (world : σ) : Session σ := ⟨0, [], world⟩

/-- The isolation level that a value names: a constant by its SQL words, anything else by its
text. -/
def Value.isolationWords : Value → String
  | .isolation l => l.keyword
  | v => v.shown

/-- A transaction manager. Without a link there is no connection; `savepoints?` overrides what the
connection wants. -/
structure Manager (σ : Type) where
  link? : Option (Link σ)
  savepoints? : Option Bool := none

namespace Manager

variable {σ : Type}

/-- The connection is there and open. -/
def isOpen (m : Manager σ) (s : Session σ) : Bool :=
  match m.link? with
  | some l => l.isOpen s.world
  | none => false

/-- A transaction is active. -/
def isActive (m : Manager σ) (s : Session σ) : Bool := 0 < s.level && m.isOpen s

/-- Nested transactions use savepoints. -/
def usesSavepoints (m : Manager σ) (s : Session σ) : Bool :=
  match m.link? with
  | some l => m.savepoints?.getD (l.wantsSavepoints s.world) && l.dialect.savepoints
  | none => false

/-- Writes a warning down. -/
def warn (w : Warning) : Action (Session σ) Unit :=
  Action.change fun s => { s with warnings := s.warnings ++ [w] }

/-- Sets the nesting level. -/
def setLevel (level : Nat) : Action (Session σ) Unit := Action.change fun s => { s with level }

/-- Issues a command on the connection of a session. -/
def send (l : Link σ) (c : Command) : Action (Session σ) Unit :=
  (l.issue c).onPart Session.world fun world s => { s with world }

/-! ### Transitions -/

/-- Begins a native transaction, with an isolation level if one is given and the dialect takes it
before the transaction begins. -/
def beginOutermost (l : Link σ) (isolation? : Option String) : Action (Session σ) Unit := do
  match isolation? with
  | some level =>
    if l.dialect.isolationBeforeBegin then send l (.setIsolation level)
    else warn (.isolationIgnored level l.dialect.name)
  | none => pure ()
  send l .begin_
  setLevel 1

/-- Begins a transaction inside the one of the given level. -/
def beginNested (m : Manager σ) (l : Link σ) (level : Nat) : Action (Session σ) Unit := do
  if ← Action.read m.usesSavepoints then send l (.savepoint level)
  else warn (.flattened level)
  setLevel (level + 1)

/-- Begins a transaction, a nested one where one is active already. The isolation level counts for
the outermost one only. -/
def begin_ (m : Manager σ) (isolation? : Option String) : Action (Session σ) Unit := do
  match m.link? with
  | none => throw (.config .nothingToBeginOn)
  | some l =>
    if ← Action.read m.isOpen then
      match ← Action.read Session.level with
      | 0 => beginOutermost l isolation?
      | level => m.beginNested l level
    else throw (.config .nothingToBeginOn)

/-- The link of an active transaction and the level around it. -/
def innermost? (m : Manager σ) (s : Session σ) : Option (Link σ × Nat) :=
  match m.link?, s.level with
  | some l, level + 1 => if l.isOpen s.world then some (l, level) else none
  | _, _ => none

/-- Commits the innermost transaction. -/
def commit (m : Manager σ) : Action (Session σ) Unit := do
  match ← Action.read m.innermost? with
  | none => throw (.state .commitInactive)
  | some (l, level) =>
    setLevel level
    if level = 0 then send l .commit
    else if ← Action.read m.usesSavepoints then
      if (Command.release level).text? l.dialect |>.isSome then send l (.release level)

/-- Rolls back the innermost transaction. Where none is active there is nothing to do. -/
def rollback (m : Manager σ) : Action (Session σ) Unit := do
  match ← Action.read m.innermost? with
  | none => pure ()
  | some (l, level) =>
    setLevel level
    if level = 0 then send l .rollback
    else if ← Action.read m.usesSavepoints then send l (.rollbackTo level)
    else throw (.nestedRollback level)

/-- Sets the isolation level of the active transaction. -/
def setIsolation (m : Manager σ) (level : String) : Action (Session σ) Unit := do
  match ← Action.read m.innermost? with
  | none => throw (.state .isolationInactive)
  | some (l, _) => send l (.setIsolation level)

/-! ### Units of work -/

/-- The transaction of the given level is the innermost active one. -/
def isInnermost (m : Manager σ) (level : Nat) (s : Session σ) : Bool :=
  m.isActive s && s.level == level

/-- Rolls back the transaction of the given level after a failure, if it is still the innermost
one. That this may fail in turn is only a warning, unless the program was told to stop. -/
def rollbackOnError (m : Manager σ) (level : Nat) : Action (Session σ) Unit := do
  if ← Action.read (m.isInnermost level) then
    try m.rollback
    catch e => if e.isRecoverable then warn .rollbackFailed else throw e

/-- Runs a unit of work in a transaction of its own, which is committed when the work is done and
rolled back when it fails. -/
def run {α : Type} (m : Manager σ) (isolation? : Option String) (work : Action (Session σ) α) :
    Action (Session σ) α := do
  m.begin_ isolation?
  let level ← Action.read Session.level
  try
    let result ← work
    if ← Action.read (m.isInnermost level) then m.commit
    return result
  catch e =>
    m.rollbackOnError level
    throw e

end Manager

end SqlLoom
