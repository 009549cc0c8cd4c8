import SqlLoom.Rehearsal

/-!
# `SqlLoom.Rehearsal.Recorder`: a connection that records and fails on cue

A `Recorder` writes down what a transaction manager asks of it and does nothing else. Each kind of
call has a queue of failures: a call is recorded first, and then fails with the oldest failure of
its queue, if there is one.
-/

set_option autoImplicit false

namespace SqlLoom

/-- The kinds of call that can fail. -/
inductive CallKind where
  | execute | begin_ | commit | rollback
  deriving DecidableEq, Repr

/-- The calls so far and the failures to come. -/
structure Recorder where
  isOpen : Bool := true
  wantsSavepoints : Bool := true
  calls : List String := []
  failures : Failures CallKind := []

namespace Recorder

/-- Records a call, which fails if that is its turn. -/
def call (kind : CallKind) (text : String) : Action Recorder Unit := fun r =>
  let r := { r with calls := r.calls ++ [text] }
  match r.failures.take? kind with
  | some (e, failures) => (.error e, { r with failures })
  | none => (.ok (), r)

/-- The recorder as a connection of the given dialect. -/
def link (d : Dialect) : Link Recorder where
  dialect := d
  isOpen := Recorder.isOpen
  wantsSavepoints := Recorder.wantsSavepoints
  issue
    | .begin_ => call .begin_ "BEGIN"
    | .commit => call .commit "COMMIT"
    | .rollback => call .rollback "ROLLBACK"
    | command =>
      match command.text? d with
      | some sql => call .execute sql
      | none => pure ()

/-- The steps of a script that concern the recorder itself. -/
inductive Cue where
  | execute (sql : String)
  | open_
  | close
  | wantSavepoints (b : Bool)
  | failNext (kind : CallKind) (e : Error)

/-- Runs a step of the recorder's own. -/
def perform (cue : Cue) (r : Recorder) : (Except Error Value × Option Unit) × Recorder :=
  match cue with
  | .execute sql =>
    let (outcome, r) := call .execute sql r
    ((outcome.map fun _ => .int 0, none), r)
  | .open_ => ((.ok .null, none), { r with isOpen := true })
  | .close => ((.ok .null, none), { r with isOpen := false })
  | .wantSavepoints b => ((.ok .null, none), { r with wantsSavepoints := b })
  | .failNext kind e => ((.ok .null, none), { r with failures := r.failures ++ [(kind, e)] })

/-- The stage on which scripts are run over a recorder. -/
def stage (manager : Manager Recorder) : Stage Cue Recorder Unit := ⟨manager, perform⟩

end Recorder

end SqlLoom
