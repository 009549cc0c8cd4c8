import SqlLoom.Connection
import SqlLoom.Proofs.Transaction.Outlived

/-!
# `SqlLoom.Proofs.Settlement`: what becomes of each statement

A `Ledger` is an engine's own account of the statements that it ran. A statement begins a
transaction whether it succeeds or fails, and it is pending until that transaction ends, by being
committed or rolled back; a connection that is closed rolls back what is pending.

* `InStep` is what holds after every call: the engine is in a transaction exactly when a native one
  has begun, and nothing is pending outside of it. `Call.step` says what one call keeps and adds.
* `settled_at_once`: over every run of calls, a statement outside a native transaction is settled
  by the call that ran it, committed if it succeeded and rolled back if it failed. A statement
  inside one waits for the call that ends it.
-/

set_option autoImplicit false

namespace SqlLoom

variable {σ δ : Type}

/-! ### An engine with a ledger -/

/-- A statement that an engine ran. -/
structure Ran where
  text : String
  binds : Entries Value
  succeeded : Bool

/-- How a statement is settled. -/
inductive Fate where
  | committed | rolledBack
  deriving DecidableEq, Repr

/-- What a statement deserves on its own. -/
def Ran.ownFate (r : Ran) : Fate := if r.succeeded then .committed else .rolledBack

/-- The database server below an engine, over its states `δ`, and how the engine reads the names in
a text. A statement gives a reply, or else a failure of whatever kind. -/
structure Server (δ : Type) where
  connect : Action δ Unit
  boundNames : String → List String
  answer : String → Entries Value → δ → Except (Fault × String) Reply × δ
  schema : Schema

/-- An engine's account of its statements. -/
structure Ledger (δ : Type) where
  database : δ
  /-- A transaction is open. -/
  inTransaction : Bool := false
  /-- The statements of the open transaction. -/
  pending : List Ran := []
  settled : List (Ran × Fate) := []

namespace Ledger

/-- The open transaction ends. -/
def ended (fate : Fate) (e : Ledger δ) : Ledger δ :=
  { e with inTransaction := false, pending := [], settled := e.settled ++ e.pending.map (·, fate) }

/-- A statement is run, in the open transaction or in one that begins with it. -/
def ran (r : Ran) (database : δ) (e : Ledger δ) : Ledger δ :=
  { e with database, inTransaction := true, pending := e.pending ++ [r] }

/-- All statements, those that are pending with the fate that they wait for. -/
def fates (waiting : Option Fate) (e : Ledger δ) : List (Ran × Option Fate) :=
  e.settled.map (fun (r, fate) => (r, some fate)) ++ e.pending.map (·, waiting)

end Ledger

namespace Server

/-- A statement as the server takes it. -/
def run (server : Server δ) (text : String) (binds : Entries Value) (d : δ) : Ran :=
  ⟨text, binds, (server.answer text binds d).1.isOk⟩

/-- Runs a statement. -/
def execute (server : Server δ) (text : String) (binds : Entries Value) :
    Action (Ledger δ) Reply := fun e =>
  let (answer, database) := server.answer text binds e.database
  (answer.mapError fun (kind, message) => .fault kind message,
    e.ran (server.run text binds e.database) database)

/-- Metadata that is read over the connection begins a transaction as well. -/
def touch (b : Bind) : Action (Ledger δ) Unit := do
  if b = .connection then Action.change fun e => { e with inTransaction := true }

/-- The engine over a server. A transaction cannot be begun inside another one. -/
def engine (server : Server δ) : Engine (Ledger δ) where
  connect := do
    server.connect.onPart Ledger.database fun database e => { e with database }
    Action.change fun e => { e with inTransaction := false }
  disconnect := Action.change (Ledger.ended .rolledBack)
  begin_ := do
    if ← Action.read Ledger.inTransaction then
      throw (.fault .layer "a transaction has already begun on this connection")
    Action.change fun e => { e with inTransaction := true }
  commit := Action.change (Ledger.ended .committed)
  rollback := Action.change (Ledger.ended .rolledBack)
  commitBegun := Action.change (Ledger.ended .committed)
  rollbackBegun := Action.change (Ledger.ended .rolledBack)
  inTransaction := Ledger.inTransaction
  boundNames := server.boundNames
  execute := server.execute
  reflect b := do
    touch b
    return server.schema
  reflectTable name b := do
    touch b
    return server.schema.table? name

end Server

/-! ### Runs of calls -/

namespace Connection

/-- A connection with the engine over a server below it. -/
def on (c : Connection (Ledger δ)) (server : Server δ) : Connection (Ledger δ) :=
  { c with engine := server.engine }

/-- A call on a connection. -/
inductive Call where
  | open_
  | close
  | execute (sql : String) (params : Entries Value)
  | queryScalar (sql : String) (params : Entries Value)
  | beginNative
  | commitNative
  | rollbackNative

/-- Makes a call. -/
def Call.perform (c : Connection σ) : Call → Action (State σ) Unit
  | .open_ => c.open_
  | .close => c.close
  | .execute sql params => do let _ ← c.execute sql params
  | .queryScalar sql params => do let _ ← c.queryScalar sql params
  | .beginNative => c.beginNative
  | .commitNative => c.commitNative
  | .rollbackNative => c.rollbackNative

/-- The state that a call leaves, whether it fails or not. -/
def Call.next (c : Connection σ) (s : State σ) (k : Call) : State σ := ((k.perform c).run s).2

/-- The state after some calls. -/
def after (c : Connection σ) (s : State σ) (calls : List Call) : State σ :=
  calls.foldl (Call.next c) s

/-- The fate that a call gives to all statements of a native transaction. -/
def Call.ending? : Call → Option Fate
  | .commitNative => some .committed
  | .rollbackNative | .close => some .rolledBack
  | _ => none

/-- The text and the values that the engine is given for a statement. The connection must be open,
and the text must have all parameters whose type is declared. -/
def submitted? (c : Connection σ) (s : State σ) (sql : String) (params : Entries Value) :
    Option (String × Entries Value) :=
  let text := escapeColons c.dialect.backslashInLiterals (c.quoteSql sql)
  let binding := Binding.ofParams params
  if s.isOpen = true ∧ ∀ name ∈ binding.declared, name ∈ c.engine.boundNames text then
    some (text, binding.values)
  else none

/-- The statement that a call makes the engine run. -/
def Call.ran? (c : Connection (Ledger δ)) (server : Server δ) (s : State (Ledger δ)) :
    Call → Option Ran
  | .execute sql params | .queryScalar sql params =>
    (c.submitted? s sql params).map fun (text, binds) => server.run text binds s.engine.database
  | _ => none

/-- What becomes of the statements of a run. Outside a native transaction each has its own fate,
and from the start. Inside one it gets the fate that the next ending call gives, and it has none as
long as there is no such call. -/
def fates (c : Connection (Ledger δ)) (server : Server δ) (s : State (Ledger δ)) :
    List Call → List (Ran × Option Fate)
  | [] => []
  | k :: rest =>
    ((k.ran? (c.on server) server s).map fun r =>
      (r, if s.inTransaction then rest.findSome? Call.ending? else some r.ownFate)).toList
    ++ fates c server (k.next (c.on server) s) rest

/-! ### What a statement does -/

variable {c : Connection (Ledger δ)} {server : Server δ} {s : State (Ledger δ)} {sql : String}
  {params : Entries Value}

/-- A statement that the engine is not given fails and changes nothing. -/
theorem run_perform_of_none {c : Connection σ} {s : State σ}
    (h : c.submitted? s sql params = none) : (c.perform sql params).run s
      = (.error (if s.isOpen then .unboundName else .config .connectionNotOpen), s) := by
  simp only [submitted?] at h
  simp only [perform, requireOpen, Action.run_bind, Action.run_read, Action.run_ite]
  cases hopen : s.isOpen with
  | false => rfl
  | true =>
      have hunbound : ((Binding.ofParams params).declared.any fun name =>
          !(c.engine.boundNames (escapeColons c.dialect.backslashInLiterals
            (c.quoteSql sql))).contains name) = true := by
        simpa [hopen] using h
      simp only [hunbound]
      rfl

/-- A statement that the engine is given. -/
theorem run_perform_of_some {c : Connection σ} {s : State σ} {text : String}
    {binds : Entries Value} (h : c.submitted? s sql params = some (text, binds)) :
    s.isOpen = true ∧
      (c.perform sql params).run s = (c.submit (c.quoteSql sql) (.ofParams params)).run s ∧
      escapeColons c.dialect.backslashInLiterals (c.quoteSql sql) = text ∧
      (Binding.ofParams params).values = binds := by
  simp only [submitted?] at h
  split at h
  · rename_i hgiven
    obtain ⟨htext, hbinds⟩ := Prod.mk.inj (Option.some.inj h)
    have hbound : ((Binding.ofParams params).declared.any fun name =>
        !(c.engine.boundNames (escapeColons c.dialect.backslashInLiterals
          (c.quoteSql sql))).contains name) = false := by
      simpa using hgiven.2
    refine ⟨hgiven.1, ?_, htext, hbinds⟩
    simp only [perform, requireOpen, Action.run_bind, Action.run_read, hgiven.1, Bool.not_true,
      Bool.false_eq_true, if_false, Action.run_pure, hbound]
  · cases h

/-- Outside a native transaction a statement is settled. -/
theorem run_settle (failed : Bool) (s : State (Ledger δ)) :
    ((c.on server).settle failed).run s
      = (.ok (), if s.isOpen && !s.inTransaction && s.engine.inTransaction then
          { s with engine := s.engine.ended (if failed then .rolledBack else .committed) }
        else s) := by
  simp only [settle, Action.run_bind, Action.run_read, Action.run_ite, id]
  have hflag : (c.on server).engine.inTransaction s.engine = s.engine.inTransaction := rfl
  rw [hflag]
  split
  · cases failed <;> rfl
  · rfl

/-- The state after a statement that the engine ran. -/
def State.ran (s : State (Ledger δ)) (r : Ran) (database : δ) : State (Ledger δ) :=
  { s with
    engine :=
      if s.inTransaction then s.engine.ran r database
      else (s.engine.ran r database).ended r.ownFate }

/-- The rows of a reply are there at once. -/
theorem fetch_on (reply : Reply) : (c.on server).fetch reply = pure () := by
  rw [fetch]
  split <;> rfl

/-- The engine runs the statement, and it is settled. -/
theorem run_complete {text : String} {binds : Entries Value}
    (h : (c.on server).submitted? s sql params = some (text, binds)) :
    (((c.on server).complete sql params).run s).2
      = s.ran (server.run text binds s.engine.database)
        (server.answer text binds s.engine.database).2 := by
  obtain ⟨hopen, hrun, htext, hbinds⟩ := run_perform_of_some h
  have hexecute : (below ((c.on server).engine.execute text binds)).run s
      = ((server.answer text binds s.engine.database).1.mapError fun (kind, message) =>
          .fault kind message,
        { s with
          engine := s.engine.ran (server.run text binds s.engine.database)
            (server.answer text binds s.engine.database).2 }) := rfl
  rw [complete, Action.run_bind, hrun, submit, htext, hbinds, Action.run_tryCatch, hexecute]
  rcases hanswer : (server.answer text binds s.engine.database).1 with ⟨kind, message⟩ | reply
  · -- The engine fails, so the statement is rolled back before the failure is reported.
    have hfate : (server.run text binds s.engine.database).ownFate = .rolledBack := by
      simp [Server.run, hanswer, Ran.ownFate, Except.isOk, Except.toBool]
    simp only [Except.mapError]
    obtain ⟨failure, hfailure⟩ : ∃ failure,
        statementFailure? ((c.on server).quoteSql sql) (.fault kind message) = some failure := by
      cases kind <;> exact ⟨_, rfl⟩
    simp only [hfailure, Action.run_bind, run_settle, Action.run_throw, State.ran, hfate]
    cases s.inTransaction <;> simp [hopen, Ledger.ran]
  · have hfate : (server.run text binds s.engine.database).ownFate = .committed := by
      simp [Server.run, hanswer, Ran.ownFate, Except.isOk, Except.toBool]
    simp only [Except.mapError, Action.run_bind, fetch_on, run_settle, Action.run_pure, State.ran,
      hfate]
    cases s.inTransaction <;> simp [hopen, Ledger.ran]

/-! ### What one call does -/

/-- A connection and its engine agree on whether a transaction is open, and outside of one nothing
is pending. -/
structure State.InStep (s : State (Ledger δ)) : Prop where
  inTransaction_eq : s.engine.inTransaction = s.inTransaction
  native_open : s.inTransaction = true → s.isOpen = true
  pending_eq : s.inTransaction = false → s.engine.pending = []

/-- What one call keeps, and what it adds to the ledger. -/
structure State.Step (s s' : State (Ledger δ)) (ending? : Option Fate) (ran? : Option Ran) :
    Prop where
  inStep : s'.InStep
  fates_eq : ∀ waiting, s'.engine.fates waiting = s.engine.fates (ending?.or waiting)
    ++ (ran?.map fun r => (r, if s.inTransaction then waiting else some r.ownFate)).toList

namespace State.InStep

/-- A connection that is closed has no native transaction. -/
theorem not_native (hs : s.InStep) (hopen : s.isOpen = false) : s.inTransaction = false := by
  cases hnative : s.inTransaction with
  | false => rfl
  | true => exact absurd (hs.native_open hnative) (by simp [hopen])

/-- A call that leaves the statements alone. -/
theorem step_idle {s' : State (Ledger δ)} (hs' : s'.InStep)
    (hpending : s'.engine.pending = s.engine.pending)
    (hsettled : s'.engine.settled = s.engine.settled) : s.Step s' none none :=
  ⟨hs', fun waiting => by simp [Ledger.fates, hpending, hsettled]⟩

/-- A statement is pending in a native transaction, and settled outside of one. -/
theorem step_ran (hs : s.InStep) (r : Ran) (database : δ) :
    s.Step (s.ran r database) none (some r) := by
  cases hnative : s.inTransaction with
  | true =>
      refine ⟨⟨?_, fun _ => hs.native_open hnative, ?_⟩, fun waiting => ?_⟩ <;>
        simp [State.ran, hnative, Ledger.ran, Ledger.fates]
  | false =>
      have hpending := hs.pending_eq hnative
      refine ⟨⟨?_, ?_, ?_⟩, fun waiting => ?_⟩ <;>
        simp [State.ran, hnative, Ledger.ran, Ledger.ended, Ledger.fates, hpending]

/-- A call that ends the open transaction, if there is one. -/
theorem step_ended (s : State (Ledger δ)) (fate : Fate) (isOpen : Bool) :
    s.Step ⟨isOpen, false, s.schema?, s.engine.ended fate⟩ (some fate) none := by
  refine ⟨⟨rfl, nofun, fun _ => rfl⟩, fun waiting => ?_⟩
  simp [Ledger.fates, Ledger.ended, Function.comp_def]

/-- Without a transaction there is nothing to end. -/
theorem step_ended_of_none (hs : s.InStep) (hnative : s.inTransaction = false)
    (ending? : Option Fate) : s.Step s ending? none :=
  ⟨hs, fun waiting => by simp [Ledger.fates, hs.pending_eq hnative]⟩

/-- Opening makes a new connection of the engine, which is in no transaction. -/
theorem step_open (hs : s.InStep) : s.Step ((c.on server).open_.run s).2 none none := by
  simp only [open_, Action.run_bind, Action.run_read, Action.run_ite]
  cases hopen : s.isOpen with
  | true => exact step_idle hs rfl rfl
  | false =>
      rcases hconnect : server.connect.run s.engine.database with ⟨e | ⟨⟩, database⟩
      · have hbelow : (below (c.on server).engine.connect).run s
            = (.error e, { s with engine := { s.engine with database } }) := by
          simp only [below, Action.run_onPart, on, Server.engine, Action.run_bind, hconnect]
        simp only [Bool.not_false, if_true, Action.run_tryCatch, hbelow]
        exact step_idle ⟨hs.inTransaction_eq, hs.native_open, hs.pending_eq⟩ rfl rfl
      · have hbelow : (below (c.on server).engine.connect).run s
            = (.ok (), { s with
                engine := { s.engine with database, inTransaction := false } }) := by
          simp only [below, Action.run_onPart, on, Server.engine, Action.run_bind, hconnect]
          rfl
        simp only [Bool.not_false, if_true, Action.run_tryCatch, hbelow]
        exact step_idle ⟨(hs.not_native hopen).symm, fun _ => rfl, hs.pending_eq⟩ rfl rfl

theorem step_close (hs : s.InStep) :
    s.Step ((c.on server).close.run s).2 (some .rolledBack) none := by
  simp only [close, Action.run_bind, Action.run_read, Action.run_ite]
  cases hopen : s.isOpen with
  | true => exact step_ended s .rolledBack false
  | false => exact hs.step_ended_of_none (hs.not_native hopen) _

/-- A native transaction begins only where none is open, so nothing is pending then. -/
theorem step_begin (hs : s.InStep) : s.Step ((c.on server).beginNative.run s).2 none none := by
  cases hopen : s.isOpen with
  | false =>
      have hrun : (c.on server).beginNative.run s = (.error (.config .connectionNotOpen), s) := by
        simp only [beginNative, requireOpen, Action.run_bind, Action.run_read, hopen]
        rfl
      rw [hrun]
      exact step_idle hs rfl rfl
  | true =>
      have hflag : (c.on server).engine.inTransaction s.engine = s.inTransaction :=
        hs.inTransaction_eq
      have hbegin : (below (c.on server).engine.begin_).run s = if s.engine.inTransaction then
            (.error (.fault .layer "a transaction has already begun on this connection"), s)
          else (.ok (), { s with engine := { s.engine with inTransaction := true } }) := by
        simp only [below, Action.run_onPart, on, Server.engine, Action.run_bind, Action.run_read]
        split <;> rfl
      have hprepared : (c.on server).prepareNative.run s
          = (below (c.on server).engine.begin_).run s := by
        simp only [prepareNative, requireOpen, Action.run_bind, Action.run_read, hopen, id,
          Bool.not_true, Bool.false_eq_true, if_false, Action.run_pure, hflag, Bool.and_not_self]
      rw [run_beginNative, hprepared, hbegin, hs.inTransaction_eq]
      cases hnative : s.inTransaction with
      | true =>
          -- The engine refuses to begin a second one.
          exact step_idle hs rfl rfl
      | false => exact step_idle ⟨rfl, fun _ => hopen, fun h => by cases h⟩ rfl rfl

theorem step_endNative (hs : s.InStep) (fate : Fate) :
    s.Step ((endNative (Action.change (Ledger.ended fate))).run s).2 (some fate) none := by
  rw [run_endNative]
  cases hnative : s.inTransaction with
  | true => exact step_ended s fate s.isOpen
  | false => exact hs.step_ended_of_none hnative _

/-- A statement that the engine is given is run, and settled if it is outside of a native
transaction. -/
theorem step_statement (hs : s.InStep) :
    s.Step (((c.on server).complete sql params).run s).2 none
      (((c.on server).submitted? s sql params).map fun (text, binds) =>
        server.run text binds s.engine.database) := by
  cases hsubmitted : (c.on server).submitted? s sql params with
  | none =>
      rw [complete, Action.run_bind, run_perform_of_none hsubmitted]
      exact step_idle hs rfl rfl
  | some given =>
      rw [run_complete hsubmitted]
      exact hs.step_ran _ _

end State.InStep

/-- What one call does to the ledger. -/
theorem Call.step (hs : s.InStep) (k : Call) :
    s.Step (k.next (c.on server) s) k.ending? (k.ran? (c.on server) server s) := by
  cases k with
  | open_ => exact hs.step_open
  | close => exact hs.step_close
  | execute sql params =>
      rw [Call.next, Call.perform, Action.run_return, Connection.execute, Action.run_return]
      exact hs.step_statement
  | queryScalar sql params =>
      rw [Call.next, Call.perform, Action.run_return, Connection.queryScalar, Action.run_return]
      exact hs.step_statement
  | beginNative => exact hs.step_begin
  | commitNative => exact hs.step_endNative .committed
  | rollbackNative => exact hs.step_endNative .rolledBack

/-! ### Runs of calls -/

theorem inStep_after (hs : s.InStep) (calls : List Call) :
    ((c.on server).after s calls).InStep := by
  induction calls generalizing s with
  | nil => exact hs
  | cons k rest ih => exact ih (k.step hs).inStep

/-- The ledger after a run: what is pending before gets the fate of the first call that ends a
transaction, and the statements of the run get theirs. -/
theorem fates_after (hs : s.InStep) (calls : List Call) :
    ((c.on server).after s calls).engine.fates none
      = s.engine.fates (calls.findSome? Call.ending?) ++ c.fates server s calls := by
  induction calls generalizing s with
  | nil => exact (List.append_nil _).symm
  | cons k rest ih =>
      -- What the first call leaves pending waits for the calls after it.
      have hstep : s.Step (k.next (c.on server) s) k.ending? (k.ran? (c.on server) server s) :=
        k.step hs
      have hfates := hstep.fates_eq (rest.findSome? Call.ending?)
      have hwaiting : (k :: rest).findSome? Call.ending?
          = k.ending?.or (rest.findSome? Call.ending?) := by
        rw [List.findSome?_cons]
        cases k.ending? <;> rfl
      show ((c.on server).after (k.next (c.on server) s) rest).engine.fates none = _
      rw [ih hstep.inStep, hfates, hwaiting, fates, List.append_assoc]

/-- Over every run of calls on a connection that starts closed: while it is open, its engine is in a
transaction exactly when a native one has begun, and the ledger has every statement with its fate.
So a statement outside a native transaction is settled by the call that ran it, and one inside is
not settled before the call that ends the transaction. -/
theorem settled_at_once (c : Connection (Ledger δ)) (server : Server δ) (d : δ)
    (calls : List Call) :
    let start : State (Ledger δ) := .closed { database := d }
    let s := (c.on server).after start calls
    (s.isOpen = true → (s.engine.inTransaction = true ↔ s.inTransaction = true)) ∧
      s.engine.fates none = c.fates server start calls := by
  have hstart : (State.closed { database := d } : State (Ledger δ)).InStep :=
    ⟨rfl, nofun, fun _ => rfl⟩
  refine ⟨fun _ => ?_, fates_after hstart calls⟩
  rw [(inStep_after hstart calls).inTransaction_eq]

end Connection
end SqlLoom
