import SqlLoom.Proofs.Settlement
import SqlLoom.Rehearsal.Engine

/-!
# `SqlLoom.Proofs.Failure`: what the caller is told of a failure below

An operation on an open connection makes several calls on the layer below it, and any of them may
fail. A `Watched` engine does what the engine does and writes down which of its calls failed
(`simulates_perform`), so that what the caller is told can be compared with what has failed.

* `Told` is all that an operation tells of its failures: it translates the failure of an execution,
  and passes every other failure on as it is.
* `translated_iff`: the caller sees an error of the database exactly when the execution of the
  statement was the only call that failed. So a failure of a commit, of a rollback, of BEGIN, of the
  rows on their way or of the types of the parameters reaches the caller untranslated.
* `commit_failure_untranslated` is a statement whose commit fails.
-/

set_option autoImplicit false

namespace SqlLoom

variable {σ α β : Type}

/-! ### Failures of calls -/

/-- A call on the layer below a connection. -/
inductive LowerCall where
  /-- The types of the parameters are declared. -/
  | bind
  | execute
  | fetch
  | reflect
  | bare (bare : BareCall)
  deriving DecidableEq, Repr

/-- A call that failed. -/
structure Failure where
  call : LowerCall
  error : Error
  deriving DecidableEq, Repr

/-- An engine and the calls on it that failed, in order. -/
structure Watched (σ : Type) where
  engine : σ
  failures : List Failure

/-- An action of an engine that writes down if it fails. -/
def Action.watched (call : LowerCall) (a : Action σ α) : Action (Watched σ) α := fun w =>
  match a.run w.engine with
  | (.ok v, engine) => (.ok v, { w with engine })
  | (.error e, engine) => (.error e, ⟨engine, w.failures ++ [⟨call, e⟩]⟩)

theorem Action.run_watched (call : LowerCall) (a : Action σ α) (w : Watched σ) :
    (a.watched call).run w = match a.run w.engine with
      | (.ok v, engine) => (.ok v, { w with engine })
      | (.error e, engine) => (.error e, ⟨engine, w.failures ++ [⟨call, e⟩]⟩) := rfl

/-- The engine with a record of its failures. -/
def Engine.watched (e : Engine σ) : Engine (Watched σ) where
  connect := e.connect.watched (.bare .connect)
  disconnect := e.disconnect.watched (.bare .disconnect)
  begin_ := e.begin_.watched (.bare .begin_)
  commit := e.commit.watched (.bare .commit)
  rollback := e.rollback.watched (.bare .rollback)
  commitBegun := e.commitBegun.watched (.bare .commitBegun)
  rollbackBegun := e.rollbackBegun.watched (.bare .rollbackBegun)
  inTransaction w := e.inTransaction w.engine
  boundNames := e.boundNames
  execute text binds := (e.execute text binds).watched .execute
  fetch reply := (e.fetch reply).watched .fetch
  reflect b := (e.reflect b).watched .reflect
  reflectTable name b := (e.reflectTable name b).watched .reflect

/-- The call failed as calls of the layer below do. -/
def Failure.isBelow (f : Failure) : Bool :=
  match f.call, f.error with
  | .bind, .unboundName => true
  | .bind, _ => false
  | _, .fault .. => true
  | _, _ => false

/-- The error is one of the database. -/
def Error.isDatabase : Error → Bool
  | .backend .. | .integrity .. => true
  | _ => false

/-- The error of the database that a failure stands for. -/
def Failure.ReportedAs (f : Failure) (seen : Error) : Prop :=
  match f.error with
  | .fault .integrity _ => ∃ message sql, seen = .integrity message sql
  | _ => ∃ message sql, seen = .backend message sql

/-- A failure of the layer below is no error of the database as it is. -/
theorem Failure.not_isDatabase {f : Failure} (h : f.isBelow = true) :
    f.error.isDatabase = false := by
  obtain ⟨call, error⟩ := f
  cases error <;> cases call <;> first | rfl | cases h

namespace Connection

/-- The connection over the engine with a record. -/
def watched (c : Connection σ) : Connection (Watched σ) :=
  ⟨c.engine.watched, c.dialect, c.tablePrefix, c.mark, c.savepoints⟩

/-- The state before anything has failed. -/
def State.watched (s : State σ) : State (Watched σ) := { s with engine := ⟨s.engine, []⟩ }

/-- The state without the record. -/
def State.plain (w : State (Watched σ)) : State σ := { w with engine := w.engine.engine }

/-- The call is a statement, or begins or ends a native transaction. -/
def Call.isOperation : Call → Bool
  | .open_ | .close => false
  | _ => true

/-- The call has parameters whose type cannot be declared. -/
def Call.isUnbound (c : Connection σ) (s : State σ) : Call → Bool
  | .execute sql params | .queryScalar sql params => (c.submitted? s sql params).isNone
  | _ => false

/-- What fails below a connection in a call. -/
def failures (c : Connection σ) (s : State σ) (k : Call) : List Failure :=
  (if k.isUnbound c s then [⟨.bind, .unboundName⟩] else [])
    ++ (k.next c.watched s.watched).engine.failures

/-! ### Watching changes nothing -/

/-- With a record, the action does what it does without. -/
def Simulates (a' : Action (State (Watched σ)) α) (a : Action (State σ) α) : Prop :=
  ∀ w, (a'.run w).1 = (a.run w.plain).1 ∧ (a'.run w).2.plain = (a.run w.plain).2

namespace Simulates

variable {a' : Action (State (Watched σ)) α} {a : Action (State σ) α} {c : Connection σ}

theorem pure (v : α) :
    Simulates (Pure.pure v : Action (State (Watched σ)) α) (Pure.pure v) :=
  fun _ => ⟨rfl, rfl⟩

theorem throw (e : Error) : Simulates (throw e : Action (State (Watched σ)) α) (throw e) :=
  fun _ => ⟨rfl, rfl⟩

theorem setInTransaction (b : Bool) :
    Simulates (Connection.setInTransaction b : Action (State (Watched σ)) Unit)
      (Connection.setInTransaction b) :=
  fun _ => ⟨rfl, rfl⟩

/-- What is read off the state does not show the record. -/
theorem read_bind (f' : State (Watched σ) → β) (f : State σ → β)
    (h : ∀ w, f' w = f w.plain) {next' : β → Action (State (Watched σ)) α}
    {next : β → Action (State σ) α} (hnext : ∀ v, Simulates (next' v) (next v)) :
    Simulates (Action.read f' >>= next') (Action.read f >>= next) := by
  intro w
  simp only [Action.run_bind, Action.run_read, h w]
  exact hnext _ w

theorem bind {next' : α → Action (State (Watched σ)) β} {next : α → Action (State σ) β}
    (ha : Simulates a' a) (hnext : ∀ v, Simulates (next' v) (next v)) :
    Simulates (a' >>= next') (a >>= next) := by
  intro w
  obtain ⟨hresult, hstate⟩ := ha w
  rw [Action.run_bind, Action.run_bind]
  rcases hrun' : a'.run w with ⟨e' | v', w'⟩ <;> rcases hrun : a.run w.plain with ⟨e | v, s'⟩ <;>
    rw [hrun', hrun] at hresult hstate <;> cases hresult
  · exact ⟨rfl, hstate⟩
  · obtain rfl : w'.plain = s' := hstate
    exact hnext _ w'

theorem tryCatch {handle' : Error → Action (State (Watched σ)) α}
    {handle : Error → Action (State σ) α} (ha : Simulates a' a)
    (hhandle : ∀ e, Simulates (handle' e) (handle e)) :
    Simulates (tryCatch a' handle') (tryCatch a handle) := by
  intro w
  obtain ⟨hresult, hstate⟩ := ha w
  rw [Action.run_tryCatch, Action.run_tryCatch]
  rcases hrun' : a'.run w with ⟨e' | v', w'⟩ <;> rcases hrun : a.run w.plain with ⟨e | v, s'⟩ <;>
    rw [hrun', hrun] at hresult hstate <;> cases hresult
  · obtain rfl : w'.plain = s' := hstate
    exact hhandle _ w'
  · exact ⟨rfl, hstate⟩

theorem ite (p : Prop) [Decidable p] {b' : Action (State (Watched σ)) α} {b : Action (State σ) α}
    (ha : Simulates a' a) (hb : Simulates b' b) :
    Simulates (if p then a' else b') (if p then a else b) := by
  split
  · exact ha
  · exact hb

/-- A call of the engine, with its failure written down. -/
theorem below (call : LowerCall) (a : Action σ α) :
    Simulates (Connection.below (a.watched call)) (Connection.below a) := by
  intro w
  simp only [Connection.below, Action.run_onPart, Action.run_watched]
  show _ = (a.run w.engine.engine).1 ∧ _ = { w.plain with engine := (a.run w.engine.engine).2 }
  rcases a.run w.engine.engine with ⟨e | v, s⟩ <;> exact ⟨rfl, rfl⟩

theorem read_id_bind {next' : State (Watched σ) → Action (State (Watched σ)) α}
    {next : State σ → Action (State σ) α} (h : ∀ w, Simulates (next' w) (next w.plain)) :
    Simulates (Action.read id >>= next') (Action.read id >>= next) :=
  fun w => h w w

theorem requireOpen : Simulates (Connection.requireOpen : Action (State (Watched σ)) Unit)
    Connection.requireOpen :=
  read_bind State.isOpen State.isOpen (fun _ => rfl) fun _ => ite _ (throw _) (pure _)

theorem settle (c : Connection σ) (failed : Bool) :
    Simulates (c.watched.settle failed) (c.settle failed) := by
  refine read_id_bind fun w => ite _ ?_ (pure _)
  cases failed with
  | true => exact below (.bare .rollback) _
  | false => exact below (.bare .commit) _

theorem submit (c : Connection σ) (sql : String) (binding : Binding) :
    Simulates (c.watched.submit sql binding) (c.submit sql binding) := by
  refine tryCatch (below .execute _) fun e => ?_
  cases statementFailure? sql e with
  | none => exact throw e
  | some failure => exact bind (settle c true) fun _ => throw failure

theorem perform (c : Connection σ) (sql : String) (params : Entries Value) :
    Simulates (c.watched.perform sql params) (c.perform sql params) :=
  bind requireOpen fun _ =>
    ite _ (bind (throw _) fun _ => submit c _ _) (submit c _ _)

theorem complete (c : Connection σ) (sql : String) (params : Entries Value) :
    Simulates (c.watched.complete sql params) (c.complete sql params) := by
  refine bind (perform c sql params) fun reply => bind ?_ fun _ =>
    bind (settle c false) fun _ => pure reply
  exact ite _ (below .fetch _) (pure _)

theorem beginNative (c : Connection σ) : Simulates c.watched.beginNative c.beginNative := by
  refine bind requireOpen fun _ => read_id_bind fun w => ?_
  have hbegin : Simulates
      (do Connection.below c.watched.engine.begin_; Connection.setInTransaction true)
      (do Connection.below c.engine.begin_; Connection.setInTransaction true) :=
    bind (below (.bare .begin_) _) fun _ => setInTransaction true
  exact ite _ (bind (below (.bare .commit) _) fun _ => hbegin) hbegin

theorem endNative (call : LowerCall) (a : Action σ Unit) :
    Simulates (Connection.endNative (a.watched call)) (Connection.endNative a) :=
  read_bind State.inTransaction State.inTransaction (fun _ => rfl) fun _ =>
    ite _ (bind (setInTransaction false) fun _ => below call a) (pure _)

end Simulates

/-- A call over the engine with a record does what it does without. -/
theorem simulates_perform (c : Connection σ) {k : Call} (hk : k.isOperation = true) :
    Simulates (k.perform c.watched) (k.perform c) := by
  cases k with
  | open_ => cases hk
  | close => cases hk
  | execute sql params =>
      exact Simulates.bind (Simulates.bind (.complete c sql params) fun _ => .pure _) fun _ =>
        .pure _
  | queryScalar sql params =>
      exact Simulates.bind (Simulates.bind (.complete c sql params) fun _ => .pure _) fun _ =>
        .pure _
  | beginNative => exact .beginNative c
  | commitNative => exact .endNative (.bare .commitBegun) _
  | rollbackNative => exact .endNative (.bare .rollbackBegun) _

/-! ### What is told of a failure -/

/-- What an operation tells of its failures, nothing where there are none. -/
inductive Told : List Failure → Option Error → Prop where
  | nothing : Told [] none
  /-- A failure is passed on as it is. -/
  | passed (f : Failure) (h : f.call ≠ .execute) : Told [f] (some f.error)
  /-- The failure of an execution is translated. -/
  | translated (sql : String) (e seen : Error) (h : statementFailure? sql e = some seen) :
      Told [⟨.execute, e⟩] (some seen)
  /-- A failure of an execution that is none of the database. -/
  | foreign (sql : String) (e : Error) (h : statementFailure? sql e = none) :
      Told [⟨.execute, e⟩] (some e)
  /-- After the failure of an execution, the rollback fails too and takes its place. -/
  | replaced (e : Error) (f : Failure) (h : f.call ≠ .execute) :
      Told [⟨.execute, e⟩, f] (some f.error)

/-- The error that a computation ends in. -/
def errorOf? (r : Except Error α) : Option Error :=
  match r with
  | .ok _ => none
  | .error e => some e

/-- Whatever fails in the action is told by the rules. -/
def Tells (a : Action (State (Watched σ)) α) (w : State (Watched σ)) : Prop :=
  ∃ new, (a.run w).2.engine.failures = w.engine.failures ++ new ∧ Told new (errorOf? (a.run w).1)

/-- The action executes nothing, and its first failure ends it and is passed on. -/
def PassesOn (a : Action (State (Watched σ)) α) : Prop :=
  ∀ w, match a.run w with
    | (.ok _, w') => w'.engine.failures = w.engine.failures
    | (.error e, w') => ∃ call, call ≠ .execute ∧
        w'.engine.failures = w.engine.failures ++ [⟨call, e⟩]

namespace PassesOn

variable {a : Action (State (Watched σ)) α}

theorem pure (v : α) : PassesOn (Pure.pure v : Action (State (Watched σ)) α) := fun _ => rfl

theorem read (f : State (Watched σ) → α) : PassesOn (Action.read f) := fun _ => rfl

theorem setInTransaction (b : Bool) :
    PassesOn (Connection.setInTransaction b : Action (State (Watched σ)) Unit) :=
  fun _ => rfl

theorem below (call : LowerCall) (h : call ≠ .execute) (a : Action σ α) :
    PassesOn (Connection.below (a.watched call)) := by
  intro w
  simp only [Connection.below, Action.run_onPart, Action.run_watched]
  rcases a.run w.engine.engine with ⟨e | v, s⟩
  · exact ⟨call, h, rfl⟩
  · rfl

theorem bind {next : α → Action (State (Watched σ)) β} (ha : PassesOn a)
    (hnext : ∀ v, PassesOn (next v)) : PassesOn (a >>= next) := by
  intro w
  have hfirst := ha w
  rw [Action.run_bind]
  rcases hrun : a.run w with ⟨e | v, w'⟩ <;> rw [hrun] at hfirst
  · exact hfirst
  · have hsecond := hnext v w'
    simp only at hfirst
    rwa [hfirst] at hsecond

theorem ite (p : Prop) [Decidable p] {b : Action (State (Watched σ)) α} (ha : PassesOn a)
    (hb : PassesOn b) : PassesOn (if p then a else b) := by
  split
  · exact ha
  · exact hb

theorem tells (ha : PassesOn a) (w : State (Watched σ)) : Tells a w := by
  have h := ha w
  rw [Tells]
  rcases hrun : a.run w with ⟨e | v, w'⟩ <;> rw [hrun] at h
  · obtain ⟨call, hcall, hfailures⟩ := h
    exact ⟨_, hfailures, .passed ⟨call, e⟩ hcall⟩
  · exact ⟨[], h.trans (List.append_nil _).symm, .nothing⟩

theorem settle (c : Connection σ) (failed : Bool) : PassesOn (c.watched.settle failed) := by
  refine (read _).bind fun _ => ite _ ?_ (pure _)
  cases failed with
  | true => exact below (.bare .rollback) (by decide) _
  | false => exact below (.bare .commit) (by decide) _

theorem fetch (c : Connection σ) (reply : Reply) : PassesOn (c.watched.fetch reply) :=
  ite _ (below .fetch (by decide) _) (pure _)

end PassesOn

/-! ### What each operation tells -/

variable {c : Connection σ} {w : State (Watched σ)} {sql : String} {params : Entries Value}

theorem Tells.bind {a : Action (State (Watched σ)) α} {next : α → Action (State (Watched σ)) β}
    (ha : Tells a w) (hnext : ∀ v, PassesOn (next v)) : Tells (a >>= next) w := by
  obtain ⟨new, hfailures, htold⟩ := ha
  rw [Tells, Action.run_bind]
  rcases hrun : a.run w with ⟨e | v, w'⟩ <;> rw [hrun] at hfailures htold
  · exact ⟨new, hfailures, htold⟩
  · -- Nothing has failed so far, so what comes next is all there is to tell.
    cases htold
    obtain ⟨later, hlater, hrest⟩ := (hnext v).tells w'
    refine ⟨later, ?_, hrest⟩
    rw [hlater, hfailures, List.append_nil]

/-- The execution of a statement, which is rolled back where it fails. -/
theorem tells_submit (c : Connection σ) (sql : String) (binding : Binding)
    (w : State (Watched σ)) : Tells (c.watched.submit sql binding) w := by
  have hexecute : ∀ text, (below (c.watched.engine.execute text binding.values)).run w
      = match (c.engine.execute text binding.values).run w.engine.engine with
        | (.ok reply, engine) => (.ok reply, { w with engine := { w.engine with engine } })
        | (.error e, engine) => (.error e,
            { w with engine := ⟨engine, w.engine.failures ++ [⟨.execute, e⟩]⟩ }) := by
    intro text
    simp only [below, Action.run_onPart, watched, Engine.watched, Action.run_watched]
    rcases (c.engine.execute text binding.values).run w.engine.engine with ⟨e | reply, engine⟩ <;>
      rfl
  rw [Tells, submit, Action.run_tryCatch, hexecute]
  rcases (c.engine.execute _ binding.values).run w.engine.engine with ⟨e | reply, engine⟩
  · simp only
    cases hfailure : statementFailure? sql e with
    | none => exact ⟨_, rfl, .foreign sql e hfailure⟩
    | some failure =>
        -- The rollback comes before the report, and may fail in its turn.
        have hsettle := PassesOn.settle c true
          { w with engine := ⟨engine, w.engine.failures ++ [⟨.execute, e⟩]⟩ }
        simp only [Action.run_bind]
        rcases hrun : (c.watched.settle true).run _ with ⟨g | ⟨⟩, w'⟩ <;> rw [hrun] at hsettle
        · obtain ⟨call, hcall, hfailures⟩ := hsettle
          refine ⟨[⟨.execute, e⟩, ⟨call, g⟩], ?_, .replaced e ⟨call, g⟩ hcall⟩
          simpa using hfailures
        · exact ⟨[⟨.execute, e⟩], hsettle, .translated sql e failure hfailure⟩
  · exact ⟨[], (List.append_nil _).symm, .nothing⟩

/-- A statement that the engine is given. -/
theorem tells_complete (h : c.submitted? w.plain sql params ≠ none) :
    Tells (c.watched.complete sql params) w := by
  have hperform : Tells (c.watched.perform sql params) w := by
    obtain ⟨⟨text, binds⟩, hgiven⟩ := Option.ne_none_iff_exists'.mp h
    have hgiven' : c.watched.submitted? w sql params = some (text, binds) := hgiven
    obtain ⟨-, hrun, -, -⟩ := run_perform_of_some hgiven'
    rw [Tells, hrun]
    exact tells_submit c _ _ w
  exact hperform.bind fun reply => (PassesOn.fetch c reply).bind fun _ =>
    (PassesOn.settle c false).bind fun _ => .pure reply

/-- Beginning and ending a native transaction executes nothing. -/
theorem tells_beginNative (hopen : w.isOpen = true) : Tells c.watched.beginNative w := by
  have hrun : c.watched.beginNative.run w = ((do
      let s ← Action.read id
      if c.watched.engine.inTransaction s.engine && !s.inTransaction then
        below c.watched.engine.commit
      below c.watched.engine.begin_
      setInTransaction true : Action (State (Watched σ)) Unit)).run w := by
    simp only [beginNative, requireOpen, Action.run_bind, Action.run_read, hopen]
    rfl
  have hbegin : PassesOn (do below c.watched.engine.begin_; setInTransaction true) :=
    (PassesOn.below (.bare .begin_) (by decide) _).bind fun _ => .setInTransaction true
  rw [Tells, hrun]
  refine PassesOn.tells ?_ w
  exact (PassesOn.read _).bind fun _ => .ite _
    ((PassesOn.below (.bare .commit) (by decide) _).bind fun _ => hbegin) hbegin

theorem passesOn_endNative (call : BareCall) (a : Action σ Unit) :
    PassesOn (endNative (a.watched (.bare call))) :=
  (PassesOn.read _).bind fun _ => .ite _
    ((PassesOn.setInTransaction false).bind fun _ => .below _ (by simp) a) (.pure _)

/-- What is told of the failures of a statement, whatever is made of its reply. -/
theorem told_of_statement (c : Connection σ) {s : State σ} (hopen : s.isOpen = true) {k : Call}
    (answer : Reply → β) (hunbound : k.isUnbound c s = (c.submitted? s sql params).isNone)
    (hperform : k.perform c.watched
      = do let _ ← (do return answer (← c.watched.complete sql params))) :
    Told (c.failures s k) (errorOf? ((k.perform c.watched).run s.watched).1) := by
  rw [failures, Call.next, hunbound, hperform]
  cases hsubmitted : c.submitted? s sql params with
  | none =>
      have hrefused : c.watched.submitted? s.watched sql params = none := hsubmitted
      have hopen' : s.watched.isOpen = true := hopen
      simp only [complete, Action.run_bind, run_perform_of_none hrefused, hopen', if_true]
      exact .passed ⟨.bind, .unboundName⟩ (by simp)
  | some given =>
      have hcomplete : Tells (c.watched.complete sql params) s.watched :=
        tells_complete (by simp [State.plain, State.watched, hsubmitted])
      obtain ⟨new, hfailures, htold⟩ :=
        (hcomplete.bind fun reply => .pure (answer reply)).bind fun _ => .pure ()
      have hnew : ((do let _ ← (do return answer (← c.watched.complete sql params)) :
          Action (State (Watched σ)) Unit).run s.watched).2.engine.failures = new := hfailures
      rw [hnew]
      exact htold

/-- What is told of the failures of a call. -/
theorem Call.told (c : Connection σ) {s : State σ} (hopen : s.isOpen = true) {k : Call}
    (hk : k.isOperation = true) :
    Told (c.failures s k) (errorOf? ((k.perform c).run s).1) := by
  have hplain : s.watched.plain = s := rfl
  have hsame := (simulates_perform c hk s.watched).1
  rw [hplain] at hsame
  rw [← hsame]
  -- Nothing has failed before, so what an action tells is all that fails in the call.
  have htold : k.isUnbound c s = false → Tells (k.perform c.watched) s.watched →
      Told (c.failures s k) (errorOf? ((k.perform c.watched).run s.watched).1) := by
    rintro hbound ⟨new, hfailures, htold⟩
    have hnew : c.failures s k = new := by
      simp only [failures, hbound, Call.next, hfailures]
      rfl
    rwa [hnew]
  cases k with
  | open_ => cases hk
  | close => cases hk
  | execute sql params => exact told_of_statement c hopen _ rfl rfl
  | queryScalar sql params => exact told_of_statement c hopen _ rfl rfl
  | beginNative => exact htold rfl (tells_beginNative hopen)
  | commitNative => exact htold rfl ((passesOn_endNative .commitBegun _).tells _)
  | rollbackNative => exact htold rfl ((passesOn_endNative .rollbackBegun _).tells _)

/-! ### Which failures are translated -/

/-- The translation of the failure of an execution is the right error of the database. -/
theorem reportedAs_of_translated {sql : String} {e seen : Error}
    (hbelow : Failure.isBelow ⟨.execute, e⟩ = true) (h : statementFailure? sql e = some seen) :
    seen.isDatabase = true ∧ Failure.ReportedAs ⟨.execute, e⟩ seen := by
  cases e with
  | fault kind message =>
      cases kind <;> simp only [statementFailure?, Option.some.injEq] at h <;> subst h <;>
        exact ⟨rfl, message, some sql, rfl⟩
  | _ => cases hbelow

theorem Told.eq_none_iff {failures : List Failure} {told : Option Error}
    (h : Told failures told) : told = none ↔ failures = [] := by
  cases h <;> simp

/-- What is told of failures of the layer below is an error of the database exactly if an execution
alone has failed, and it is the right one; otherwise it is what the last failure says. -/
theorem Told.reported {failures : List Failure} {seen : Error} (h : Told failures (some seen))
    (hbelow : ∀ f ∈ failures, f.isBelow = true) :
    (seen.isDatabase = true ↔ ∃ e, failures = [⟨.execute, e⟩]) ∧
    (∀ f, failures = [f] → seen.isDatabase = true → f.ReportedAs seen) ∧
    (seen.isDatabase = false → ∃ f, failures.getLast? = some f ∧ seen = f.error) := by
  cases h with
  | passed f hcall =>
      have hplain := Failure.not_isDatabase (hbelow f (by simp))
      refine ⟨?_, by simp [hplain], fun _ => ⟨f, rfl, rfl⟩⟩
      simp only [hplain, Bool.false_eq_true, false_iff]
      rintro ⟨e, he⟩
      cases he
      exact hcall rfl
  | translated sql e seen hseen =>
      obtain ⟨hdatabase, hreported⟩ := reportedAs_of_translated (hbelow _ (by simp)) hseen
      refine ⟨⟨fun _ => ⟨e, rfl⟩, fun _ => hdatabase⟩, ?_, by simp [hdatabase]⟩
      rintro f hf -
      cases hf
      exact hreported
  | foreign sql _ hforeign =>
      -- No failure of the layer below is foreign to an execution.
      have hfault := hbelow _ (List.mem_singleton_self _)
      cases seen with
      | fault kind message => cases kind <;> cases hforeign
      | _ => cases hfault
  | replaced e f hcall =>
      have hplain := Failure.not_isDatabase (hbelow f (by simp))
      exact ⟨by simp [hplain], by simp, fun _ => ⟨f, rfl, rfl⟩⟩

/-- Where the calls below fail as calls of the layer below do, the caller of an operation on an open
connection is told of a failure exactly if there is one, and sees an error of the database exactly
when the only call that failed is the execution of the statement; then it is the right one.
Otherwise it sees what the last call that failed has said. -/
theorem translated_iff (c : Connection σ) {s : State σ} (hopen : s.isOpen = true) {k : Call}
    (hk : k.isOperation = true) (hbelow : ∀ f ∈ c.failures s k, f.isBelow = true) :
    (errorOf? ((k.perform c).run s).1 = none ↔ c.failures s k = []) ∧
    ∀ seen, ((k.perform c).run s).1 = .error seen →
      (seen.isDatabase = true ↔ ∃ e, c.failures s k = [⟨.execute, e⟩]) ∧
      (∀ f, c.failures s k = [f] → seen.isDatabase = true → f.ReportedAs seen) ∧
      (seen.isDatabase = false → ∃ f, (c.failures s k).getLast? = some f ∧ seen = f.error) := by
  have htold := Call.told c hopen hk
  refine ⟨htold.eq_none_iff, ?_⟩
  intro seen hseen
  rw [hseen] at htold
  exact htold.reported hbelow

/-- A statement whose execution fails is reported as one that broke a constraint. -/
theorem translated_iff_duplicate :
    let c : Connection ScriptedEngine :=
      { engine := ScriptedEngine.engine, dialect := .standard .ansi }
    let s : State ScriptedEngine :=
      ⟨true, false, none, { outcomes := [{ result := .error (.fault .integrity "duplicate") }] }⟩
    let k := Call.execute "INSERT" []
    s.isOpen = true ∧ k.isOperation = true ∧ (∀ f ∈ c.failures s k, f.isBelow = true) ∧
      ((k.perform c).run s).1 = .error (.integrity "duplicate" (some "INSERT")) ∧
      (∃ e, c.failures s k = [⟨.execute, e⟩]) ∧
      Failure.ReportedAs ⟨.execute, .fault .integrity "duplicate"⟩
        (.integrity "duplicate" (some "INSERT")) := by
  intro c s k
  have hfailures : c.failures s k = [⟨.execute, .fault .integrity "duplicate"⟩] := rfl
  have hbelow : ∀ f ∈ c.failures s k, f.isBelow = true := by simp [hfailures, Failure.isBelow]
  have hseen : ((k.perform c).run s).1 = .error (.integrity "duplicate" (some "INSERT")) := rfl
  obtain ⟨-, htold⟩ := translated_iff c (s := s) (k := k) rfl rfl hbelow
  obtain ⟨halone, hreported, -⟩ := htold _ hseen
  exact ⟨rfl, rfl, hbelow, hseen, halone.mp rfl, hreported _ hfailures rfl⟩

/-- The commit of a statement fails, and its failure is not translated. -/
theorem commit_failure_untranslated :
    let c : Connection ScriptedEngine :=
      { engine := ScriptedEngine.engine, dialect := .standard .ansi }
    let s : State ScriptedEngine :=
      ⟨true, false, none, { failures := [(.commit, .fault .driver "locked")] }⟩
    let k := Call.execute "INSERT" []
    s.isOpen = true ∧ k.isOperation = true ∧
      c.failures s k = [⟨.bare .commit, .fault .driver "locked"⟩] ∧
      ((k.perform c).run s).1 = .error (.fault .driver "locked") ∧
      (Error.fault .driver "locked").isDatabase = false :=
  ⟨rfl, rfl, rfl, rfl, rfl⟩

end Connection
end SqlLoom
