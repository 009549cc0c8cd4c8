import SqlLoom.Transaction

/-!
# `SqlLoom.Rehearsal`: transaction scripts and what they leave behind

A `Step` of a script is a transition of a transaction manager, a failure, a unit of work made of
steps, a group whose failure is caught, or a step of the connection's own kind `κ`.
`Stage.rehearse` runs a script from a session and gives a `Report` for every step. A step that fails
ends the unit of work or the group that it stands in; at the top the script goes on.

A report holds the session before and after its step, so what was asked of the connection while the
step ran is what the later session has in addition (`Report.added`). The steps of a unit of work
report too, up to the one that failed.
-/

set_option autoImplicit false

namespace SqlLoom

/-- One step of a script. -/
inductive Step (κ : Type) where
  | begin_ (isolation? : Option String)
  | commit
  | rollback
  | setIsolation (level : String)
  /-- Tells the nesting level. -/
  | describe
  /-- Fails. -/
  | fail (e : Error)
  /-- A unit of work, which gives a value when its steps are done. -/
  | run (isolation? : Option String) (steps : List (Step κ)) (result : Value)
  /-- Steps of which the first failure is caught. -/
  | attempt (steps : List (Step κ))
  /-- A step of the connection's own. -/
  | own (step : κ)

instance {κ : Type} : Inhabited (Step κ) := ⟨.commit⟩

/-- Failures to come, each for one kind of call. -/
abbrev Failures (κ : Type) := List (κ × Error)

/-- The oldest failure of a kind of call, and the failures that are left. -/
def Failures.take? {κ : Type} [DecidableEq κ] (kind : κ) : Failures κ → Option (Error × Failures κ)
  | [] => none
  | (k, e) :: rest =>
    if k = kind then some (e, rest)
    else (Failures.take? kind rest).map fun p => (p.1, (k, e) :: p.2)

/-- What a step gave. -/
inductive Outcome where
  | value (v : Value)
  /-- The failure that was caught, if there was one. -/
  | caught (e? : Option Error)

/-- What came of one step, over sessions of `σ` and with details `δ` of the connection's own
steps. -/
structure Report (σ δ : Type) where
  outcome : Except Error Outcome
  detail? : Option δ
  before : Session σ
  after : Session σ
  /-- The reports of the steps of a unit of work or a group, if they were run. -/
  inner? : Option (List (Report σ δ))

/-- What a list in the session gained while the step ran, where steps only add to it. -/
def Report.added {σ δ α : Type} (r : Report σ δ) (log : Session σ → List α) : List α :=
  (log r.after).drop (log r.before).length

/-- Where scripts are run: a manager and the connection's own steps. -/
structure Stage (κ σ δ : Type) where
  manager : Manager σ
  perform : κ → σ → (Except Error Value × Option δ) × σ

/-- A connection together with the reports of the last unit of work. -/
structure Scene (σ δ : Type) where
  world : σ
  inner? : Option (List (Report σ δ))

variable {κ σ δ : Type}

/-- The link of a connection that reports are kept beside. -/
def Link.inScene (l : Link σ) : Link (Scene σ δ) where
  dialect := l.dialect
  isOpen s := l.isOpen s.world
  wantsSavepoints s := l.wantsSavepoints s.world
  issue c := (l.issue c).onPart Scene.world fun world s => { s with world }

/-- The manager of a connection that reports are kept beside. -/
def Manager.inScene (m : Manager σ) : Manager (Scene σ δ) where
  link? := m.link?.map Link.inScene
  savepoints? := m.savepoints?

/-- A session whose connection has reports beside it. -/
def Session.inScene (s : Session σ) (inner? : Option (List (Report σ δ))) : Session (Scene σ δ) :=
  ⟨s.level, s.warnings, ⟨s.world, inner?⟩⟩

/-- A session without the reports. -/
def Session.bare (s : Session (Scene σ δ)) : Session σ := ⟨s.level, s.warnings, s.world.world⟩

namespace Stage

/-- The report of an operation of the manager. -/
def reportOf (s : Session σ) (result : Except Error Unit × Session σ) : Report σ δ :=
  ⟨result.1.map fun _ => .value .null, none, s, result.2, none⟩

/-- The text that tells the nesting level. -/
def describe (s : Session σ) : String := "TransactionManager(level=" ++ toString s.level ++ ")"

/-- The failure that ended a list of steps, if one did. -/
def failure? (reports : List (Report σ δ)) : Option Error :=
  reports.getLast?.bind fun r =>
    match r.outcome with
    | .ok _ => none
    | .error e => some e

/-- The session after a list of steps. -/
def sessionAfter (s : Session σ) (reports : List (Report σ δ)) : Session σ :=
  (reports.getLast?.map Report.after).getD s

/-- A unit of work with the given reports: it leaves the session that they end in and fails if the
last of them does. -/
def workOf (play : Session σ → List (Report σ δ)) (result : Value) :
    Action (Session (Scene σ δ)) Value := fun s =>
  let reports := play s.bare
  let after := (sessionAfter s.bare reports).inScene (some reports)
  match failure? reports with
  | some e => (.error e, after)
  | none => (.ok result, after)

/-- The report of a unit of work. -/
def runReport (st : Stage κ σ δ) (isolation? : Option String)
    (play : Session σ → List (Report σ δ)) (result : Value) (s : Session σ) : Report σ δ :=
  let (outcome, after) :=
    (Manager.inScene st.manager).run isolation? (workOf play result) (s.inScene none)
  ⟨outcome.map .value, none, s, after.bare, after.world.inner?⟩

mutual

/-- Runs one step. -/
def step (st : Stage κ σ δ) : Step κ → Session σ → Report σ δ
  | .begin_ isolation?, s => reportOf s (st.manager.begin_ isolation? s)
  | .commit, s => reportOf s (st.manager.commit s)
  | .rollback, s => reportOf s (st.manager.rollback s)
  | .setIsolation level, s => reportOf s (st.manager.setIsolation level s)
  | .describe, s => ⟨.ok (.value (.text (describe s))), none, s, s, none⟩
  | .fail e, s => ⟨.error e, none, s, s, none⟩
  | .run isolation? steps result, s => st.runReport isolation? (fun s => st.play steps s) result s
  | .attempt steps, s =>
    let reports := st.play steps s
    ⟨.ok (.caught (failure? reports)), none, s, sessionAfter s reports, some reports⟩
  | .own k, s =>
    let ((outcome, detail?), world) := st.perform k s.world
    ⟨outcome.map .value, detail?, s, { s with world }, none⟩

/-- Runs steps up to the first one that fails. -/
def play (st : Stage κ σ δ) : List (Step κ) → Session σ → List (Report σ δ)
  | [], _ => []
  | k :: rest, s =>
    let report := st.step k s
    match report.outcome with
    | .ok _ => report :: st.play rest report.after
    | .error _ => [report]

end

/-- Runs all steps of a script. -/
def rehearse (st : Stage κ σ δ) : List (Step κ) → Session σ → List (Report σ δ)
  | [], _ => []
  | k :: rest, s =>
    let report := st.step k s
    report :: st.rehearse rest report.after

end Stage

end SqlLoom
