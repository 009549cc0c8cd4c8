import Mathlib.Logic.Function.Basic
import Mathlib.Logic.Relation
import SqlLoom.Lock

/-!
# `SqlLoom.Proofs.Lock.Steps`: lockers that work side by side

Several lockers work on one world, each for a client of its own. An operation of a client takes
steps, between which the other clients and the world go on: one attempt to get a lock is a step,
and so is one release, also as part of giving every lock back. `Task.step` is one step, and a `Task`
is what is left of the operation after it.

* `Fleet.Step` is one step of a client, or a change elsewhere that no lock sees.
* `Fleet.Reaches` is any interleaving of such steps.
* `Fleet.Performs` is how the steps of a client hang together with the operations of its locker: an
  operation is the sum of its steps, and one that nothing comes between is done as a whole.
-/

set_option autoImplicit false

namespace SqlLoom

variable {σ ι : Type}

namespace Locker

/-! ### Operations in steps -/

/-- An operation of a locker. -/
inductive Operation where
  | acquire (name : String) (timeout : Rat)
  | release (name : String)
  | releaseAll

/-- What is left of an operation. -/
inductive Task where
  | idle
  /-- A lock is asked for once more, and then `left` times until the clock reaches the deadline. -/
  | trying (name : String) (timeout deadline : Rat) (left : Nat)
  | releasing (name : String)
  | releasingAll (names : List String)

/-- The lock that an operation is about, if it is about one. -/
def Operation.name? : Operation → Option String
  | .acquire name _ => some name
  | .release name => some name
  | .releaseAll => none

/-- Performs an operation. -/
def Operation.perform (m : Locker σ) : Operation → Action (Holding σ) Unit
  | .acquire name timeout => do let _ ← m.acquire name timeout
  | .release name => do let _ ← m.release name
  | .releaseAll => m.releaseAll

/-- Lists a lock that has been granted. -/
def list (name : String) (granted : Bool) : Action (Holding σ) Bool := do
  if granted then
    setLocks (· ++ [name])
    return true
  return false

/-- Asks for a lock once, and lists it if it is granted. -/
def ask (m : Locker σ) (name : String) (timeout : Rat) : Action (Holding σ) Bool := do
  list name (← onHost (m.scheme.attempt m.host name timeout))

/-- After a refusal, waits for the next attempt if there is time for one. -/
def pause (m : Locker σ) (deadline : Rat) : Action σ Bool :=
  match m.scheme with
  | .postgres delay => do
    if deadline ≤ (← Action.read m.host.now) then return false
    Action.change (m.host.sleep (delay / 1000))
    return true
  | _ => pure false

/-- The number of attempts after the first one. -/
def moreAttempts (m : Locker σ) (timeout : Rat) : Nat :=
  match m.scheme with
  | .postgres delay => attemptBound delay timeout - 1
  | _ => 0

/-- What is left of asking for a lock. -/
def keepAsking (m : Locker σ) (name : String) (timeout deadline : Rat) (left : Nat) :
    Action σ Bool :=
  let attempt := m.scheme.attempt m.host name timeout
  match m.scheme with
  | .postgres delay => pollUntil m.host delay deadline attempt (left + 1)
  | _ => attempt

/-- Starts an operation. -/
def Operation.start (m : Locker σ) : Operation → Action (Holding σ) Task
  | .acquire name timeout => do
    if (← Action.read Holding.locks).contains name then return .idle
    let start ← onHost (Action.read m.host.now)
    return .trying name timeout (start + timeout) (m.moreAttempts timeout)
  | .release name => return .releasing name
  | .releaseAll => do
    let s ← Action.read id
    if m.host.isOpen s.world then return .releasingAll s.locks
    setLocks fun _ => []
    return .idle

namespace Task

/-- One step, and what is left then. -/
def step (m : Locker σ) : Task → Action (Holding σ) Task
  | .idle => return .idle
  | .trying name timeout deadline left => do
    if ← m.ask name timeout then return .idle
    if ← onHost (m.pause deadline) then
      match left with
      | 0 => return .idle
      | left + 1 => return .trying name timeout deadline left
    return .idle
  | .releasing name => do
    let _ ← m.release name
    return .idle
  | .releasingAll [] => return .idle
  | .releasingAll (name :: rest) => do
    m.releaseOrWarn name
    return .releasingAll rest

/-- All that is left. -/
def finish (m : Locker σ) : Task → Action (Holding σ) Unit
  | .idle => pure ()
  | .trying name timeout deadline left => do
    let _ ← list name (← onHost (m.keepAsking name timeout deadline left))
  | .releasing name => do let _ ← m.release name
  | .releasingAll names => m.releaseEach names

/-- The lock that is asked for. -/
def asked? : Task → Option String
  | .trying name .. => some name
  | _ => none

/-- The locks that are given back. -/
def returning : Task → List String
  | .releasing name => [name]
  | .releasingAll names => names
  | _ => []

/-- A bound on the steps that are left. -/
def size : Task → Nat
  | .idle => 0
  | .trying _ _ _ left => left + 1
  | .releasing _ => 1
  | .releasingAll names => names.length + 1

end Task

end Locker

/-! ### Clients -/

/-- A client of a locker: what it holds and what it is at. -/
structure Client where
  locks : List String := []
  warnings : List Warning := []
  task : Locker.Task := .idle

/-- Clients side by side in one world. -/
structure Site (σ ι : Type) where
  clients : ι → Client
  world : σ

/-- What the locker of a client works on. -/
def Site.holding (s : Site σ ι) (i : ι) : Holding σ :=
  ⟨(s.clients i).locks, (s.clients i).warnings, s.world⟩

/-- A client holds and is at something else. -/
def Site.put [DecidableEq ι] (s : Site σ ι) (i : ι) (task : Locker.Task) (h : Holding σ) :
    Site σ ι :=
  ⟨Function.update s.clients i ⟨h.locks, h.warnings, task⟩, h.world⟩

/-- A client does something. A failure ends what it was at. -/
def Site.act [DecidableEq ι] (s : Site σ ι) (i : ι) (a : Action (Holding σ) Locker.Task) :
    Site σ ι :=
  match a.run (s.holding i) with
  | (.ok task, h) => s.put i task h
  | (.error _, h) => s.put i .idle h

/-- A database knows a lock by two numbers or by its name. -/
inductive LockKey where
  | numbers (high low : Int)
  | name (name : String)
  deriving DecidableEq, Repr

/-- Lockers over sessions of one database, which counts how often it has granted a lock to each. -/
structure Fleet (σ ι : Type) where
  locker : ι → Locker σ
  grants : σ → ι → LockKey → Nat

namespace Fleet

variable [DecidableEq ι]

/-- One step: an idle client starts an operation, a client goes on, or something changes elsewhere,
such as the time. -/
inductive Step (f : Fleet σ ι) (used : Set String) : Site σ ι → Site σ ι → Prop where
  | start (s : Site σ ι) (i : ι) (op : Locker.Operation)
      (hidle : (s.clients i).task = .idle)
      (hused : ∀ name ∈ op.name?, name ∈ used) :
      Step f used s (s.act i (op.start (f.locker i)))
  | proceed (s : Site σ ι) (i : ι) : Step f used s (s.act i ((s.clients i).task.step (f.locker i)))
  | elsewhere (s : Site σ ι) (world : σ) (hgrants : f.grants world = f.grants s.world) :
      Step f used s { s with world }

/-- Some steps of some clients, on locks with names in `used`. -/
def Reaches (f : Fleet σ ι) (used : Set String) : Site σ ι → Site σ ι → Prop :=
  Relation.ReflTransGen (f.Step used)

/-- The steps of a client are what the operations of its locker are made of. -/
structure Performs (f : Fleet σ ι) (used : Set String) (s : Site σ ι) (i : ι) : Prop where
  /-- An operation is its start and what is left then. -/
  started (op : Locker.Operation) :
    (op.start (f.locker i) >>= Locker.Task.finish (f.locker i)) = op.perform (f.locker i)
  /-- What is left is one step and what is left after it. -/
  continued (task : Locker.Task) :
    (task.step (f.locker i) >>= Locker.Task.finish (f.locker i)) = task.finish (f.locker i)
  /-- An idle client can perform an operation as a whole, if nothing comes between its steps. -/
  performed (op : Locker.Operation) (hidle : (s.clients i).task = .idle)
    (hused : ∀ name ∈ op.name?, name ∈ used) :
    f.Reaches used s (s.put i .idle ((op.perform (f.locker i)).run (s.holding i)).2)

end Fleet

/-! ### Steps and operations -/

/-- Polling allows one attempt at least. -/
theorem attemptBound_pos (delay timeout : Rat) : 0 < attemptBound delay timeout := by
  unfold attemptBound
  split
  · decide
  · omega

namespace Locker

variable (m : Locker σ) (name : String) (timeout deadline : Rat) (left : Nat)

theorem run_onHost {α : Type} (a : Action σ α) (h : Holding σ) :
    (onHost a).run h = ((a.run h.world).1, { h with world := (a.run h.world).2 }) := rfl

/-- Asking goes on after an attempt and a pause. -/
theorem keepAsking_eq :
    m.keepAsking name timeout deadline left = (do
      if ← m.scheme.attempt m.host name timeout then return true
      if ← m.pause deadline then
        match left with
        | 0 => return false
        | left + 1 => m.keepAsking name timeout deadline left
      else return false) := by
  apply Action.ext
  intro w
  rcases hattempt : (m.scheme.attempt m.host name timeout).run w with ⟨e | granted, w'⟩
  · cases hscheme : m.scheme <;> rw [hscheme] at hattempt <;>
      simp [keepAsking, hscheme, pollUntil, Action.run_bind, hattempt]
  cases hscheme : m.scheme <;> rw [hscheme] at hattempt <;> cases granted <;>
    simp only [keepAsking, pause, hscheme, pollUntil, Action.run_bind, hattempt, if_true,
      Bool.false_eq_true, if_false, Action.run_read, Action.run_pure]
  -- Polling has been refused, and goes on if there is time.
  case postgres.false delay =>
    by_cases hlate : deadline ≤ m.host.now w'
    · simp [hlate]
    · cases left <;> simp [hlate, Action.run_bind, pollUntil]

/-- A request for a lock is asking from the start. -/
theorem request_eq :
    m.scheme.request m.host name timeout = (do
      let start ← Action.read m.host.now
      m.keepAsking name timeout (start + timeout) (m.moreAttempts timeout)) := by
  cases hscheme : m.scheme with
  | postgres delay =>
      have hbound := attemptBound_pos delay timeout
      have hleft : attemptBound delay timeout - 1 + 1 = attemptBound delay timeout := by omega
      simp only [Scheme.request, keepAsking, moreAttempts, hscheme, poll, hleft]
  | mysql => simp only [Scheme.request, keepAsking, hscheme]; rfl
  | oracle mode releaseOnCommit => simp only [Scheme.request, keepAsking, hscheme]; rfl

/-- What is left after a step is what was left before it without that step. -/
theorem Task.step_finish (task : Task) : (task.step m >>= Task.finish m) = task.finish m := by
  apply Action.ext
  intro h
  cases task with
  | idle => rfl
  | trying name timeout deadline left =>
      simp only [Task.step, Task.finish, ask, keepAsking_eq m name timeout deadline left,
        Action.run_bind, run_onHost]
      rcases (m.scheme.attempt m.host name timeout).run h.world with ⟨e | granted, w⟩
      · rfl
      cases granted with
      | true => rfl
      | false =>
          simp only [list, Bool.false_eq_true, if_false, Action.run_pure, Action.run_bind,
            run_onHost]
          rcases (m.pause deadline).run w with ⟨e | more, w'⟩
          · rfl
          · cases more <;> cases left <;> simp [Action.run_bind, run_onHost]
  | releasing name =>
      simp only [Task.step, Task.finish, Action.run_bind]
      rcases (m.release name).run h with ⟨e | released, h'⟩ <;> rfl
  | releasingAll names =>
      cases names with
      | nil => rfl
      | cons name rest =>
          simp only [Task.step, Task.finish, releaseEach, Action.run_bind]
          rcases (m.releaseOrWarn name).run h with ⟨e | ⟨⟩, h'⟩ <;> rfl

/-- An action that succeeds has gone through its first part. -/
theorem run_bind_eq_ok {α β : Type} {a : Action σ α} {next : α → Action σ β} {s s' : σ} {v : β}
    (h : (a >>= next).run s = (.ok v, s')) :
    ∃ u s₁, a.run s = (.ok u, s₁) ∧ (next u).run s₁ = (.ok v, s') := by
  rw [Action.run_bind] at h
  rcases hrun : a.run s with ⟨e | u, s₁⟩ <;> rw [hrun] at h
  · cases h
  · exact ⟨u, s₁, rfl, h⟩

/-- A step brings a task nearer to its end. -/
theorem Task.size_step_lt {task task' : Task} {h h' : Holding σ} (hbusy : task ≠ .idle)
    (hstep : (task.step m).run h = (.ok task', h')) : task'.size < task.size := by
  cases task with
  | idle => exact absurd rfl hbusy
  | trying name timeout deadline left =>
      obtain ⟨granted, h₁, -, hstep⟩ := run_bind_eq_ok hstep
      cases granted with
      | true =>
          cases hstep
          simp [Task.size]
      | false =>
          obtain ⟨more, h₂, -, hstep⟩ := run_bind_eq_ok hstep
          cases more <;> cases left <;> cases hstep <;> simp [Task.size]
  | releasing name =>
      obtain ⟨_, _, -, hstep⟩ := run_bind_eq_ok hstep
      cases hstep
      simp [Task.size]
  | releasingAll names =>
      cases names with
      | nil =>
          cases hstep
          simp [Task.size]
      | cons name rest =>
          obtain ⟨_, _, -, hstep⟩ := run_bind_eq_ok hstep
          cases hstep
          simp [Task.size]

/-- An operation is its start and what is left then. -/
theorem Operation.start_finish (op : Operation) :
    (op.start m >>= Task.finish m) = op.perform m := by
  apply Action.ext
  intro h
  cases op with
  | acquire name timeout =>
      simp only [Operation.start, Operation.perform, Locker.acquire, request_eq, Action.run_bind,
        Action.run_read]
      cases hlisted : h.locks.contains name with
      | true => rfl
      | false =>
          simp only [Bool.false_eq_true, if_false, Action.run_bind, run_onHost, Action.run_read,
            Action.run_pure, Task.finish]
          rcases (m.keepAsking name timeout (m.host.now h.world + timeout)
            (m.moreAttempts timeout)).run h.world with ⟨e | granted, w⟩
          · rfl
          · cases granted <;> rfl
  | release name => rfl
  | releaseAll =>
      simp only [Operation.start, Operation.perform, Locker.releaseAll, Action.run_bind,
        Action.run_read, id]
      cases m.host.isOpen h.world <;> rfl

end Locker

/-! ### Clients that nothing comes between -/

namespace Site

variable [DecidableEq ι] (s : Site σ ι) (i : ι)

@[simp]
theorem clients_put_self (task : Locker.Task) (h : Holding σ) :
    (s.put i task h).clients i = ⟨h.locks, h.warnings, task⟩ := by
  simp [put]

theorem clients_put_of_ne {s : Site σ ι} {i j : ι} {task : Locker.Task} {h : Holding σ}
    (hj : j ≠ i) : (s.put i task h).clients j = s.clients j := by
  simp [put, hj]

@[simp]
theorem holding_put_self (task : Locker.Task) (h : Holding σ) : (s.put i task h).holding i = h := by
  simp [put, holding]

@[simp]
theorem put_put (task task' : Locker.Task) (h h' : Holding σ) :
    (s.put i task h).put i task' h' = s.put i task' h' := by
  simp [put]

end Site

namespace Fleet

variable [DecidableEq ι] {f : Fleet σ ι} {used : Set String}

/-- A client that nothing comes between gets to the end of what is left. -/
theorem reaches_finish (s : Site σ ι) (i : ι) (task : Locker.Task) (h : Holding σ) :
    f.Reaches used (s.put i task h)
      (s.put i .idle ((task.finish (f.locker i)).run h).2) := by
  -- Each step leaves a smaller task, with the same rest of the work.
  induction hsize : task.size using Nat.strongRecOn generalizing task h with
  | _ size ih =>
    by_cases hbusy : task = .idle
    · rw [hbusy]
      exact .refl
    have hproceed : f.Step used (s.put i task h)
        ((s.put i task h).act i (task.step (f.locker i))) := by
      have hstep : f.Step used _ _ := .proceed (s.put i task h) i
      rwa [Site.clients_put_self] at hstep
    refine .head hproceed ?_
    rw [← Locker.Task.step_finish, Action.run_bind, Site.act, Site.holding_put_self]
    rcases hrun : (task.step (f.locker i)).run h with ⟨e | task', h'⟩
    · simp only [Site.put_put]
      exact .refl
    · have hless := Locker.Task.size_step_lt (f.locker i) hbusy hrun
      simp only [Site.put_put]
      exact ih task'.size (hsize ▸ hless) task' h' rfl

/-- A client that acts and then goes on to the end of what is left does the whole. -/
theorem reaches_act (s : Site σ ι) (i : ι) (a : Action (Holding σ) Locker.Task) :
    f.Reaches used (s.act i a)
      (s.put i .idle ((a >>= Locker.Task.finish (f.locker i)).run (s.holding i)).2) := by
  rw [Action.run_bind, Site.act]
  rcases a.run (s.holding i) with ⟨e | task, h⟩
  · exact .refl
  · exact reaches_finish s i task h

/-- Every client performs the operations of its locker. -/
theorem performs (f : Fleet σ ι) (used : Set String) (s : Site σ ι) (i : ι) :
    f.Performs used s i where
  started := Locker.Operation.start_finish (f.locker i)
  continued := Locker.Task.step_finish (f.locker i)
  performed op hidle hused := by
    rw [← Locker.Operation.start_finish]
    exact .head (.start s i op hidle hused) (reaches_act s i _)

end Fleet

end SqlLoom
