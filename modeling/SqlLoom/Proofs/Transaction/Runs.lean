import Mathlib.Logic.Relation
import SqlLoom.Proofs.Transaction.History
import SqlLoom.Proofs.Transaction.Transitions
import SqlLoom.Rehearsal.Recorder

/-!
# `SqlLoom.Proofs.Transaction.Runs`: commands stay in order under failures

A manager on a connection that may refuse any command, and may open and close by itself. Which
commands it issues is seen in the history of a link that writes it down: `Link.traced`.

* `Operation.turns`: each transition is a `Turn`, whatever the connection does.
* `Move` and `Path`: transitions in any order, and between any two of them the connection may change
  as it likes. `Path.orderly`: on a path the level is the one that the history leads to.
* `Program`: the code of callers, with units of work nested to any depth and failures thrown and
  caught anywhere. `Program.walks`: what a program does is a path.
* `commands_in_order` puts these together.
-/

set_option autoImplicit false

namespace SqlLoom

variable {σ α β : Type}

/-! ### Links that keep a history -/

/-- The state of a connection, with the history of the commands issued on it. -/
structure Traced (σ : Type) where
  world : σ
  history : List Event

/-- Whether an outcome is not an error. -/
def succeeds : Except Error α → Bool
  | .ok _ => true
  | .error _ => false

/-- A link that writes down every command with its success. -/
def Link.traced (l : Link σ) : Link (Traced σ) where
  dialect := l.dialect
  isOpen t := l.isOpen t.world
  wantsSavepoints t := l.wantsSavepoints t.world
  issue c := fun t =>
    let (outcome, world) := (l.issue c).run t.world
    (outcome, ⟨world, t.history ++ [⟨c, succeeds outcome⟩]⟩)

/-- The manager with its link traced. -/
def Manager.traced (m : Manager σ) : Manager (Traced σ) := ⟨m.link?.map Link.traced, m.savepoints?⟩

/-- The session without the history. -/
def Session.untraced (s : Session (Traced σ)) : Session σ := ⟨s.level, s.warnings, s.world.world⟩

namespace Manager

/-- A command does on the connection what it does without the history, and is written down. -/
theorem run_send_traced (l : Link σ) (c : Command) (s : Session (Traced σ)) :
    ∃ outcome world, (l.issue c).run s.world.world = (outcome, world) ∧
      (send l.traced c).run s = (outcome, { s with
        world := ⟨world, s.world.history ++ [⟨c, succeeds outcome⟩]⟩ }) :=
  ⟨_, _, rfl, rfl⟩

theorem usesSavepoints_traced (m : Manager σ) (s : Session (Traced σ)) :
    m.traced.usesSavepoints s = m.usesSavepoints s.untraced := by
  unfold usesSavepoints traced
  cases m.link? <;> rfl

/-- The link of a traced manager is a traced one. -/
theorem link?_traced {m : Manager σ} {l' : Link (Traced σ)} (h : m.traced.link? = some l') :
    ∃ l : Link σ, l' = l.traced := by
  obtain ⟨l, -, rfl⟩ := Option.map_eq_some_iff.mp h
  exact ⟨l, rfl⟩

theorem innermost?_traced {m : Manager σ} {s : Session (Traced σ)} {l' : Link (Traced σ)} {n : Nat}
    (h : m.traced.innermost? s = some (l', n)) :
    ∃ l : Link σ, l' = l.traced ∧ s.level = n + 1 := by
  obtain ⟨hlink, hlevel, -⟩ := innermost?_eq_some_iff.mp h
  obtain ⟨l, rfl⟩ := link?_traced hlink
  exact ⟨l, rfl, hlevel⟩

end Manager

/-! ### Transitions as turns -/

/-- What leads from one session to another is a turn. -/
def Turns (uses : Bool) (s s' : Session (Traced σ)) : Prop :=
  ∃ es, s'.world.history = s.world.history ++ es ∧ Turn uses s.level es s'.level

/-- A transition of a manager. -/
inductive Operation where
  | begin_ (isolation? : Option String)
  | commit
  | rollback
  | setIsolation (level : String)

/-- A transition as an action. -/
def Operation.perform (m : Manager σ) : Operation → Action (Session σ) Unit
  | .begin_ isolation? => m.begin_ isolation?
  | .commit => m.commit
  | .rollback => m.rollback
  | .setIsolation level => m.setIsolation level

namespace Turns

variable {uses : Bool} {s : Session (Traced σ)} {m : Manager σ} {l : Link σ} {n : Nat}
  {c : Command}

theorem refl (uses : Bool) (s : Session (Traced σ)) : Turns uses s s :=
  ⟨[], by simp, .quiet _ (by simp)⟩

/-- A command whose success does not decide the level. -/
theorem send {level : Nat} (hturn : ∀ ok, Turn uses s.level [⟨c, ok⟩] level) :
    Turns uses s ((Manager.send l.traced c).run { s with level }).2 := by
  obtain ⟨outcome, world, -, hsend⟩ := Manager.run_send_traced l c { s with level }
  rw [hsend]
  exact ⟨_, rfl, hturn _⟩

/-- What is announced before a transaction begins is not about transactions. -/
theorem announce (l : Link σ) (isolation? : Option String) (s : Session (Traced σ)) :
    ∃ outcome s' es, (Manager.announce l.traced isolation?).run s = (outcome, s') ∧
      s'.level = s.level ∧ s'.world.history = s.world.history ++ es ∧ ∀ e ∈ es, e.Isolates := by
  unfold Manager.announce
  cases isolation? with
  | none => exact ⟨.ok (), s, [], rfl, rfl, by simp, by simp⟩
  | some level =>
      dsimp only
      split
      · obtain ⟨outcome, world, -, hsend⟩ := Manager.run_send_traced l (.setIsolation level) s
        exact ⟨_, _, _, hsend, rfl, rfl, by simp [Event.Isolates]⟩
      · exact ⟨.ok (), _, [], rfl, rfl, by simp, by simp⟩

/-- The outermost transaction begins or does not; the level says which. -/
theorem beginOutermost (l : Link σ) (isolation? : Option String) (hlevel : s.level = 0) :
    ∃ outcome s', (Manager.beginOutermost l.traced isolation?).run s = (outcome, s') ∧
      Turns uses s s' ∧ ∀ e, outcome = .error e → s'.level = s.level := by
  rw [Manager.beginOutermost_eq, Action.run_bind]
  obtain ⟨outcome, s₁, es, hannounce, hlevel₁, hhistory₁, hes⟩ := announce l isolation? s
  rw [hannounce]
  rcases outcome with e | ⟨⟩
  · refine ⟨_, _, rfl, ⟨es, hhistory₁, ?_⟩, fun _ _ => hlevel₁⟩
    rw [hlevel₁]
    exact .quiet _ hes
  · dsimp only
    obtain ⟨outcome, world, -, hsend⟩ := Manager.run_send_traced l .begin_ s₁
    rw [Action.run_bind, hsend]
    rcases outcome with e | ⟨⟩
    · refine ⟨_, _, rfl, ⟨es ++ [⟨.begin_, false⟩], by simp [hhistory₁, succeeds], ?_⟩,
        fun _ _ => hlevel₁⟩
      simp only [hlevel₁, hlevel]
      exact .notBegun hes
    · refine ⟨_, _, rfl, ⟨es ++ [⟨.begin_, true⟩], ?_, ?_⟩, nofun⟩
      · simp [hhistory₁, succeeds]
      · rw [hlevel]
        exact .begun hes

/-- An inner transaction begins or does not; the level says which. -/
theorem beginNested (huses : ∀ s : Session σ, m.usesSavepoints s = uses) (l : Link σ)
    (hlevel : s.level = n + 1) :
    ∃ outcome s', (m.traced.beginNested l.traced (n + 1)).run s = (outcome, s') ∧
      Turns uses s s' ∧ ∀ e, outcome = .error e → s'.level = s.level := by
  rw [Manager.run_beginNested, Manager.usesSavepoints_traced, huses]
  cases uses with
  | false =>
      refine ⟨_, _, rfl, ⟨[], by simp, ?_⟩, nofun⟩
      rw [hlevel]
      exact .flattened n rfl
  | true =>
      obtain ⟨outcome, world, -, hsend⟩ := Manager.run_send_traced l (.savepoint (n + 1)) s
      simp only [if_true, hsend]
      rcases outcome with e | ⟨⟩
      · refine ⟨_, _, rfl, ⟨_, rfl, ?_⟩, fun _ _ => rfl⟩
        simp only [hlevel]
        exact .notSaved n
      · refine ⟨_, _, rfl, ⟨_, rfl, ?_⟩, nofun⟩
        rw [hlevel]
        exact .saved n

end Turns

namespace Operation

variable {uses : Bool} {s : Session (Traced σ)} {m : Manager σ}

/-- To begin is a turn, and a beginning that fails leaves the level as it was. -/
theorem turns_begin (huses : ∀ s : Session σ, m.usesSavepoints s = uses)
    (isolation? : Option String) (s : Session (Traced σ)) :
    ∃ outcome s', (m.traced.begin_ isolation?).run s = (outcome, s') ∧
      Turns uses s s' ∧ ∀ e, outcome = .error e → s'.level = s.level := by
  cases hopen : m.traced.isOpen s with
  | false => exact ⟨_, s, Manager.run_begin_of_not_open hopen isolation?, .refl uses s, by simp⟩
  | true =>
      cases hlink : m.traced.link? with
      | none => simp [Manager.isOpen, hlink] at hopen
      | some l' =>
          obtain ⟨l, rfl⟩ := Manager.link?_traced hlink
          have hopen' : l.traced.isOpen s.world = true := by
            simpa [Manager.isOpen, hlink] using hopen
          have hbegin := Manager.run_begin hlink hopen' isolation?
          obtain hlevel | ⟨n, hlevel⟩ : s.level = 0 ∨ ∃ n, s.level = n + 1 := by
            cases s.level <;> simp
          · rw [hlevel] at hbegin
            rw [hbegin]
            exact Turns.beginOutermost l isolation? hlevel
          · rw [hlevel] at hbegin
            rw [hbegin]
            exact Turns.beginNested huses l hlevel

/-- To commit is a turn. -/
theorem turns_commit (huses : ∀ s : Session σ, m.usesSavepoints s = uses)
    (s : Session (Traced σ)) : Turns uses s (m.traced.commit.run s).2 := by
  cases hinner : m.traced.innermost? s with
  | none =>
      rw [Manager.run_commit_of_inactive hinner]
      exact .refl uses s
  | some inner =>
      obtain ⟨l', n⟩ := inner
      obtain ⟨l, rfl, hlevel⟩ := Manager.innermost?_traced hinner
      rw [Manager.run_commit hinner, Manager.usesSavepoints_traced, huses]
      cases n with
      | zero =>
          rw [if_pos rfl]
          apply Turns.send
          rw [hlevel]
          exact fun _ => .ended (.inl rfl)
      | succ n =>
          rw [if_neg (by simp)]
          split
          · rename_i hreleased
            apply Turns.send
            rw [hlevel]
            exact fun _ => .closed n (by simp at hreleased; exact hreleased.1) (.inl rfl)
          · refine ⟨[], by simp, ?_⟩
            rw [hlevel]
            exact .left n

/-- To roll back is a turn. -/
theorem turns_rollback (huses : ∀ s : Session σ, m.usesSavepoints s = uses)
    (s : Session (Traced σ)) : Turns uses s (m.traced.rollback.run s).2 := by
  cases hinner : m.traced.innermost? s with
  | none =>
      rw [Manager.run_rollback_of_inactive hinner]
      exact .refl uses s
  | some inner =>
      obtain ⟨l', n⟩ := inner
      obtain ⟨l, rfl, hlevel⟩ := Manager.innermost?_traced hinner
      rw [Manager.run_rollback hinner, Manager.usesSavepoints_traced, huses]
      cases n with
      | zero =>
          rw [if_pos rfl]
          apply Turns.send
          rw [hlevel]
          exact fun _ => .ended (.inr rfl)
      | succ n =>
          rw [if_neg (by simp)]
          split
          · rename_i hsaves
            apply Turns.send
            rw [hlevel]
            exact fun _ => .closed n hsaves (.inr rfl)
          · refine ⟨[], by simp, ?_⟩
            rw [hlevel]
            exact .left n

/-- To set the isolation level is a turn. -/
theorem turns_setIsolation (level : String) (s : Session (Traced σ)) :
    Turns uses s ((m.traced.setIsolation level).run s).2 := by
  cases hinner : m.traced.innermost? s with
  | none =>
      rw [Manager.run_setIsolation_of_inactive hinner]
      exact .refl uses s
  | some inner =>
      obtain ⟨l', n⟩ := inner
      obtain ⟨l, rfl, -⟩ := Manager.innermost?_traced hinner
      rw [Manager.run_setIsolation hinner]
      exact @Turns.send σ uses s l _ s.level fun _ => .quiet _ (by simp [Event.Isolates])

/-- Each transition is a turn. -/
theorem turns (huses : ∀ s : Session σ, m.usesSavepoints s = uses) (op : Operation)
    (s : Session (Traced σ)) : Turns uses s ((op.perform m.traced).run s).2 := by
  cases op with
  | begin_ isolation? =>
      obtain ⟨outcome, s', hbegin, hturns, -⟩ := turns_begin huses isolation? s
      show Turns uses s ((m.traced.begin_ isolation?).run s).2
      rw [hbegin]
      exact hturns
  | commit => exact turns_commit huses s
  | rollback => exact turns_rollback huses s
  | setIsolation level => exact turns_setIsolation level s

end Operation

/-! ### Paths -/

/-- A transition, or a change of the connection that no transition has made. -/
inductive Move (m : Manager σ) : Session (Traced σ) → Session (Traced σ) → Prop where
  | operate (s : Session (Traced σ)) (op : Operation) : Move m s ((op.perform m.traced).run s).2
  | drift (s : Session (Traced σ)) (warnings : List Warning) (world : σ) :
      Move m s { s with warnings, world := { s.world with world } }

/-- Transitions and changes of the connection in any order. -/
def Path (m : Manager σ) : Session (Traced σ) → Session (Traced σ) → Prop :=
  Relation.ReflTransGen (Move m)

/-- On a path the level stays the one that the history leads to. -/
theorem Path.orderly {m : Manager σ} {uses : Bool} {s s' : Session (Traced σ)}
    (huses : ∀ s : Session σ, m.usesSavepoints s = uses) (hpath : Path m s s')
    (h : Orderly uses s.level s.world.history) : Orderly uses s'.level s'.world.history := by
  induction hpath with
  | refl => exact h
  | tail _ hstep ih =>
      cases hstep with
      | operate op =>
          obtain ⟨es, hhistory, hturn⟩ := op.turns huses _
          rw [hhistory]
          exact hturn.orderly ih
      | drift => exact ih

/-- An action that leads along a path. -/
def Walks (m : Manager σ) (a : Action (Session (Traced σ)) α) : Prop :=
  ∀ s, Path m s (a.run s).2

namespace Walks

variable {m : Manager σ} {a : Action (Session (Traced σ)) α}

theorem pure (v : α) : Walks m (Pure.pure v) := fun _ => .refl

theorem throw (e : Error) : Walks m (throw e : Action (Session (Traced σ)) α) := fun _ => .refl

theorem read (f : Session (Traced σ) → α) : Walks m (Action.read f) := fun _ => .refl

theorem warn (w : Warning) : Walks m (Manager.warn w) := fun s =>
  .single (.drift s (s.warnings ++ [w]) s.world.world)

theorem operate (op : Operation) : Walks m (op.perform m.traced) := fun s =>
  .single (.operate s op)

theorem bind {next : α → Action (Session (Traced σ)) β} (ha : Walks m a)
    (hnext : ∀ v, Walks m (next v)) : Walks m (a >>= next) := by
  intro s
  have hfirst := ha s
  rw [Action.run_bind]
  rcases hrun : a.run s with ⟨e | v, s'⟩ <;> rw [hrun] at hfirst
  · exact hfirst
  · exact hfirst.trans (hnext v s')

theorem tryCatch {handle : Error → Action (Session (Traced σ)) α} (ha : Walks m a)
    (hhandle : ∀ e, Walks m (handle e)) : Walks m (tryCatch a handle) := by
  intro s
  have hfirst := ha s
  rw [Action.run_tryCatch]
  rcases hrun : a.run s with ⟨e | v, s'⟩ <;> rw [hrun] at hfirst
  · exact hfirst.trans (hhandle e s')
  · exact hfirst

theorem ite (p : Prop) [Decidable p] {b : Action (Session (Traced σ)) α} (ha : Walks m a)
    (hb : Walks m b) : Walks m (if p then a else b) := by
  split
  · exact ha
  · exact hb

/-- A unit of work is made of transitions. -/
theorem unit (isolation? : Option String) (ha : Walks m a) :
    Walks m (m.traced.run isolation? a) := by
  have hcommit (level : Nat) : Walks m (m.traced.commitInnermost level) :=
    (read _).bind fun _ => ite _ (operate .commit) (pure _)
  have hrollback (level : Nat) : Walks m (m.traced.rollbackOnError level) := by
    refine (read _).bind fun _ => ite _ ?_ (pure _)
    exact (operate .rollback).tryCatch fun e => ite _ (warn _) (throw e)
  rw [Manager.run_eq]
  refine (operate (.begin_ isolation?)).bind fun _ => (read _).bind fun level => ?_
  refine tryCatch ?_ fun e => (hrollback level).bind fun _ => throw e
  exact ha.bind fun v => (hcommit level).bind fun _ => pure v

end Walks

/-! ### Programs -/

/-- What is done on a connection beside the transitions. -/
def Action.outside (a : Action σ α) : Action (Session (Traced σ)) α :=
  a.onPart (fun s => s.world.world) fun world s => { s with world := { s.world with world } }

/-- Code that uses a manager and its connection. It may look at anything, throw and catch, and do on
the connection whatever is not a transition, which may fail as well, or open or close it. -/
inductive Program (m : Manager σ) : {α : Type} → Action (Session (Traced σ)) α → Prop where
  | done {α : Type} (v : α) : Program m (pure v)
  | fail {α : Type} (e : Error) : Program m (throw e : Action (Session (Traced σ)) α)
  | look {α : Type} (f : Session (Traced σ) → α) : Program m (Action.read f)
  | outside {α : Type} (a : Action σ α) : Program m a.outside
  | operate (op : Operation) : Program m (op.perform m.traced)
  | bind {α β : Type} {a : Action (Session (Traced σ)) α}
      {next : α → Action (Session (Traced σ)) β} (ha : Program m a)
      (hnext : ∀ v, Program m (next v)) : Program m (a >>= next)
  | tryCatch {α : Type} {a : Action (Session (Traced σ)) α}
      {handle : Error → Action (Session (Traced σ)) α} (ha : Program m a)
      (hhandle : ∀ e, Program m (handle e)) : Program m (tryCatch a handle)
  | unit {α : Type} {a : Action (Session (Traced σ)) α} (isolation? : Option String)
      (ha : Program m a) : Program m (m.traced.run isolation? a)

/-- A program leads along a path. -/
theorem Program.walks {m : Manager σ} {a : Action (Session (Traced σ)) α} (h : Program m a) :
    Walks m a := by
  induction h with
  | done v => exact .pure v
  | fail e => exact .throw e
  | look f => exact .read f
  | outside a => exact fun s => .single (.drift s s.warnings (a.run s.world.world).2)
  | operate op => exact .operate op
  | bind _ _ ha hnext => exact ha.bind hnext
  | tryCatch _ _ ha hhandle => exact ha.tryCatch hhandle
  | unit isolation? _ ha => exact ha.unit isolation?

/-! ### The order of the commands -/

/-- Wherever transitions lead from a session without a history, on a connection that may refuse any
command and change at any time:

* the level is positive exactly while a native transaction is active, and each command was issued
  when it was permitted;
* between two native transactions that begin, one end was attempted;
* the next transition begins a native transaction from level 0 only and ends one from level 1 only,
  and a beginning that fails leaves the level as it was.

Whatever a program does from there leads on along such a path. -/
theorem commands_in_order (m : Manager σ) (uses : Bool)
    (huses : ∀ s : Session σ, m.usesSavepoints s = uses) (world : σ) (s : Session (Traced σ))
    (hpath : Path m (.start ⟨world, []⟩) s) :
    (0 < s.level ↔ Active s.world.history) ∧ Ordered s.world.history ∧
    (∀ before between after, s.world.history
        = before ++ ⟨.begin_, true⟩ :: between ++ ⟨.begin_, true⟩ :: after →
      (∀ e ∈ between, ¬ e.Begins) → between.countP (·.Ends) = 1) ∧
    (∀ op : Operation, ∃ es,
      ((op.perform m.traced).run s).2.world.history = s.world.history ++ es ∧
      (∀ e ∈ es, e.command = .begin_ → s.level = 0) ∧
      ∀ e ∈ es, e.Ends → s.level = 1 ∧ ((op.perform m.traced).run s).2.level = 0) ∧
    (∀ isolation? e s', (m.traced.begin_ isolation?).run s = (.error e, s') →
      s'.level = s.level) ∧
    ∀ (α : Type) (a : Action (Session (Traced σ)) α), Program m a → Path m s (a.run s).2 := by
  have h : Orderly uses s.level s.world.history := hpath.orderly huses (.start uses)
  refine ⟨h.active, h.ordered, ?_, ?_, ?_, fun _ _ hprogram => hprogram.walks s⟩
  · intro before between after hsplit hnext
    exact Ordered.ended_once (hsplit ▸ h.ordered) hnext
  · intro op
    obtain ⟨es, hhistory, hturn⟩ := op.turns huses s
    exact ⟨es, hhistory, fun e he => hturn.level_of_begin he, fun e he => hturn.level_of_end he⟩
  · intro isolation? e s' hfailed
    obtain ⟨outcome, s'', hbegin, -, hlevel⟩ := Operation.turns_begin huses isolation? s
    obtain ⟨rfl, rfl⟩ := Prod.mk.inj (hbegin.symm.trans hfailed)
    exact hlevel e rfl

/-- A unit of work inside another one fails, and so does the command that would roll it back. -/
theorem commands_in_order_failing :
    let m : Manager Recorder := ⟨some (Recorder.link (.standard .ansi)), some true⟩
    let recorder : Recorder := { failures := [(.execute, .external "no savepoint")] }
    let program := m.traced.run none (m.traced.run none (throw .badValue) : Action _ Unit)
    let s := (program.run (.start ⟨recorder, []⟩)).2
    s.world.history = [⟨.begin_, true⟩, ⟨.savepoint 1, false⟩, ⟨.rollback, true⟩] ∧
      (0 < s.level ↔ Active s.world.history) := by
  intro m recorder program s
  have hprogram : Program m program := .unit none (.unit none (.fail .badValue))
  have hpath : Path m (.start ⟨recorder, []⟩) s := hprogram.walks _
  exact ⟨rfl, (commands_in_order m true (fun _ => rfl) recorder s hpath).1⟩

end SqlLoom
