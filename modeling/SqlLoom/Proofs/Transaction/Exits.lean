import SqlLoom.Proofs.Transaction.Transitions
import SqlLoom.Rehearsal.Recorder

/-!
# `SqlLoom.Proofs.Transaction.Exits`: the exits of a unit of work

A unit of work may end because its transaction does not begin, because the work fails, because the
commit fails, or because the rollback fails, and a rollback may be told to stop. Whatever the way
out, the nesting level is what it was before, provided that the work itself leaves the level where
it found it.

What is done on the way is written down. `UnitSteps` are the steps that a unit of work is put
together from, over any states; with the steps of a manager `UnitSteps.run` is `Manager.run`
itself. `UnitSteps.noted` are the same steps over states with a list of attempts, and what they do
to a state is what the steps do that write nothing down (`UnitSteps.erases`).

* `Course` lists the six ways through a unit of work: its attempts in order, and its outcome.
* `Manager.course_noted`: work that leaves the level alone takes one of these ways, and the level is
  restored.
* `Units.restores`: units of work nested to any depth leave the level alone, by induction.
* `run_restores_level` puts these together.
-/

set_option autoImplicit false

namespace SqlLoom

variable {σ τ α β : Type}

/-! ### The steps of a unit of work -/

/-- What a unit of work is put together from. -/
structure UnitSteps (τ α : Type) where
  begin_ : Action τ Unit
  level : τ → Nat
  /-- The transaction of the given level is the innermost active one. -/
  isInnermost : Nat → τ → Bool
  work : Action τ α
  commit : Action τ Unit
  rollback : Action τ Unit
  /-- Says that a rollback has failed. -/
  warnFailed : Action τ Unit

namespace UnitSteps

/-- Commits the transaction of the given level, if it is still the innermost one. -/
def commitInnermost (u : UnitSteps τ α) (level : Nat) : Action τ Unit := do
  if ← Action.read (u.isInnermost level) then u.commit

/-- Rolls back the transaction of the given level after a failure, if it is still the innermost
one. -/
def rollbackOnError (u : UnitSteps τ α) (level : Nat) : Action τ Unit := do
  if ← Action.read (u.isInnermost level) then
    try u.rollback
    catch e => if e.isRecoverable then u.warnFailed else throw e

/-- Runs the steps of a unit of work. -/
def run (u : UnitSteps τ α) : Action τ α := do
  u.begin_
  let level ← Action.read u.level
  tryCatch (do
      let result ← u.work
      u.commitInnermost level
      pure result)
    fun e => do
      u.rollbackOnError level
      throw e

variable {u : UnitSteps τ α} {t t₁ t₂ t₃ t₄ : τ}

theorem run_refused {e : Error} (hbegin : u.begin_.run t = (.error e, t₁)) :
    u.run.run t = (.error e, t₁) := by
  rw [run, Action.run_bind, hbegin]

/-- Work that is done is committed. -/
theorem run_done {v : α} (hbegin : u.begin_.run t = (.ok (), t₁))
    (hwork : u.work.run t₁ = (.ok v, t₂)) (hinner : u.isInnermost (u.level t₁) t₂ = true)
    (hcommit : u.commit.run t₂ = (.ok (), t₃)) : u.run.run t = (.ok v, t₃) := by
  simp [run, commitInnermost, Action.run_bind, Action.run_tryCatch, hbegin, hwork, hinner, hcommit]

/-- The failure of a commit that leaves its level calls for no rollback. -/
theorem run_undone {v : α} {e : Error} (hbegin : u.begin_.run t = (.ok (), t₁))
    (hwork : u.work.run t₁ = (.ok v, t₂)) (hinner : u.isInnermost (u.level t₁) t₂ = true)
    (hcommit : u.commit.run t₂ = (.error e, t₃)) (hleft : u.isInnermost (u.level t₁) t₃ = false) :
    u.run.run t = (.error e, t₃) := by
  simp [run, commitInnermost, rollbackOnError, Action.run_bind, Action.run_tryCatch, hbegin, hwork,
    hinner, hcommit, hleft]

/-- Work that fails is rolled back. -/
theorem run_failed {e : Error} (hbegin : u.begin_.run t = (.ok (), t₁))
    (hwork : u.work.run t₁ = (.error e, t₂)) (hinner : u.isInnermost (u.level t₁) t₂ = true)
    (hrollback : u.rollback.run t₂ = (.ok (), t₃)) : u.run.run t = (.error e, t₃) := by
  simp [run, rollbackOnError, Action.run_bind, Action.run_tryCatch, hbegin, hwork, hinner,
    hrollback]

/-- A rollback that fails is a warning beside the failure of the work. -/
theorem run_failed_kept {e e' : Error} (hbegin : u.begin_.run t = (.ok (), t₁))
    (hwork : u.work.run t₁ = (.error e, t₂)) (hinner : u.isInnermost (u.level t₁) t₂ = true)
    (hrollback : u.rollback.run t₂ = (.error e', t₃)) (h : e'.isRecoverable = true)
    (hwarn : u.warnFailed.run t₃ = (.ok (), t₄)) : u.run.run t = (.error e, t₄) := by
  simp [run, rollbackOnError, Action.run_bind, Action.run_tryCatch, hbegin, hwork, hinner,
    hrollback, h, hwarn]

/-- A rollback that is told to stop hides the failure of the work. -/
theorem run_failed_interrupted {e e' : Error} (hbegin : u.begin_.run t = (.ok (), t₁))
    (hwork : u.work.run t₁ = (.error e, t₂)) (hinner : u.isInnermost (u.level t₁) t₂ = true)
    (hrollback : u.rollback.run t₂ = (.error e', t₃)) (h : e'.isRecoverable = false) :
    u.run.run t = (.error e', t₃) := by
  simp [run, rollbackOnError, Action.run_bind, Action.run_tryCatch, hbegin, hwork, hinner,
    hrollback, h]

end UnitSteps

/-- The steps of a manager's unit of work. -/
def Manager.steps (m : Manager σ) (isolation? : Option String) (work : Action (Session σ) α) :
    UnitSteps (Session σ) α where
  begin_ := m.begin_ isolation?
  level := Session.level
  isInnermost := m.isInnermost
  work := work
  commit := m.commit
  rollback := m.rollback
  warnFailed := Manager.warn .rollbackFailed

theorem Manager.run_eq_steps (m : Manager σ) (isolation? : Option String)
    (work : Action (Session σ) α) : m.run isolation? work = (m.steps isolation? work).run :=
  run_eq m isolation? work

/-! ### Attempts -/

/-- A step that was taken, and how it came out. A commit and a rollback are those of the level that
they start on. -/
inductive Attempt (α : Type) where
  | begin_ (outcome : Except Error Unit)
  | work (outcome : Except Error α)
  | commit (level : Nat) (outcome : Except Error Unit)
  | rollback (level : Nat) (outcome : Except Error Unit)

/-- A state with the attempts so far. -/
structure Noted (τ α : Type) where
  state : τ
  attempts : List (Attempt α)

/-- An action that writes itself down as an attempt. -/
def Action.noted (attempt : τ → Except Error β → Attempt α) (a : Action τ β) :
    Action (Noted τ α) β :=
  fun t =>
    let (outcome, state) := a.run t.state
    (outcome, ⟨state, t.attempts ++ [attempt t.state outcome]⟩)

theorem Action.run_noted (attempt : τ → Except Error β → Attempt α) {a : Action τ β} {s s' : τ}
    {outcome : Except Error β} (h : a.run s = (outcome, s')) (attempts : List (Attempt α)) :
    (a.noted attempt).run ⟨s, attempts⟩ = (outcome, ⟨s', attempts ++ [attempt s outcome]⟩) := by
  show ((a.run s).1, (⟨(a.run s).2, attempts ++ [attempt s (a.run s).1]⟩ : Noted τ α)) = _
  rw [h]

/-- The steps, each of which writes itself down. -/
def UnitSteps.noted (u : UnitSteps τ α) : UnitSteps (Noted τ α) α where
  begin_ := u.begin_.noted fun _ => .begin_
  level t := u.level t.state
  isInnermost level t := u.isInnermost level t.state
  work := u.work.noted fun _ => .work
  commit := u.commit.noted fun s => .commit (u.level s)
  rollback := u.rollback.noted fun s => .rollback (u.level s)
  warnFailed := u.warnFailed.onPart Noted.state fun state t => { t with state }

/-- Apart from the attempts, the one action does what the other does. -/
def Action.Erases (b : Action (Noted τ α) β) (a : Action τ β) : Prop :=
  ∀ t, a.run t.state = ((b.run t).1, (b.run t).2.state)

namespace Action.Erases

variable {γ : Type} {b : Action (Noted τ α) β} {a : Action τ β}

theorem bind {next' : β → Action (Noted τ α) γ} {next : β → Action τ γ} (h : b.Erases a)
    (hnext : ∀ v, (next' v).Erases (next v)) : (b >>= next').Erases (a >>= next) := by
  intro t
  rw [Action.run_bind, Action.run_bind, h t]
  rcases b.run t with ⟨e | v, t'⟩
  · rfl
  · exact hnext v t'

theorem tryCatch {handle' : Error → Action (Noted τ α) β} {handle : Error → Action τ β}
    (h : b.Erases a) (hhandle : ∀ e, (handle' e).Erases (handle e)) :
    (tryCatch b handle').Erases (tryCatch a handle) := by
  intro t
  rw [Action.run_tryCatch, Action.run_tryCatch, h t]
  rcases b.run t with ⟨e | v, t'⟩
  · exact hhandle e t'
  · rfl

theorem ite (p : Prop) [Decidable p] {b' : Action (Noted τ α) β} {a' : Action τ β} (h : b.Erases a)
    (h' : b'.Erases a') : (if p then b else b').Erases (if p then a else a') := by
  split
  · exact h
  · exact h'

end Action.Erases

/-- To write the attempts down changes nothing else. -/
theorem UnitSteps.erases (u : UnitSteps τ α) : u.noted.run.Erases u.run := by
  have hread {γ : Type} (f : τ → γ) :
      (Action.read fun t : Noted τ α => f t.state).Erases (Action.read f) := fun _ => rfl
  have hthrow {γ : Type} (e : Error) :
      (throw e : Action (Noted τ α) γ).Erases (throw e) := fun _ => rfl
  have hrollback (level : Nat) :
      (u.noted.rollbackOnError level).Erases (u.rollbackOnError level) := by
    refine (hread (u.isInnermost level)).bind fun _ => .ite _ ?_ fun _ => rfl
    exact .tryCatch (fun _ => rfl) fun e => .ite _ (fun _ => rfl) (hthrow e)
  have hcommit (level : Nat) :
      (u.noted.commitInnermost level).Erases (u.commitInnermost level) :=
    (hread (u.isInnermost level)).bind fun _ => .ite _ (fun _ => rfl) fun _ => rfl
  have hbegin : u.noted.begin_.Erases u.begin_ := fun _ => rfl
  have hwork : u.noted.work.Erases u.work := fun _ => rfl
  refine hbegin.bind fun _ => (hread u.level).bind fun level => ?_
  refine .tryCatch (hwork.bind fun v => (hcommit level).bind fun _ _ => rfl) fun e => ?_
  exact (hrollback level).bind fun _ => hthrow e

/-! ### The six exits -/

/-- The ways through a unit of work whose transaction has the given level: the attempts in order,
and the outcome. The work is done at most once, and only after a transaction has begun; then that
transaction is ended once, by a commit if the work came to an end and by a rollback if it failed. -/
inductive Course (level : Nat) : List (Attempt α) → Except Error α → Prop where
  /-- The transaction does not begin. -/
  | refused (e : Error) : Course level [.begin_ (.error e)] (.error e)
  | committed (v : α) :
      Course level [.begin_ (.ok ()), .work (.ok v), .commit level (.ok ())] (.ok v)
  /-- The commit fails, and is not followed by a rollback. -/
  | uncommitted (v : α) (e : Error) :
      Course level [.begin_ (.ok ()), .work (.ok v), .commit level (.error e)] (.error e)
  | rolledBack (e : Error) :
      Course level [.begin_ (.ok ()), .work (.error e), .rollback level (.ok ())] (.error e)
  /-- The rollback fails as well, and the failure of the work is kept. -/
  | kept (e e' : Error) (h : e'.isRecoverable = true) :
      Course level [.begin_ (.ok ()), .work (.error e), .rollback level (.error e')] (.error e)
  /-- The rollback is told to stop, which takes the place of the failure of the work. -/
  | interrupted (e e' : Error) (h : e'.isRecoverable = false) :
      Course level [.begin_ (.ok ()), .work (.error e), .rollback level (.error e')] (.error e')

namespace UnitSteps

variable {u : UnitSteps τ α} {t t₁ t₂ : τ} {n : Nat}

/-- Work that is done: a commit follows, and nothing else if that leaves its level. -/
theorem course_done {v : α} (hbegin : u.begin_.run t = (.ok (), t₁))
    (hwork : u.work.run t₁ = (.ok v, t₂)) (hlevel : u.level t₂ = n)
    (hinner : u.isInnermost (u.level t₁) t₂ = true)
    (hleft : u.isInnermost (u.level t₁) (u.commit.run t₂).2 = false) :
    let noted := u.noted.run.run ⟨t, []⟩
    noted.2.state = (u.commit.run t₂).2 ∧ Course n noted.2.attempts noted.1 := by
  intro noted
  -- Each call is followed together with the attempts that are noted so far.
  have hbegun : u.noted.begin_.run ⟨t, []⟩ = (.ok (), ⟨t₁, [.begin_ (.ok ())]⟩) :=
    Action.run_noted (fun _ => .begin_) hbegin []
  have hworked : u.noted.work.run ⟨t₁, [.begin_ (.ok ())]⟩
      = (.ok v, ⟨t₂, [.begin_ (.ok ()), .work (.ok v)]⟩) :=
    Action.run_noted (fun _ => .work) hwork _
  obtain ⟨outcome, t₃, hcommit⟩ : ∃ outcome t₃, u.commit.run t₂ = (outcome, t₃) := ⟨_, _, rfl⟩
  have hcommitted : u.noted.commit.run ⟨t₂, [.begin_ (.ok ()), .work (.ok v)]⟩
      = (outcome, ⟨t₃, [.begin_ (.ok ()), .work (.ok v), .commit n outcome]⟩) := by
    rw [← hlevel]
    exact Action.run_noted (fun s => .commit (u.level s)) hcommit _
  rw [hcommit] at hleft ⊢
  rcases outcome with e | ⟨⟩
  · have hrun : noted = _ := run_undone hbegun hworked hinner hcommitted hleft
    rw [hrun]
    exact ⟨rfl, .uncommitted v e⟩
  · have hrun : noted = _ := run_done hbegun hworked hinner hcommitted
    rw [hrun]
    exact ⟨rfl, .committed v⟩

/-- Work that fails: a rollback follows, and whatever becomes of that, the level is the one that the
rollback leaves. -/
theorem course_failed {e : Error} (hbegin : u.begin_.run t = (.ok (), t₁))
    (hwork : u.work.run t₁ = (.error e, t₂)) (hlevel : u.level t₂ = n)
    (hinner : u.isInnermost (u.level t₁) t₂ = true)
    (hwarn : ∀ t, ∃ t', u.warnFailed.run t = (.ok (), t') ∧ u.level t' = u.level t) :
    let noted := u.noted.run.run ⟨t, []⟩
    u.level noted.2.state = u.level (u.rollback.run t₂).2 ∧ Course n noted.2.attempts noted.1 := by
  intro noted
  have hbegun : u.noted.begin_.run ⟨t, []⟩ = (.ok (), ⟨t₁, [.begin_ (.ok ())]⟩) :=
    Action.run_noted (fun _ => .begin_) hbegin []
  have hworked : u.noted.work.run ⟨t₁, [.begin_ (.ok ())]⟩
      = (.error e, ⟨t₂, [.begin_ (.ok ()), .work (.error e)]⟩) :=
    Action.run_noted (fun _ => .work) hwork _
  obtain ⟨outcome, t₃, hrollback⟩ : ∃ outcome t₃, u.rollback.run t₂ = (outcome, t₃) :=
    ⟨_, _, rfl⟩
  have hrolled : u.noted.rollback.run ⟨t₂, [.begin_ (.ok ()), .work (.error e)]⟩
      = (outcome, ⟨t₃, [.begin_ (.ok ()), .work (.error e), .rollback n outcome]⟩) := by
    rw [← hlevel]
    exact Action.run_noted (fun s => .rollback (u.level s)) hrollback _
  rw [hrollback]
  rcases outcome with e' | ⟨⟩
  · cases hrecoverable : e'.isRecoverable with
    | true =>
        obtain ⟨t₄, hwarned, hlevel₄⟩ := hwarn t₃
        have hnotedWarn (attempts : List (Attempt α)) :
            u.noted.warnFailed.run ⟨t₃, attempts⟩ = (.ok (), ⟨t₄, attempts⟩) := by
          show ((u.warnFailed.run t₃).1, (⟨(u.warnFailed.run t₃).2, attempts⟩ : Noted τ α)) = _
          rw [hwarned]
        have hrun : noted = _ :=
          run_failed_kept hbegun hworked hinner hrolled hrecoverable (hnotedWarn _)
        rw [hrun]
        exact ⟨hlevel₄, .kept e e' hrecoverable⟩
    | false =>
        have hrun : noted = _ := run_failed_interrupted hbegun hworked hinner hrolled hrecoverable
        rw [hrun]
        exact ⟨rfl, .interrupted e e' hrecoverable⟩
  · have hrun : noted = _ := run_failed hbegun hworked hinner hrolled
    rw [hrun]
    exact ⟨rfl, .rolledBack e⟩

end UnitSteps

namespace Manager

variable {m : Manager σ} {l : Link σ} {s s₁ : Session σ} {isolation? : Option String}
  {work : Action (Session σ) α}

theorem link_of_isOpen (h : m.isOpen s = true) :
    ∃ l, m.link? = some l ∧ l.isOpen s.world = true := by
  unfold isOpen at h
  split at h
  · exact ⟨_, ‹_›, h⟩
  · cases h

theorem level_announce (l : Link σ) (isolation? : Option String) (s : Session σ) :
    ((announce l isolation?).run s).2.level = s.level := by
  unfold announce
  cases isolation? with
  | none => rfl
  | some level => dsimp only; split <;> rfl

/-- A beginning raises the level by one if it succeeds, and leaves it otherwise. -/
theorem level_begin (m : Manager σ) (isolation? : Option String) (s : Session σ) :
    ∃ outcome s₁, (m.begin_ isolation?).run s = (outcome, s₁) ∧
      s₁.level = match outcome with | .ok _ => s.level + 1 | .error _ => s.level := by
  cases hopen : m.isOpen s with
  | false => exact ⟨_, s, run_begin_of_not_open hopen isolation?, rfl⟩
  | true =>
      obtain ⟨l, hlink, hopen⟩ := link_of_isOpen hopen
      rw [run_begin hlink hopen]
      cases hlevel : s.level with
      | zero =>
          dsimp only
          have hannounce := level_announce l isolation? s
          rw [beginOutermost_eq, Action.run_bind]
          rcases hrun : (announce l isolation?).run s with ⟨e | ⟨⟩, s'⟩ <;> rw [hrun] at hannounce
          · exact ⟨_, _, rfl, hannounce.trans hlevel⟩
          · dsimp only
            rw [Action.run_bind, run_send]
            rcases (l.issue .begin_).run s'.world with ⟨e | ⟨⟩, world⟩
            · exact ⟨_, _, rfl, hannounce.trans hlevel⟩
            · exact ⟨_, _, rfl, rfl⟩
      | succ n =>
          dsimp only
          rw [run_beginNested, run_send]
          cases m.usesSavepoints s with
          | false => exact ⟨_, _, rfl, rfl⟩
          | true =>
              rcases (l.issue (.savepoint (n + 1))).run s.world with ⟨e | ⟨⟩, world⟩
              · exact ⟨_, _, rfl, hlevel⟩
              · exact ⟨_, _, rfl, rfl⟩

/-- What a commit and a rollback have in common: without an active transaction they change nothing,
and else they leave the innermost level first and send at most one command. -/
def EndsInnermost (m : Manager σ) (a : Action (Session σ) Unit) : Prop :=
  ∀ s, match m.innermost? s with
    | none => (a.run s).2 = s
    | some (l, n) => (a.run s).2 = { s with level := n } ∨
      ∃ c, a.run s = (send l c).run { s with level := n }

theorem commit_endsInnermost (m : Manager σ) : m.EndsInnermost m.commit := by
  intro s
  split
  · rename_i hinner
    rw [run_commit_of_inactive hinner]
  · rename_i hinner
    rw [run_commit hinner]
    split
    · exact .inr ⟨_, rfl⟩
    · split
      · exact .inr ⟨_, rfl⟩
      · exact .inl rfl

theorem rollback_endsInnermost (m : Manager σ) : m.EndsInnermost m.rollback := by
  intro s
  split
  · rename_i hinner
    rw [run_rollback_of_inactive hinner]
  · rename_i hinner
    rw [run_rollback hinner]
    split
    · exact .inr ⟨_, rfl⟩
    · split
      · exact .inr ⟨_, rfl⟩
      · exact .inl rfl

/-- The innermost level is left, however the command comes out. -/
theorem EndsInnermost.level {a : Action (Session σ) Unit} (ha : m.EndsInnermost a) {n : Nat}
    (h : m.innermost? s = some (l, n)) : (a.run s).2.level = n := by
  have hends := ha s
  rw [h] at hends
  rcases hends with hdone | ⟨c, hsent⟩
  · rw [hdone]
  · rw [hsent, run_send]

/-- On an open connection some transaction is the innermost one unless the level is 0. -/
theorem exists_innermost {n : Nat} (hopen : m.isOpen s = true) (hlevel : s.level = n + 1) :
    ∃ l, m.innermost? s = some (l, n) := by
  obtain ⟨l, hlink, hopen⟩ := link_of_isOpen hopen
  exact ⟨l, innermost?_eq_some_iff.mpr ⟨hlink, hlevel, hopen⟩⟩

/-- The unit of work from a session leaves the level of its transaction alone, and the connection
open. -/
def Leaves (m : Manager σ) (isolation? : Option String) (s : Session σ)
    (work : Action (Session σ) α) : Prop :=
  ∀ s₁, (m.begin_ isolation?).run s = (.ok (), s₁) →
    (work.run s₁).2.level = s₁.level ∧ m.isOpen (work.run s₁).2 = true

/-- Work that leaves the level alone takes one of the ways through a unit of work, and then the
level is restored. -/
theorem course_noted (h : m.Leaves isolation? s work) :
    let noted := (m.steps isolation? work).noted.run.run ⟨s, []⟩
    noted.2.state.level = s.level ∧ Course (s.level + 1) noted.2.attempts noted.1 := by
  intro noted
  obtain ⟨outcome, s₁, hbegin, hlevel₁⟩ := level_begin m isolation? s
  rcases outcome with e | ⟨⟩
  · have hrun : noted = (.error e, ⟨s₁, [.begin_ (.error e)]⟩) :=
      UnitSteps.run_refused (Action.run_noted (fun _ => .begin_) hbegin [])
    rw [hrun]
    exact ⟨hlevel₁, .refused e⟩
  replace hlevel₁ : s₁.level = s.level + 1 := hlevel₁
  obtain ⟨outcome, s₂, hwork⟩ : ∃ outcome s₂, work.run s₁ = (outcome, s₂) := ⟨_, _, rfl⟩
  obtain ⟨hlevel₂, hopen₂⟩ : s₂.level = s₁.level ∧ m.isOpen s₂ = true := by
    have hleaves := h s₁ hbegin
    rwa [hwork] at hleaves
  rw [hlevel₁] at hlevel₂
  obtain ⟨l, hinner⟩ := exists_innermost hopen₂ hlevel₂
  have hisInnermost : m.isInnermost s₁.level s₂ = true := by
    simp [isInnermost, isActive, hlevel₁, hlevel₂, hopen₂]
  rcases outcome with e | v
  · obtain ⟨hlevel₃, hcourse⟩ := @UnitSteps.course_failed _ _ (m.steps isolation? work) _ _ _ _ e
      hbegin hwork hlevel₂ hisInnermost fun s => ⟨_, rfl, rfl⟩
    exact ⟨hlevel₃.trans (m.rollback_endsInnermost.level hinner), hcourse⟩
  · -- The commit leaves its level, so that a rollback would be that of the level around it.
    have hlevel₃ := m.commit_endsInnermost.level hinner
    have hleft : m.isInnermost s₁.level (m.commit.run s₂).2 = false := by
      simp [isInnermost, hlevel₁, hlevel₃]
    obtain ⟨hstate, hcourse⟩ := @UnitSteps.course_done _ _ (m.steps isolation? work) _ _ _ _ v
      hbegin hwork hlevel₂ hisInnermost hleft
    exact ⟨(congrArg Session.level hstate).trans hlevel₃, hcourse⟩

end Manager

/-! ### Units of work inside units of work -/

/-- No command closes the connection. -/
def Manager.StaysOpen (m : Manager σ) : Prop :=
  ∀ l, m.link? = some l → ∀ c world, l.isOpen world = true →
    l.isOpen ((l.issue c).run world).2 = true

/-- Units of work, in any order and nested to any depth, with failures thrown and caught anywhere.
Between them anything may be looked at, and done on the connection whatever leaves it open. -/
inductive Units (m : Manager σ) : {α : Type} → Action (Session σ) α → Prop where
  | done {α : Type} (v : α) : Units m (pure v)
  | fail {α : Type} (e : Error) : Units m (throw e : Action (Session σ) α)
  | look {α : Type} (f : Session σ → α) : Units m (Action.read f)
  | outside {α : Type} (a : Action σ α)
      (hopen : ∀ s : Session σ, m.isOpen s = true →
        m.isOpen { s with world := (a.run s.world).2 } = true) :
      Units m (a.onPart Session.world fun world s => { s with world })
  | bind {α β : Type} {a : Action (Session σ) α} {next : α → Action (Session σ) β}
      (ha : Units m a) (hnext : ∀ v, Units m (next v)) : Units m (a >>= next)
  | tryCatch {α : Type} {a : Action (Session σ) α} {handle : Error → Action (Session σ) α}
      (ha : Units m a) (hhandle : ∀ e, Units m (handle e)) : Units m (tryCatch a handle)
  | unit {α : Type} {a : Action (Session σ) α} (isolation? : Option String) (ha : Units m a) :
      Units m (m.run isolation? a)

/-- An action after which a property holds again. -/
def Action.Keeps (P : τ → Prop) (a : Action τ α) : Prop := ∀ t, P t → P (a.run t).2

namespace Action.Keeps

variable {P : τ → Prop} {a : Action τ α}

theorem bind {next : α → Action τ β} (ha : a.Keeps P) (hnext : ∀ v, (next v).Keeps P) :
    (a >>= next).Keeps P := by
  intro t ht
  have hfirst := ha t ht
  rw [Action.run_bind]
  rcases hrun : a.run t with ⟨e | v, t'⟩ <;> rw [hrun] at hfirst
  · exact hfirst
  · exact hnext v t' hfirst

theorem tryCatch {handle : Error → Action τ α} (ha : a.Keeps P)
    (hhandle : ∀ e, (handle e).Keeps P) : (tryCatch a handle).Keeps P := by
  intro t ht
  have hfirst := ha t ht
  rw [Action.run_tryCatch]
  rcases hrun : a.run t with ⟨e | v, t'⟩ <;> rw [hrun] at hfirst
  · exact hhandle e t' hfirst
  · exact hfirst

theorem ite (p : Prop) [Decidable p] {b : Action τ α} (ha : a.Keeps P) (hb : b.Keeps P) :
    (if p then a else b).Keeps P := by
  split
  · exact ha
  · exact hb

end Action.Keeps

namespace Manager

variable {m : Manager σ} {l : Link σ} {isolation? : Option String}

/-- A command leaves the connection of the manager open. -/
theorem send_open (hm : m.StaysOpen) (hlink : m.link? = some l) (c : Command) :
    (send l c).Keeps fun s => m.isOpen s = true := by
  intro s hopen
  simp only [isOpen, hlink] at hopen ⊢
  exact hm l hlink c s.world hopen

theorem begin_open (hm : m.StaysOpen) (isolation? : Option String) :
    (m.begin_ isolation?).Keeps fun s => m.isOpen s = true := by
  have hwarn (w : Warning) : (warn w : Action (Session σ) Unit).Keeps fun s => m.isOpen s = true :=
    fun _ => id
  have hset (level : Nat) :
      (setLevel level : Action (Session σ) Unit).Keeps fun s => m.isOpen s = true := fun _ => id
  intro s hopen
  obtain ⟨l, hlink, hopen'⟩ := link_of_isOpen hopen
  have hsend := send_open hm hlink
  have hannounce : (announce l isolation?).Keeps fun s => m.isOpen s = true := by
    unfold announce
    cases isolation? with
    | none => exact fun _ => id
    | some level => exact .ite _ (hsend _) (hwarn _)
  rw [run_begin hlink hopen']
  cases s.level with
  | zero =>
      dsimp only
      rw [beginOutermost_eq]
      exact hannounce.bind (fun _ => (hsend _).bind fun _ => hset 1) s hopen
  | succ n =>
      dsimp only
      rw [run_beginNested]
      split
      · have hsaved := hsend (.savepoint (n + 1)) s hopen
        rcases hrun : (send l (.savepoint (n + 1))).run s with ⟨e | ⟨⟩, s'⟩ <;> rw [hrun] at hsaved
        · exact hsaved
        · exact hsaved
      · exact hopen

theorem EndsInnermost.keeps_open {a : Action (Session σ) Unit} (ha : m.EndsInnermost a)
    (hm : m.StaysOpen) : a.Keeps fun s => m.isOpen s = true := by
  intro s hopen
  have hends := ha s
  split at hends
  · rw [hends]
    exact hopen
  · rename_i inner l n hinner
    obtain ⟨hlink, -, -⟩ := innermost?_eq_some_iff.mp hinner
    rcases hends with hdone | ⟨c, hsent⟩
    · rw [hdone]
      exact hopen
    · rw [hsent]
      exact send_open hm hlink c _ hopen

/-- A unit of work leaves the connection open if the work does. -/
theorem run_open (hm : m.StaysOpen) (isolation? : Option String) {work : Action (Session σ) α}
    (hwork : work.Keeps fun s => m.isOpen s = true) :
    (m.run isolation? work).Keeps fun s => m.isOpen s = true := by
  have hcommit (level : Nat) :
      (m.commitInnermost level).Keeps fun s => m.isOpen s = true :=
    .bind (fun _ => id) fun _ => .ite _ (m.commit_endsInnermost.keeps_open hm) fun _ => id
  have hrollback (level : Nat) :
      (m.rollbackOnError level).Keeps fun s => m.isOpen s = true := by
    refine .bind (fun _ => id) fun _ => .ite _ ?_ fun _ => id
    exact (m.rollback_endsInnermost.keeps_open hm).tryCatch fun _ => .ite _ (fun _ => id) fun _ => id
  rw [run_eq]
  refine (begin_open hm isolation?).bind fun _ => .bind (fun _ => id) fun level => ?_
  refine .tryCatch ?_ fun e => (hrollback level).bind fun _ _ => id
  exact hwork.bind fun v => (hcommit level).bind fun _ _ => id

/-- Work that leaves the level alone on an open connection does so in a unit of work, which begins
on one. -/
theorem leaves_of_keeps (hm : m.StaysOpen) {work : Action (Session σ) α}
    (hwork : ∀ n, work.Keeps fun s => s.level = n ∧ m.isOpen s = true)
    (isolation? : Option String) (s : Session σ) : m.Leaves isolation? s work := by
  intro s₁ hbegin
  have hopen : m.isOpen s = true := by
    cases hopen : m.isOpen s with
    | true => rfl
    | false =>
        rw [run_begin_of_not_open hopen] at hbegin
        cases hbegin
  have hopen₁ : m.isOpen s₁ = true := by
    have hkept := begin_open hm isolation? s hopen
    rwa [hbegin] at hkept
  exact hwork s₁.level s₁ ⟨rfl, hopen₁⟩

end Manager

/-- Units of work nested to any depth leave the level where they find it, and the connection
open. -/
theorem Units.restores {m : Manager σ} (hm : m.StaysOpen) {a : Action (Session σ) α}
    (h : Units m a) (n : Nat) : a.Keeps fun s => s.level = n ∧ m.isOpen s = true := by
  induction h generalizing n with
  | done v => exact fun _ => id
  | fail e => exact fun _ => id
  | look f => exact fun _ => id
  | outside a hopen => exact fun s hs => ⟨hs.1, hopen s hs.2⟩
  | bind _ _ ha hnext => exact (ha n).bind fun v => hnext v n
  | tryCatch _ _ ha hhandle => exact (ha n).tryCatch fun e => hhandle e n
  | @unit _ work isolation? _ ha =>
      intro s hs
      have hleaves := Manager.leaves_of_keeps hm ha isolation? s
      have hopen := Manager.run_open hm isolation? fun s hs => (ha s.level s ⟨rfl, hs⟩).2
      refine ⟨?_, hopen s hs.2⟩
      rw [Manager.run_eq_steps, (m.steps isolation? work).erases ⟨s, []⟩]
      exact (Manager.course_noted hleaves).1.trans hs.1

/-! ### The level after a unit of work -/

/-- A unit of work whose work leaves the level alone, on whatever level it starts and whatever
fails, restores the level and takes one of the six ways: its work is done at most once, its
transaction is ended once if it has begun, by a commit or by a rollback as the work came out, and
the failure of the work is its own failure unless the rollback is told to stop. In particular the
work may be made of units of work nested to any depth. -/
theorem run_restores_level (m : Manager σ) (isolation? : Option String) (s : Session σ)
    (work : Action (Session σ) α) :
    (m.StaysOpen → Units m work → m.Leaves isolation? s work) ∧
    (m.Leaves isolation? s work →
      let noted := (m.steps isolation? work).noted.run.run ⟨s, []⟩
      (m.run isolation? work).run s = (noted.1, noted.2.state) ∧
        noted.2.state.level = s.level ∧ Course (s.level + 1) noted.2.attempts noted.1) := by
  refine ⟨fun hm hunits => Manager.leaves_of_keeps hm (hunits.restores hm) isolation? s,
    fun hleaves => ?_⟩
  intro noted
  refine ⟨?_, Manager.course_noted hleaves⟩
  rw [Manager.run_eq_steps]
  exact (m.steps isolation? work).erases ⟨s, []⟩

/-- A recorder stays open: what it is asked for is written down, and no more. -/
theorem Recorder.link_open (d : Dialect) (savepoints? : Option Bool) :
    (⟨some (link d), savepoints?⟩ : Manager Recorder).StaysOpen := by
  have hcall (kind : CallKind) (text : String) (r : Recorder) :
      ((call kind text).run r).2.isOpen = r.isOpen := by
    simp only [call, Action.run]
    split <;> rfl
  rintro l ⟨⟩ c r hopen
  cases c with
  | begin_ | commit | rollback => exact (hcall _ _ r).trans hopen
  | _ =>
      simp only [link]
      split
      · exact (hcall _ _ r).trans hopen
      · exact hopen

/-- A unit inside another one is refused its savepoint, and then the rollback of the outer one is
told to stop. -/
theorem run_restores_level_interrupted :
    let m : Manager Recorder := ⟨some (Recorder.link (.standard .ansi)), some true⟩
    let s : Session Recorder := .start
      { failures := [(.execute, .external "no savepoint"), (.rollback, .interrupted)] }
    let inner : Action (Session Recorder) Unit := m.run none (pure ())
    let noted := (m.steps none inner).noted.run.run ⟨s, []⟩
    m.StaysOpen ∧ Units m inner ∧ m.Leaves none s inner ∧
      (m.run none inner).run s = (noted.1, noted.2.state) ∧ noted.2.state.level = 0 ∧
      noted.1 = .error .interrupted ∧
      noted.2.attempts = [.begin_ (.ok ()), .work (.error (.external "no savepoint")),
        .rollback 1 (.error .interrupted)] ∧
      Course 1 noted.2.attempts noted.1 := by
  intro m s inner noted
  have hm : m.StaysOpen := Recorder.link_open _ _
  have hunits : Units m inner := .unit none (.done ())
  have hleaves := (run_restores_level m none s inner).1 hm hunits
  obtain ⟨hrun, hlevel, hcourse⟩ := (run_restores_level m none s inner).2 hleaves
  exact ⟨hm, hunits, hleaves, hrun, hlevel, rfl, rfl, hcourse⟩

end SqlLoom
