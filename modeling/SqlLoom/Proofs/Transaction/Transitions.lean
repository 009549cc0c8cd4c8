import SqlLoom.Transaction

/-!
# `SqlLoom.Proofs.Transaction.Transitions`: what each transition of a manager does

One equation for each transition, over any link: which commands it issues, on which session, and
which level it leaves. The later modules use these equations and do not unfold the transitions.

* `Manager.run_begin`: a transaction begins natively at level 0 and inside the innermost one
  elsewhere.
* `Manager.run_commit`, `Manager.run_rollback`: the level is left first. Then at most one command
  is issued, and it decides the outcome.
* `Manager.run_eq`: a unit of work begins, does the work, and commits. Whatever fails after the
  beginning goes through `Manager.rollbackOnError`.
-/

set_option autoImplicit false

namespace SqlLoom.Manager

variable {σ α : Type} {m : Manager σ} {l : Link σ} {s : Session σ}

/-- A command changes the world of the session, also when it fails. -/
theorem run_send (l : Link σ) (c : Command) (s : Session σ) :
    (send l c).run s
      = (((l.issue c).run s.world).1, { s with world := ((l.issue c).run s.world).2 }) := rfl

/-! ### Whether a transaction is active -/

theorem innermost?_eq_some_iff {n : Nat} :
    m.innermost? s = some (l, n) ↔
      m.link? = some l ∧ s.level = n + 1 ∧ l.isOpen s.world = true := by
  unfold innermost?
  constructor
  · intro h
    split at h
    · rename_i l' n' hlink hlevel
      split at h
      · rename_i hopen
        cases h
        exact ⟨hlink, hlevel, hopen⟩
      · cases h
    · cases h
  · rintro ⟨hlink, hlevel, hopen⟩
    rw [hlink, hlevel]
    simp [hopen]

theorem innermost?_eq_none_of_level (h : s.level = 0) : m.innermost? s = none := by
  unfold innermost?
  rw [h]
  cases m.link? <;> rfl

/-! ### Beginning -/

/-- What is said about the isolation level before a transaction begins natively. -/
def announce (l : Link σ) (isolation? : Option String) : Action (Session σ) Unit :=
  match isolation? with
  | some level =>
    if l.dialect.isolationBeforeBegin then send l (.setIsolation level)
    else warn (.isolationIgnored level l.dialect.name)
  | none => pure ()

theorem beginOutermost_eq (l : Link σ) (isolation? : Option String) :
    beginOutermost l isolation? = (do announce l isolation?; send l .begin_; setLevel 1) := by
  unfold beginOutermost announce
  cases isolation? with
  | none => rfl
  | some level => cases l.dialect.isolationBeforeBegin <;> rfl

theorem run_begin (hlink : m.link? = some l) (hopen : l.isOpen s.world = true)
    (isolation? : Option String) :
    (m.begin_ isolation?).run s = (match s.level with
      | 0 => beginOutermost l isolation?
      | n + 1 => m.beginNested l (n + 1)).run s := by
  have hisOpen : m.isOpen s = true := by simp [isOpen, hlink, hopen]
  simp only [begin_, hlink, Action.run_bind, Action.run_read, hisOpen, if_true]
  cases s.level <;> rfl

/-- Nothing begins without an open connection. -/
theorem run_begin_of_not_open (h : m.isOpen s = false) (isolation? : Option String) :
    (m.begin_ isolation?).run s = (.error (.config .nothingToBeginOn), s) := by
  unfold begin_
  cases hlink : m.link? with
  | none => rfl
  | some l => simp [Action.run_bind, h]

theorem run_beginNested (m : Manager σ) (l : Link σ) (n : Nat) (s : Session σ) :
    (m.beginNested l n).run s =
      if m.usesSavepoints s then
        match (send l (.savepoint n)).run s with
        | (.ok _, s') => (.ok (), { s' with level := n + 1 })
        | (.error e, s') => (.error e, s')
      else (.ok (), { s with warnings := s.warnings ++ [.flattened n], level := n + 1 }) := by
  simp only [beginNested, Action.run_bind, Action.run_read]
  cases m.usesSavepoints s with
  | false => rfl
  | true =>
      simp only [if_true, Action.run_bind]
      rcases (send l (.savepoint n)).run s with ⟨_ | _, s'⟩ <;> rfl

/-! ### Ending -/

theorem run_commit {n : Nat} (h : m.innermost? s = some (l, n)) :
    m.commit.run s =
      if n = 0 then (send l .commit).run { s with level := n }
      else if m.usesSavepoints s && ((Command.release n).text? l.dialect).isSome then
        (send l (.release n)).run { s with level := n }
      else (.ok (), { s with level := n }) := by
  -- The savepoints are asked for after the level has been left, which makes no difference.
  have huses : m.usesSavepoints { s with level := n } = m.usesSavepoints s := rfl
  simp only [commit, Action.run_bind, Action.run_read, h, setLevel, Action.run_change,
    Action.run_ite, huses]
  split
  · rfl
  · cases m.usesSavepoints s <;> simp

/-- Without an active transaction there is nothing to commit. -/
theorem run_commit_of_inactive (h : m.innermost? s = none) :
    m.commit.run s = (.error (.state .commitInactive), s) := by
  simp [commit, Action.run_bind, h]

theorem run_rollback {n : Nat} (h : m.innermost? s = some (l, n)) :
    m.rollback.run s =
      if n = 0 then (send l .rollback).run { s with level := n }
      else if m.usesSavepoints s then (send l (.rollbackTo n)).run { s with level := n }
      else (.error (.nestedRollback n), { s with level := n }) := by
  have huses : m.usesSavepoints { s with level := n } = m.usesSavepoints s := rfl
  simp only [rollback, Action.run_bind, Action.run_read, h, setLevel, Action.run_change,
    Action.run_ite, huses, Action.run_throw]

/-- Without an active transaction there is nothing to roll back. -/
theorem run_rollback_of_inactive (h : m.innermost? s = none) :
    m.rollback.run s = (.ok (), s) := by
  simp [rollback, Action.run_bind, h]

theorem run_setIsolation {n : Nat} (h : m.innermost? s = some (l, n)) (level : String) :
    (m.setIsolation level).run s = (send l (.setIsolation level)).run s := by
  simp [setIsolation, Action.run_bind, h]

/-- Without an active transaction there is no isolation level to set. -/
theorem run_setIsolation_of_inactive (h : m.innermost? s = none) (level : String) :
    (m.setIsolation level).run s = (.error (.state .isolationInactive), s) := by
  simp [setIsolation, Action.run_bind, h]

/-! ### Units of work -/

/-- Commits the transaction of the given level, if it is still the innermost one. -/
def commitInnermost (m : Manager σ) (level : Nat) : Action (Session σ) Unit := do
  if ← Action.read (m.isInnermost level) then m.commit

/-- A unit of work as the sequence of what it does. -/
theorem run_eq (m : Manager σ) (isolation? : Option String) (work : Action (Session σ) α) :
    m.run isolation? work = (do
      m.begin_ isolation?
      let level ← Action.read Session.level
      tryCatch (do
          let result ← work
          m.commitInnermost level
          pure result)
        fun e => do
          m.rollbackOnError level
          throw e) := by
  refine Action.ext fun s => ?_
  simp only [run, Action.run_bind, Action.run_tryCatch, commitInnermost, Action.run_read]
  rcases (m.begin_ isolation?).run s with ⟨_ | _, s₁⟩
  · rfl
  · dsimp only
    rcases work.run s₁ with ⟨_ | v, s₂⟩
    · dsimp only
      rcases (m.rollbackOnError s₁.level).run s₂ with ⟨_ | _, s₃⟩ <;> rfl
    · -- The work is done; a commit that fails is handled as a failure of the work.
      dsimp only
      cases m.isInnermost s₁.level s₂ with
      | false => rfl
      | true =>
          simp only [if_true, Action.run_bind]
          rcases m.commit.run s₂ with ⟨_ | _, s₃⟩
          · dsimp only
            rcases (m.rollbackOnError s₁.level).run s₃ with ⟨_ | _, s₄⟩ <;> rfl
          · rfl

section Unit

variable {isolation? : Option String} {work : Action (Session σ) α} {s₁ s₂ s₃ : Session σ}

/-- Work that is done is committed. -/
theorem run_done {v : α} (hbegin : (m.begin_ isolation?).run s = (.ok (), s₁))
    (hwork : work.run s₁ = (.ok v, s₂)) (hinner : m.isInnermost s₁.level s₂ = true)
    (hcommit : m.commit.run s₂ = (.ok (), s₃)) :
    (m.run isolation? work).run s = (.ok v, s₃) := by
  simp [run_eq, commitInnermost, Action.run_bind, Action.run_tryCatch, hbegin, hwork, hinner,
    hcommit]

/-- Work that fails is rolled back. -/
theorem run_failed {e : Error} (hbegin : (m.begin_ isolation?).run s = (.ok (), s₁))
    (hwork : work.run s₁ = (.error e, s₂)) (hinner : m.isInnermost s₁.level s₂ = true)
    (hrollback : m.rollback.run s₂ = (.ok (), s₃)) :
    (m.run isolation? work).run s = (.error e, s₃) := by
  simp [run_eq, rollbackOnError, Action.run_bind, Action.run_tryCatch, hbegin, hwork, hinner,
    hrollback]

/-- Work fails and cannot be rolled back either: that is a warning beside the failure. -/
theorem run_failed_unrolled {e e' : Error} (hbegin : (m.begin_ isolation?).run s = (.ok (), s₁))
    (hwork : work.run s₁ = (.error e, s₂)) (hinner : m.isInnermost s₁.level s₂ = true)
    (hrollback : m.rollback.run s₂ = (.error e', s₃)) (hrecoverable : e'.isRecoverable = true) :
    (m.run isolation? work).run s
      = (.error e, { s₃ with warnings := s₃.warnings ++ [.rollbackFailed] }) := by
  simp [run_eq, rollbackOnError, Action.run_bind, Action.run_tryCatch, hbegin, hwork, hinner,
    hrollback, hrecoverable, warn]

end Unit

end SqlLoom.Manager
