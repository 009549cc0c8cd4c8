import Mathlib.Data.List.Nodup
import Mathlib.Data.Set.Function
import SqlLoom.Proofs.Lock.Steps

/-!
# `SqlLoom.Proofs.Lock.Exclusion`: named locks exclude each other

`Fleet.ServedBy` is what the lock calls of a database promise: a lock is granted to one session at a
time, and once more to the session that has it already; a session gives back only what it has; a
call that is refused or that fails has no effect on locks.

* `Fleet.Effect` is all that the calls of a client do to its list and to the database's counts.
* `Fleet.Kept` is what every step keeps: each list says how often the database has granted each
  lock to the session of the client.
* `Fleet.exclusive`: after any interleaving of steps, the locks that a client lists have been
  granted to its session exactly once, and no two clients list the same lock. The steps are those of
  the operations of a locker (`Fleet.Performs`).
-/

set_option autoImplicit false

namespace SqlLoom

variable {σ ι : Type}

/-! ### What a database promises -/

/-- The key under which a database knows a lock. -/
def Backend.lockKey (b : Backend) (name : String) : LockKey :=
  match b with
  | .postgres => .numbers (lockKeys name).1 (lockKeys name).2
  | _ => .name name

namespace Fleet

/-- The database grants a lock to a session: no other session has it, and the session has it once
more. -/
structure Granted (f : Fleet σ ι) (i : ι) (k : LockKey) (w w' : σ) : Prop where
  free : ∀ j, j ≠ i → f.grants w j k = 0
  count : f.grants w' i k = f.grants w i k + 1
  rest : ∀ j k', (j, k') ≠ (i, k) → f.grants w' j k' = f.grants w j k'

/-- The database takes a lock back from a session that has it. -/
structure Returned (f : Fleet σ ι) (i : ι) (k : LockKey) (w w' : σ) : Prop where
  count : f.grants w i k = f.grants w' i k + 1
  rest : ∀ j k', (j, k') ≠ (i, k) → f.grants w' j k' = f.grants w j k'

/-- A call gives one answer if something has happened to the locks, and another one if nothing has.
A call that fails has no effect on them. -/
def Answers (f : Fleet σ ι) (call : Action σ Value) (yes : Value) (noes : List Value)
    (happened : σ → σ → Prop) : Prop :=
  ∀ w, match call.run w with
    | (.ok answer, w') =>
      (answer = yes ∧ happened w w') ∨ (answer ∈ noes ∧ f.grants w' = f.grants w)
    | (.error _, w') => f.grants w' = f.grants w

/-- The lock calls are those of a PostgreSQL database. -/
structure OnPostgres (f : Fleet σ ι) : Prop where
  take : ∀ i high low, f.Answers
    ((f.locker i).host.query "SELECT pg_try_advisory_lock(:key1, :key2)"
      [(":key1", .int high), (":key2", .int low)])
    (.bool true) [.bool false] (f.Granted i (.numbers high low))
  give : ∀ i high low, f.Answers
    ((f.locker i).host.query "SELECT pg_advisory_unlock(:key1, :key2)"
      [(":key1", .int high), (":key2", .int low)])
    (.bool true) [.bool false] (f.Returned i (.numbers high low))

/-- The lock calls are those of a MySQL database. -/
structure OnMySQL (f : Fleet σ ι) : Prop where
  take : ∀ i name seconds, f.Answers
    ((f.locker i).host.query "SELECT GET_LOCK(:name, :timeout)"
      [(":name", .text name), (":timeout", .int seconds)])
    (.int 1) [.int 0, .null] (f.Granted i (.name name))
  give : ∀ i name, f.Answers
    ((f.locker i).host.query "SELECT RELEASE_LOCK(:name)" [(":name", .text name)])
    (.int 1) [.int 0, .null] (f.Returned i (.name name))

/-- The lockers work over a database of a family, on connections that are always open; sleeping has
no effect on locks. -/
structure ServedBy (f : Fleet σ ι) (b : Backend) : Prop where
  isOpen : ∀ i w, (f.locker i).host.isOpen w = true
  sleep : ∀ i seconds w, f.grants ((f.locker i).host.sleep seconds w) = f.grants w
  calls : (b = .postgres ∧ f.OnPostgres) ∨ (b = .mysql ∧ f.OnMySQL)
  scheme : ∀ i, (f.locker i).scheme.backend = b

/-- No client lists a lock or is at anything, and the database has granted no locks to them. -/
structure Fresh (f : Fleet σ ι) (s : Site σ ι) : Prop where
  locks : ∀ i, (s.clients i).locks = []
  task : ∀ i, (s.clients i).task = .idle
  grants : ∀ i k, f.grants s.world i k = 0

variable {f : Fleet σ ι} {b : Backend}

/-! ### What lock calls do -/

/-- An action that tells whether something has happened to the locks; otherwise nothing has. -/
def Tells (f : Fleet σ ι) (a : Action σ Bool) (happened : σ → σ → Prop) : Prop :=
  ∀ w, match a.run w with
    | (.ok true, w') => happened w w'
    | (_, w') => f.grants w' = f.grants w

/-- What an answer means is read off it. -/
theorem Answers.tells {call : Action σ Value} {yes : Value} {noes : List Value}
    {happened : σ → σ → Prop} (h : f.Answers call yes noes happened)
    (read : Value → Except Error Bool) (hyes : read yes = .ok true)
    (hno : ∀ v ∈ noes, read v = .ok false) :
    f.Tells (call >>= fun v => Action.ofExcept (read v)) happened := by
  intro w
  have hcall := h w
  rw [Action.run_bind]
  rcases hrun : call.run w with ⟨e | v, w'⟩ <;> rw [hrun] at hcall
  · exact hcall
  · show match (read v, w') with
      | (.ok true, w') => happened w w'
      | (_, w') => f.grants w' = f.grants w
    rcases hcall with ⟨rfl, hhappened⟩ | ⟨hmem, hsame⟩
    · simpa [hyes] using hhappened
    · simpa [hno v hmem] using hsame

/-- The lock calls of a locker are those that its database serves. -/
theorem ServedBy.cases (hserved : f.ServedBy b) (i : ι) :
    (b = .postgres ∧ f.OnPostgres ∧ ∃ delay, (f.locker i).scheme = .postgres delay) ∨
    (b = .mysql ∧ f.OnMySQL ∧ (f.locker i).scheme = .mysql) := by
  have hscheme := hserved.scheme i
  obtain ⟨rfl, hcalls⟩ | ⟨rfl, hcalls⟩ := hserved.calls <;>
    cases hkind : (f.locker i).scheme <;> rw [hkind] at hscheme <;> cases hscheme
  · exact .inl ⟨rfl, hcalls, _, rfl⟩
  · exact .inr ⟨rfl, hcalls, rfl⟩

/-- An attempt to get a lock. -/
theorem ServedBy.tells_attempt (hserved : f.ServedBy b) (i : ι) (name : String) (timeout : Rat) :
    f.Tells ((f.locker i).scheme.attempt (f.locker i).host name timeout)
      (f.Granted i (b.lockKey name)) := by
  obtain ⟨rfl, hcalls, delay, hscheme⟩ | ⟨rfl, hcalls, hscheme⟩ := hserved.cases i <;> rw [hscheme]
  · exact (hcalls.take i _ _).tells (fun v => .ok v.isTruthy) rfl (by simp [Value.isTruthy])
  · exact (hcalls.take i name _).tells statusIsOne rfl (by decide)

/-- Giving a lock back. -/
theorem ServedBy.tells_giveBack (hserved : f.ServedBy b) (i : ι) (name : String) :
    f.Tells ((f.locker i).scheme.giveBack (f.locker i).host name)
      (f.Returned i (b.lockKey name)) := by
  obtain ⟨rfl, hcalls, delay, hscheme⟩ | ⟨rfl, hcalls, hscheme⟩ := hserved.cases i <;> rw [hscheme]
  · exact (hcalls.give i _ _).tells (fun v => .ok v.isTruthy) rfl (by simp [Value.isTruthy])
  · exact (hcalls.give i name).tells statusIsOne rfl (by decide)

/-- A pause has no effect on locks. -/
theorem ServedBy.grants_pause (hserved : f.ServedBy b) (i : ι) (deadline : Rat) (w : σ) :
    f.grants (((f.locker i).pause deadline).run w).2 = f.grants w := by
  obtain ⟨-, -, delay, hscheme⟩ | ⟨-, -, hscheme⟩ := hserved.cases i
  · by_cases hlate : deadline ≤ (f.locker i).host.now w
    · simp [Locker.pause, hscheme, Action.run_bind, hlate]
    · simp [Locker.pause, hscheme, Action.run_bind, hlate, hserved.sleep]
  · simp [Locker.pause, hscheme]

/-! ### What a step does -/

/-- All that a client does to its list and to the locks of the database, in a step that gets to
hold `asked?` or gives one of `returning` back. -/
inductive Effect (f : Fleet σ ι) (b : Backend) (i : ι) (asked? : Option String)
    (returning : List String) (h h' : Holding σ) : Prop where
  | nothing (locks : h'.locks = h.locks) (grants : f.grants h'.world = f.grants h.world)
  | took (name : String) (hname : asked? = some name) (locks : h'.locks = h.locks ++ [name])
      (granted : f.Granted i (b.lockKey name) h.world h'.world)
  | gave (name : String) (hname : name ∈ returning) (locks : h'.locks = h.locks.erase name)
      (returned : f.Returned i (b.lockKey name) h.world h'.world)

/-- An attempt lists the lock exactly if it is granted. -/
theorem ServedBy.run_ask (hserved : f.ServedBy b) (i : ι) (name : String) (timeout : Rat)
    (h : Holding σ) :
    match ((f.locker i).ask name timeout).run h with
    | (.ok true, h') =>
      h'.locks = h.locks ++ [name] ∧ f.Granted i (b.lockKey name) h.world h'.world
    | (_, h') => h'.locks = h.locks ∧ f.grants h'.world = f.grants h.world := by
  have htells := hserved.tells_attempt i name timeout h.world
  rw [Locker.ask, Action.run_bind, Locker.run_onHost]
  rcases hrun : ((f.locker i).scheme.attempt (f.locker i).host name timeout).run h.world
    with ⟨e | granted, w⟩ <;> rw [hrun] at htells
  · exact ⟨rfl, htells⟩
  · cases granted <;> exact ⟨rfl, htells⟩

/-- A release takes the lock off the list exactly if the database takes it back. -/
theorem ServedBy.effect_release (hserved : f.ServedBy b) (i : ι) (name : String) (h : Holding σ) :
    f.Effect b i none [name] h (((f.locker i).release name).run h).2 := by
  have htells := hserved.tells_giveBack i name h.world
  rw [Locker.release, Action.run_bind, Locker.run_onHost]
  rcases hrun : ((f.locker i).scheme.giveBack (f.locker i).host name).run h.world
    with ⟨e | returned, w⟩ <;> rw [hrun] at htells
  · exact .nothing rfl htells
  · cases returned
    · exact .nothing rfl htells
    · exact .gave name (by simp) rfl htells

/-- A warning has no effect on locks. -/
theorem Effect.warned {i : ι} {asked? : Option String} {returning : List String}
    {h h' : Holding σ} (heffect : f.Effect b i asked? returning h h') (name : String) :
    f.Effect b i asked? returning h ((Locker.warnKept name).run h').2 := by
  cases heffect with
  | nothing locks grants => exact .nothing locks grants
  | took name hname locks granted => exact .took name hname locks granted
  | gave name hname locks returned => exact .gave name hname locks returned

theorem ServedBy.effect_releaseOrWarn (hserved : f.ServedBy b) (i : ι) (name : String)
    (h : Holding σ) :
    f.Effect b i none [name] h (((f.locker i).releaseOrWarn name).run h).2 := by
  have hrelease := hserved.effect_release i name h
  rw [Locker.releaseOrWarn, Action.run_tryCatch, Action.run_bind]
  rcases hrun : ((f.locker i).release name).run h with ⟨e | returned, h'⟩ <;>
    rw [hrun] at hrelease
  · by_cases hown : e.isOwn = true
    · simpa [hown] using hrelease.warned name
    · simpa [hown] using hrelease
  · cases returned
    · exact hrelease.warned name
    · exact hrelease

/-- A task asks for a lock in use that the client does not list yet, and gives locks in use
back. -/
structure Fits (used : Set String) (locks : List String) (task : Locker.Task) : Prop where
  asked : ∀ name, task.asked? = some name → name ∈ used ∧ name ∉ locks
  returning : ∀ name ∈ task.returning, name ∈ used

/-- A task that asks for no lock. -/
theorem Fits.of_asked?_eq_none {used : Set String} {locks : List String} {task : Locker.Task}
    (hasked : task.asked? = none) (hreturning : ∀ name ∈ task.returning, name ∈ used) :
    Fits used locks task where
  asked name hname := by
    rw [hasked] at hname
    cases hname
  returning := hreturning

theorem Fits.idle (used : Set String) (locks : List String) : Fits used locks .idle :=
  .of_asked?_eq_none rfl (by simp [Locker.Task.returning])

/-- More locks to give back are no other effect. -/
theorem Effect.mono {i : ι} {asked? : Option String} {returning returning' : List String}
    {h h' : Holding σ} (heffect : f.Effect b i none returning h h')
    (hsubset : ∀ name ∈ returning, name ∈ returning') :
    f.Effect b i asked? returning' h h' := by
  cases heffect with
  | nothing locks grants => exact .nothing locks grants
  | took name hname => cases hname
  | gave name hname locks returned => exact .gave name (hsubset name hname) locks returned

/-- What one step of a task does. -/
theorem ServedBy.effect_step (hserved : f.ServedBy b) (i : ι) (task : Locker.Task)
    (h : Holding σ) :
    f.Effect b i task.asked? task.returning h ((task.step (f.locker i)).run h).2 := by
  cases task with
  | idle => exact .nothing rfl rfl
  | trying name timeout deadline left =>
      have hask := hserved.run_ask i name timeout h
      simp only [Locker.Task.step, Action.run_bind]
      rcases hrun : ((f.locker i).ask name timeout).run h with ⟨e | granted, h'⟩ <;>
        rw [hrun] at hask
      · exact .nothing hask.1 hask.2
      cases granted with
      | true => exact .took name rfl hask.1 hask.2
      | false =>
          -- The pause after a refusal has no effect either.
          have hpause := hserved.grants_pause i deadline h'.world
          simp only [Bool.false_eq_true, if_false, Action.run_bind, Locker.run_onHost]
          rcases hrest : ((f.locker i).pause deadline).run h'.world with ⟨e | more, w⟩ <;>
            rw [hrest] at hpause
          · exact .nothing hask.1 (hpause.trans hask.2)
          · cases more <;> cases left <;> exact .nothing hask.1 (hpause.trans hask.2)
  | releasing name =>
      have heffect := hserved.effect_release i name h
      rw [Locker.Task.step, Action.run_return]
      exact heffect
  | releasingAll names =>
      cases names with
      | nil => exact .nothing rfl rfl
      | cons name rest =>
          have heffect := hserved.effect_releaseOrWarn i name h
          rw [Locker.Task.step, Action.run_return]
          exact heffect.mono (by simp [Locker.Task.returning])

/-- What is left after a step fits as well. -/
theorem ServedBy.fits_step (hserved : f.ServedBy b) {used : Set String} (i : ι)
    {task task' : Locker.Task} {h h' : Holding σ} (hfits : Fits used h.locks task)
    (hstep : (task.step (f.locker i)).run h = (.ok task', h')) : Fits used h'.locks task' := by
  cases task with
  | idle =>
      cases hstep
      exact .idle _ _
  | trying name timeout deadline left =>
      have hask := hserved.run_ask i name timeout h
      obtain ⟨granted, h₁, hrun, hstep⟩ := Locker.run_bind_eq_ok hstep
      rw [hrun] at hask
      cases granted with
      | true =>
          cases hstep
          exact .idle _ _
      | false =>
          -- Refused: the list is as before, and what is left asks for the same lock or is nothing.
          obtain ⟨more, h₂, hpause, hstep⟩ := Locker.run_bind_eq_ok hstep
          have hlocks : h₂.locks = h.locks := by
            rw [Locker.run_onHost] at hpause
            obtain ⟨-, rfl⟩ := Prod.mk.inj hpause
            exact hask.1
          cases more <;> cases left <;> cases hstep
          · exact .idle _ _
          · exact .idle _ _
          · exact .idle _ _
          · exact ⟨hlocks ▸ hfits.asked, hfits.returning⟩
  | releasing name =>
      obtain ⟨_, _, -, hstep⟩ := Locker.run_bind_eq_ok hstep
      cases hstep
      exact .idle _ _
  | releasingAll names =>
      cases names with
      | nil =>
          cases hstep
          exact .idle _ _
      | cons name rest =>
          obtain ⟨_, _, -, hstep⟩ := Locker.run_bind_eq_ok hstep
          cases hstep
          exact .of_asked?_eq_none rfl fun name' hmem =>
            hfits.returning name' (List.mem_cons_of_mem name hmem)

/-- Starting an operation only looks. -/
theorem ServedBy.run_start (hserved : f.ServedBy b) {used : Set String} (i : ι)
    (op : Locker.Operation) (hused : ∀ name ∈ op.name?, name ∈ used) (h : Holding σ)
    (hlisted : ∀ name ∈ h.locks, name ∈ used) :
    ∃ task, (op.start (f.locker i)).run h = (.ok task, h) ∧ Fits used h.locks task := by
  cases op with
  | acquire name timeout =>
      by_cases hlocks : name ∈ h.locks
      · exact ⟨.idle, by simp [Locker.Operation.start, Action.run_bind, hlocks], .idle _ _⟩
      · refine ⟨.trying name timeout ((f.locker i).host.now h.world + timeout)
          ((f.locker i).moreAttempts timeout), ?_, ?_, by simp [Locker.Task.returning]⟩
        · simp [Locker.Operation.start, Action.run_bind, hlocks, Locker.run_onHost]
        · rintro _ ⟨⟩
          exact ⟨hused name rfl, hlocks⟩
  | release name =>
      refine ⟨.releasing name, rfl, .of_asked?_eq_none rfl ?_⟩
      simpa [Locker.Task.returning] using hused name rfl
  | releaseAll =>
      refine ⟨.releasingAll h.locks, ?_, .of_asked?_eq_none rfl hlisted⟩
      simp [Locker.Operation.start, Action.run_bind, hserved.isOpen]

/-! ### What every step keeps -/

/-- Each list says how often the database has granted each lock to the session of the client. -/
structure Kept (f : Fleet σ ι) (b : Backend) (used : Set String) (s : Site σ ι) : Prop where
  listed : ∀ i, ∀ name ∈ (s.clients i).locks, name ∈ used
  nodup : ∀ i, (s.clients i).locks.Nodup
  counted : ∀ i, ∀ name ∈ used,
    f.grants s.world i (b.lockKey name) = (s.clients i).locks.count name
  apart : ∀ i j name, name ∈ (s.clients i).locks → name ∈ (s.clients j).locks → i = j
  fits : ∀ i, Fits used (s.clients i).locks (s.clients i).task

theorem Fresh.kept {used : Set String} {s : Site σ ι} (hfresh : f.Fresh s) :
    f.Kept b used s where
  listed i name hname := by simp [hfresh.locks] at hname
  nodup i := by simp [hfresh.locks]
  counted i name _ := by simp [hfresh.locks, hfresh.grants]
  apart i j name hname := by simp [hfresh.locks] at hname
  fits i := by
    rw [hfresh.task]
    exact .idle _ _

variable [DecidableEq ι] {used : Set String}

/-- Only what one client lists has changed, and it is in step with the database. -/
theorem Kept.put_of {s : Site σ ι} (hkept : f.Kept b used s) {i : ι} {h' : Holding σ}
    {task' : Locker.Task} (hlisted : ∀ name ∈ h'.locks, name ∈ used) (hnodup : h'.locks.Nodup)
    (hself : ∀ name ∈ used, f.grants h'.world i (b.lockKey name) = h'.locks.count name)
    (hothers : ∀ j, j ≠ i → ∀ name ∈ used,
      f.grants h'.world j (b.lockKey name) = f.grants s.world j (b.lockKey name))
    (hapart : ∀ j, j ≠ i → ∀ name ∈ h'.locks, name ∉ (s.clients j).locks)
    (hfits : Fits used h'.locks task') : f.Kept b used (s.put i task' h') where
  listed j := by
    by_cases hj : j = i
    · rwa [hj, Site.clients_put_self]
    · rw [Site.clients_put_of_ne hj]
      exact hkept.listed j
  nodup j := by
    by_cases hj : j = i
    · rwa [hj, Site.clients_put_self]
    · rw [Site.clients_put_of_ne hj]
      exact hkept.nodup j
  counted j name hname := by
    by_cases hj : j = i
    · rw [hj, Site.clients_put_self]
      exact hself name hname
    · rw [Site.clients_put_of_ne hj, ← hkept.counted j name hname]
      exact hothers j hj name hname
  apart j k name hj hk := by
    by_cases hji : j = i <;> by_cases hki : k = i
    · rw [hji, hki]
    · rw [hji, Site.clients_put_self] at hj
      rw [Site.clients_put_of_ne hki] at hk
      exact absurd hk (hapart k hki name hj)
    · rw [hki, Site.clients_put_self] at hk
      rw [Site.clients_put_of_ne hji] at hj
      exact absurd hj (hapart j hji name hk)
    · rw [Site.clients_put_of_ne hji] at hj
      rw [Site.clients_put_of_ne hki] at hk
      exact hkept.apart j k name hj hk
  fits j := by
    by_cases hj : j = i
    · rwa [hj, Site.clients_put_self]
    · rw [Site.clients_put_of_ne hj]
      exact hkept.fits j

/-- Different names in use are different locks to the database. -/
theorem lockKey_ne (hkey : used.InjOn b.lockKey) {name other : String} (hname : name ∈ used)
    (hother : other ∈ used) (hne : other ≠ name) : b.lockKey other ≠ b.lockKey name :=
  fun h => hne (hkey hother hname h)

section Put

variable {s : Site σ ι} (hkept : f.Kept b used s) {i : ι} {name : String} {h' : Holding σ}
  {task' : Locker.Task}

include hkept

/-- A client that changes nothing of the locks. -/
theorem Kept.put_same (hlocks : h'.locks = (s.clients i).locks)
    (hgrants : f.grants h'.world = f.grants s.world) (hfits : Fits used h'.locks task') :
    f.Kept b used (s.put i task' h') := by
  refine hkept.put_of ?_ ?_ ?_ ?_ ?_ hfits
  · rw [hlocks]
    exact hkept.listed i
  · rw [hlocks]
    exact hkept.nodup i
  · rw [hlocks, hgrants]
    exact hkept.counted i
  · intro j _ name _
    rw [hgrants]
  · intro j hj name hmem hmem'
    rw [hlocks] at hmem
    exact hj (hkept.apart j i name hmem' hmem)

/-- A client that is granted a lock which it does not list. -/
theorem Kept.put_took (hkey : used.InjOn b.lockKey) (hused : name ∈ used)
    (hnew : name ∉ (s.clients i).locks) (hlocks : h'.locks = (s.clients i).locks ++ [name])
    (hgranted : f.Granted i (b.lockKey name) s.world h'.world)
    (hfits : Fits used h'.locks task') : f.Kept b used (s.put i task' h') := by
  refine hkept.put_of ?_ ?_ ?_ ?_ ?_ hfits
  · simpa [hlocks, hused, or_imp, forall_and] using hkept.listed i
  · rw [hlocks, List.nodup_append]
    refine ⟨hkept.nodup i, List.nodup_singleton name, ?_⟩
    intro other hmem _ hlast
    rw [List.mem_singleton.mp hlast]
    exact ne_of_mem_of_not_mem hmem hnew
  · -- The count of this lock goes up by one on both sides, and no other count changes.
    intro other hother
    rw [hlocks, List.count_append, ← hkept.counted i other hother]
    by_cases heq : other = name
    · rw [heq, hgranted.count, List.count_singleton_self]
    · rw [hgranted.rest i _ (by simp [lockKey_ne hkey hused hother heq])]
      simp [Ne.symm heq]
  · intro j hj other _
    exact hgranted.rest j _ (by simp [hj])
  · -- No other client lists the lock, since no other session had it.
    intro j hj other hmem hmem'
    rw [hlocks, List.mem_append, List.mem_singleton] at hmem
    rcases hmem with hmem | rfl
    · exact hj (hkept.apart j i other hmem' hmem)
    · have hnone := hgranted.free j hj
      rw [hkept.counted j other hused] at hnone
      exact List.count_eq_zero.mp hnone hmem'

/-- A client whose lock is taken back. -/
theorem Kept.put_gave (hkey : used.InjOn b.lockKey) (hused : name ∈ used)
    (hlocks : h'.locks = (s.clients i).locks.erase name)
    (hreturned : f.Returned i (b.lockKey name) s.world h'.world)
    (hfits : Fits used h'.locks task') : f.Kept b used (s.put i task' h') := by
  refine hkept.put_of ?_ ?_ ?_ ?_ ?_ hfits
  · intro other hmem
    rw [hlocks] at hmem
    exact hkept.listed i other (List.mem_of_mem_erase hmem)
  · rw [hlocks]
    exact (hkept.nodup i).erase name
  · -- The session had the lock, so that the list has it too and one entry goes.
    intro other hother
    rw [hlocks]
    by_cases heq : other = name
    · have hcount := hreturned.count
      rw [hkept.counted i name hused] at hcount
      rw [heq, List.count_erase_self]
      omega
    · rw [List.count_erase_of_ne heq, ← hkept.counted i other hother]
      exact hreturned.rest i _ (by simp [lockKey_ne hkey hused hother heq])
  · intro j hj other _
    exact hreturned.rest j _ (by simp [hj])
  · intro j hj other hmem hmem'
    rw [hlocks] at hmem
    exact hj (hkept.apart j i other hmem' (List.mem_of_mem_erase hmem))

/-- What a client does keeps the lists in step with the database. -/
theorem Kept.put (hkey : used.InjOn b.lockKey)
    (heffect : f.Effect b i (s.clients i).task.asked? (s.clients i).task.returning (s.holding i) h')
    (hfits : Fits used h'.locks task') : f.Kept b used (s.put i task' h') := by
  cases heffect with
  | nothing locks grants => exact hkept.put_same locks grants hfits
  | took name hname locks granted =>
      obtain ⟨hused, hnew⟩ := (hkept.fits i).asked name hname
      exact hkept.put_took hkey hused hnew locks granted hfits
  | gave name hname locks returned =>
      exact hkept.put_gave hkey ((hkept.fits i).returning name hname) locks returned hfits

end Put

/-- Every step keeps the lists in step with the database. -/
theorem Kept.step (hserved : f.ServedBy b) (hkey : used.InjOn b.lockKey) {s s' : Site σ ι}
    (hkept : f.Kept b used s) (hstep : f.Step used s s') : f.Kept b used s' := by
  cases hstep with
  | start i op hidle hused =>
      obtain ⟨task, hrun, hfits⟩ :=
        hserved.run_start i op hused (s.holding i) (hkept.listed i)
      rw [Site.act, hrun]
      exact hkept.put hkey (.nothing rfl rfl) hfits
  | proceed i =>
      have heffect := hserved.effect_step i (s.clients i).task (s.holding i)
      rw [Site.act]
      rcases hrun : ((s.clients i).task.step (f.locker i)).run (s.holding i) with ⟨e | task, h⟩ <;>
        rw [hrun] at heffect
      · exact hkept.put hkey heffect (.idle _ _)
      · exact hkept.put hkey heffect (hserved.fits_step i (hkept.fits i) hrun)
  | elsewhere world hgrants =>
      refine { hkept with counted := fun i name hname => ?_ }
      rw [hgrants]
      exact hkept.counted i name hname

/-- After any interleaving of steps of any number of clients, the locks that a client lists have
been granted to its session exactly once, each is listed once, and no two clients list the same
lock. The steps of each client are those of acquiring a lock, of releasing one and of releasing all,
as its locker performs them. -/
theorem exclusive (f : Fleet σ ι) (b : Backend) (used : Set String) (hserved : f.ServedBy b)
    (hkeys : b = .postgres → used.InjOn lockKeys) {s₀ s : Site σ ι} (hfresh : f.Fresh s₀)
    (hreaches : f.Reaches used s₀ s) :
    (∀ i, ∀ name ∈ (s.clients i).locks, f.grants s.world i (b.lockKey name) = 1) ∧
    (∀ i, (s.clients i).locks.Nodup) ∧
    (∀ i j name, name ∈ (s.clients i).locks → name ∈ (s.clients j).locks → i = j) ∧
    ∀ i, f.Performs used s i := by
  have hkey : used.InjOn b.lockKey := by
    intro name hname other hother heq
    obtain ⟨rfl, -⟩ | ⟨rfl, -⟩ := hserved.calls
    · obtain ⟨hhigh, hlow⟩ := LockKey.numbers.inj heq
      exact hkeys rfl hname hother (Prod.ext (by omega) (by omega))
    · simpa [Backend.lockKey] using heq
  have hkept : f.Kept b used s := by
    induction hreaches with
    | refl => exact hfresh.kept
    | tail _ hstep ih => exact ih.step hserved hkey hstep
  refine ⟨fun i name hname => ?_, hkept.nodup, hkept.apart, f.performs used s⟩
  rw [hkept.counted i name (hkept.listed i name hname)]
  exact List.count_eq_one_of_mem (hkept.nodup i) hname

end Fleet

/-! ### A table of locks -/

/-- A database that is nothing but its locks, for two sessions: how often it has granted each lock
to each session. -/
structure LockTable where
  count : Bool → LockKey → Nat

namespace LockTable

/-- Sets one count. -/
def set (t : LockTable) (i : Bool) (k : LockKey) (n : Nat) : LockTable :=
  ⟨fun j k' => if (j, k') = (i, k) then n else t.count j k'⟩

/-- Grants a lock unless the other session has it. -/
def take (i : Bool) (k : LockKey) : Action LockTable Value := fun t =>
  if t.count (!i) k = 0 then (.ok (.bool true), t.set i k (t.count i k + 1))
  else (.ok (.bool false), t)

/-- Takes a lock back from a session that has it. -/
def give (i : Bool) (k : LockKey) : Action LockTable Value := fun t =>
  if 0 < t.count i k then (.ok (.bool true), t.set i k (t.count i k - 1))
  else (.ok (.bool false), t)

/-- Answers the lock calls of PostgreSQL. -/
def query (i : Bool) (sql : String) (params : Entries Value) : Action LockTable Value :=
  match params with
  | [(_, .int high), (_, .int low)] =>
    if sql = "SELECT pg_try_advisory_lock(:key1, :key2)" then take i (.numbers high low)
    else give i (.numbers high low)
  | _ => throw (.fault .driver "no such function")

/-- The connection of a session. Time does not pass. -/
def host (i : Bool) : LockHost LockTable where
  dialect := .standard .postgres
  isOpen _ := true
  query := query i
  call _ _ := throw (.fault .driver "no such procedure")
  now _ := 0
  sleep _ t := t

/-- Two PostgreSQL lockers. -/
def fleet : Fleet LockTable Bool := ⟨fun i => ⟨.postgres 50, host i⟩, LockTable.count⟩

theorem answers_take (i : Bool) (k : LockKey) :
    fleet.Answers (take i k) (.bool true) [.bool false] (fleet.Granted i k) := by
  intro t
  by_cases hfree : t.count (!i) k = 0
  · have hrun : (take i k).run t = (.ok (.bool true), t.set i k (t.count i k + 1)) :=
      if_pos hfree
    rw [hrun]
    refine .inl ⟨rfl, ?_, if_pos rfl, fun j k' hother => if_neg hother⟩
    intro j hj
    have hj' : j = !i := by cases i <;> cases j <;> simp_all
    rwa [hj']
  · have hrun : (take i k).run t = (.ok (.bool false), t) := if_neg hfree
    rw [hrun]
    exact .inr ⟨by simp, rfl⟩

theorem answers_give (i : Bool) (k : LockKey) :
    fleet.Answers (give i k) (.bool true) [.bool false] (fleet.Returned i k) := by
  intro t
  by_cases hheld : 0 < t.count i k
  · have hrun : (give i k).run t = (.ok (.bool true), t.set i k (t.count i k - 1)) :=
      if_pos hheld
    have hleft : (t.set i k (t.count i k - 1)).count i k = t.count i k - 1 := if_pos rfl
    rw [hrun]
    refine .inl ⟨rfl, ?_, fun j k' hother => if_neg hother⟩
    show t.count i k = (t.set i k (t.count i k - 1)).count i k + 1
    omega
  · have hrun : (give i k).run t = (.ok (.bool false), t) := if_neg hheld
    rw [hrun]
    exact .inr ⟨by simp, rfl⟩

theorem servedBy_fleet : fleet.ServedBy .postgres where
  isOpen _ _ := rfl
  sleep _ _ _ := rfl
  calls := .inl ⟨rfl, fun i _ _ => answers_take i _, fun i _ _ => answers_give i _⟩
  scheme _ := rfl

end LockTable

/-- Two clients ask for one lock, and only the first one gets it. -/
theorem Fleet.exclusive_jobs :
    let f := LockTable.fleet
    let s₀ : Site LockTable Bool := ⟨fun _ => {}, ⟨fun _ _ => 0⟩⟩
    let asked : Bool → Site LockTable Bool → Site LockTable Bool := fun i s =>
      s.act i ((Locker.Operation.acquire "jobs" 0).start (f.locker i))
    let tried : Bool → Site LockTable Bool → Site LockTable Bool := fun i s =>
      s.act i ((s.clients i).task.step (f.locker i))
    let s := tried false (tried true (asked false (asked true s₀)))
    (s.clients true).locks = ["jobs"] ∧ (s.clients false).locks = [] ∧
      f.grants s.world true (Backend.postgres.lockKey "jobs") = 1 := by
  intro f s₀ asked tried s
  have hfresh : f.Fresh s₀ := ⟨fun _ => rfl, fun _ => rfl, fun _ _ => rfl⟩
  have htrue : (s.clients true).locks = ["jobs"] := by decide +kernel
  have hfalse : (s.clients false).locks = [] := by decide +kernel
  have hasked : ∀ i s, (s.clients i).task = .idle → f.Step {"jobs"} s (asked i s) := by
    intro i s hidle
    exact .start s i (.acquire "jobs" 0) hidle (by simp [Locker.Operation.name?])
  have hreaches : f.Reaches {"jobs"} s₀ s := by
    have h₁ : f.Reaches {"jobs"} s₀ (asked true s₀) := .single (hasked true s₀ rfl)
    have h₂ := h₁.tail (hasked false (asked true s₀) rfl)
    have h₃ := h₂.tail (.proceed _ true)
    exact h₃.tail (.proceed _ false)
  obtain ⟨hgranted, -⟩ := Fleet.exclusive f .postgres {"jobs"} LockTable.servedBy_fleet
    (fun _ => Set.injOn_singleton _ _) hfresh hreaches
  exact ⟨htrue, hfalse, hgranted true "jobs" (by simp [htrue])⟩

end SqlLoom
