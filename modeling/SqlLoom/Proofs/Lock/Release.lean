import Mathlib.Data.List.Nodup
import SqlLoom.Proofs.Lock.Steps
import SqlLoom.Rehearsal.LockHost

/-!
# `SqlLoom.Proofs.Lock.Release`: every lock is given back once

`Locker.releaseAll` takes locks off the list that it goes through. `Locker.tries` are the calls
that give the locks of a list back, one after the other and whatever comes of each, and
`keptLocks` are the locks whose call has been refused or has failed. Which calls are made is seen
over a connection that notes each of them (`LockHost.recorded`).

* `Locker.run_releaseEach`: if each call is accepted, refused, or fails with an error of this
  library, then exactly these calls are made, and each accepted one strikes one lock off the list.
* `Locker.Reached.nodup`: no lock is listed twice, so that what is left are the locks that are kept.
* `Locker.releases_each_once`: every lock is tried once, nothing is raised, and giving back every
  lock again tries those that were kept.
-/

set_option autoImplicit false

namespace SqlLoom

variable {σ : Type}

/-- A call that gives a lock back, and what came of it. -/
structure ReleaseCall where
  lock : String
  answer : Except Error Bool

namespace ReleaseCall

/-- The database has taken the lock back. -/
def isAccepted (c : ReleaseCall) : Bool :=
  match c.answer with
  | .ok granted => granted
  | .error _ => false

/-- The call is accepted, refused, or fails with an error of this library. -/
def isReported (c : ReleaseCall) : Bool :=
  match c.answer with
  | .ok _ => true
  | .error e => e.isOwn

end ReleaseCall

/-- The locks that have been given back. -/
def freedLocks (calls : List ReleaseCall) : List String :=
  (calls.filter (·.isAccepted)).map (·.lock)

/-- The locks whose call has been refused or has failed. -/
def keptLocks (calls : List ReleaseCall) : List String :=
  (calls.filter fun c => !c.isAccepted).map (·.lock)

/-! ### A record of the calls -/

/-- The connection, with a record of the calls that are made over it. -/
def LockHost.recorded (host : LockHost σ) : LockHost (σ × List LockCall) where
  dialect := host.dialect
  isOpen s := host.isOpen s.1
  query text params := do
    Action.change fun s => (s.1, s.2 ++ [⟨text, params⟩])
    (host.query text params).onPart Prod.fst fun w s => (w, s.2)
  call text params := do
    Action.change fun s => (s.1, s.2 ++ [⟨text, params⟩])
    (host.call text params).onPart Prod.fst fun w s => (w, s.2)
  now s := host.now s.1
  sleep seconds s := (host.sleep seconds s.1, s.2)

/-- The locker over a connection with a record. -/
def Locker.recorded (m : Locker σ) : Locker (σ × List LockCall) := ⟨m.scheme, m.host.recorded⟩

/-- What is held over a connection with a record. -/
def Holding.recorded (h : Holding σ) (log : List LockCall) : Holding (σ × List LockCall) :=
  ⟨h.locks, h.warnings, (h.world, log)⟩

/-- The call that gives a lock back. -/
def Scheme.releaseCall (c : Scheme) (name : String) : LockCall :=
  match c with
  | .postgres _ => ⟨"SELECT pg_advisory_unlock(:key1, :key2)", keyParams name⟩
  | .mysql => ⟨"SELECT RELEASE_LOCK(:name)", [(":name", .text name)]⟩
  | .oracle .. =>
    ⟨oracleBlock ":result" "RELEASE(handle)",
      [(":name", .text name), (":result", .out .int 1 none .null)]⟩

/-- Giving a lock back is one call. -/
theorem Scheme.giveBack_recorded (c : Scheme) (host : LockHost σ) (name : String) (w : σ)
    (log : List LockCall) :
    (c.giveBack host.recorded name).run (w, log) =
      let (answer, w') := (c.giveBack host name).run w
      (answer, (w', log ++ [c.releaseCall name])) := by
  cases c with
  | postgres delay =>
      simp only [giveBack, LockHost.recorded, Action.run_bind, Action.run_change,
        Action.run_onPart]
      rcases (host.query _ _).run w with ⟨e | answer, w'⟩ <;> rfl
  | mysql =>
      simp only [giveBack, LockHost.recorded, Action.run_bind, Action.run_change,
        Action.run_onPart]
      rcases (host.query _ _).run w with ⟨e | answer, w'⟩ <;> rfl
  | oracle mode releaseOnCommit =>
      simp only [giveBack, callOracle, LockHost.recorded, Action.run_bind, Action.run_change,
        Action.run_onPart]
      rcases (host.call _ _).run w with ⟨e | after, w'⟩
      · rfl
      · simp only
        split <;> rfl

/-! ### Which locks are left -/

theorem freedLocks_cons (c : ReleaseCall) (calls : List ReleaseCall) :
    freedLocks (c :: calls)
      = if c.isAccepted then c.lock :: freedLocks calls else freedLocks calls := by
  cases h : c.isAccepted <;> simp [freedLocks, h]

theorem keptLocks_cons (c : ReleaseCall) (calls : List ReleaseCall) :
    keptLocks (c :: calls)
      = if c.isAccepted then keptLocks calls else c.lock :: keptLocks calls := by
  cases h : c.isAccepted <;> simp [keptLocks, h]

theorem keptLocks_sublist (calls : List ReleaseCall) :
    (keptLocks calls).Sublist (calls.map (·.lock)) :=
  List.filter_sublist.map _

/-- Without the locks that are given back there are left, in order, those that are kept. -/
theorem diff_freedLocks {calls : List ReleaseCall} (h : (calls.map (·.lock)).Nodup) :
    (calls.map (·.lock)).diff (freedLocks calls) = keptLocks calls := by
  rw [h.sdiff_eq_filter, List.filter_map, keptLocks]
  refine congrArg (List.map _) (List.filter_congr fun c hc => ?_)
  -- A lock that is listed once is the lock of one call.
  have hiff : c.lock ∈ freedLocks calls ↔ c.isAccepted = true := by
    refine ⟨fun hmem => ?_, fun haccepted => ?_⟩
    · obtain ⟨c', hc', hlock⟩ := List.mem_map.mp hmem
      obtain ⟨hc', haccepted⟩ := List.mem_filter.mp hc'
      rwa [← List.inj_on_of_nodup_map h hc' hc hlock]
    · exact List.mem_map_of_mem (List.mem_filter.mpr ⟨hc, haccepted⟩)
  cases haccepted : c.isAccepted <;> simp [hiff, haccepted]

namespace Locker

variable (m : Locker σ)

/-! ### The calls -/

/-- The calls that give the locks of a list back, one after the other, and the world after them. -/
def tries : List String → σ → List ReleaseCall × σ
  | [], w => ([], w)
  | name :: rest, w =>
    let (answer, w₁) := (m.scheme.giveBack m.host name).run w
    let (calls, w₂) := tries rest w₁
    (⟨name, answer⟩ :: calls, w₂)

/-- There is one call for each lock, in order. -/
@[simp]
theorem map_lock_tries (names : List String) (w : σ) :
    (m.tries names w).1.map (·.lock) = names := by
  induction names generalizing w with
  | nil => rfl
  | cons name rest ih => exact congrArg (name :: ·) (ih _)

/-- Over a connection with a record the calls have the same answers, and all of them are noted. -/
theorem tries_recorded (names : List String) (w : σ) (log : List LockCall) :
    m.recorded.tries names (w, log) =
      let (calls, w') := m.tries names w
      (calls, (w', log ++ names.map m.scheme.releaseCall)) := by
  induction names generalizing w log with
  | nil => simp [tries]
  | cons name rest ih =>
      have hcall := m.scheme.giveBack_recorded m.host name w log
      simp only [tries, recorded] at ih hcall ⊢
      simp only [hcall, ih, List.map_cons, List.append_assoc, List.singleton_append]

/-- One lock is given back by one call. It is struck off the list, or there is a warning. -/
theorem run_releaseOrWarn {name : String} {h : Holding σ} {answer : Except Error Bool} {w : σ}
    (hcall : (m.scheme.giveBack m.host name).run h.world = (answer, w))
    (hreported : ReleaseCall.isReported ⟨name, answer⟩ = true) :
    (m.releaseOrWarn name).run h = (.ok (),
      if ReleaseCall.isAccepted ⟨name, answer⟩ then ⟨h.locks.erase name, h.warnings, w⟩
      else ⟨h.locks, h.warnings ++ [.lockKept name], w⟩) := by
  rw [releaseOrWarn, Action.run_tryCatch, Action.run_bind, release, Action.run_bind, run_onHost,
    hcall]
  cases answer with
  | error e =>
      have hown : e.isOwn = true := hreported
      simp only [hown, if_true]
      rfl
  | ok granted => cases granted <;> rfl

/-- Giving the locks of a list back makes one call for each. Whatever is accepted is struck off,
and there is a warning for each lock that is kept. -/
theorem run_releaseEach (names : List String) (h : Holding σ)
    (hreported : ∀ c ∈ (m.tries names h.world).1, c.isReported = true) :
    (m.releaseEach names).run h =
      let (calls, w) := m.tries names h.world
      (.ok (), ⟨h.locks.diff (freedLocks calls),
        h.warnings ++ (keptLocks calls).map .lockKept, w⟩) := by
  induction names generalizing h with
  | nil => simp [tries, releaseEach, freedLocks, keptLocks]
  | cons name rest ih =>
      rcases hcall : (m.scheme.giveBack m.host name).run h.world with ⟨answer, w⟩
      simp only [tries, hcall, List.forall_mem_cons] at hreported ⊢
      obtain ⟨hfirst, hrest⟩ := hreported
      rw [releaseEach, Action.run_bind, m.run_releaseOrWarn hcall hfirst]
      -- The rest of the locks is given back from the list that this call leaves.
      cases haccepted : ReleaseCall.isAccepted ⟨name, answer⟩ with
      | true =>
          simp only [if_true, ih ⟨h.locks.erase name, h.warnings, w⟩ hrest, freedLocks_cons,
            keptLocks_cons, haccepted, List.diff_cons]
      | false =>
          simp only [Bool.false_eq_true, if_false,
            ih ⟨h.locks, h.warnings ++ [.lockKept name], w⟩ hrest, freedLocks_cons, keptLocks_cons,
            haccepted, List.map_cons, List.append_assoc, List.singleton_append]

/-! ### What a locker lists -/

/-- What a locker gets to hold by its operations, over a connection to which anything else may
happen in between. -/
inductive Reached (m : Locker σ) : Holding σ → Prop where
  | fresh (w : σ) : Reached m ⟨[], [], w⟩
  | perform {h : Holding σ} (op : Operation) (hreached : Reached m h) :
      Reached m ((op.perform m).run h).2
  | elsewhere {h : Holding σ} (w : σ) (hreached : Reached m h) : Reached m { h with world := w }

/-- An action after which no lock is listed twice, if none was before. -/
def ListsOnce {α : Type} (a : Action (Holding σ) α) : Prop :=
  ∀ h, h.locks.Nodup → (a.run h).2.locks.Nodup

namespace ListsOnce

variable {α β : Type} {a : Action (Holding σ) α}

theorem pure (v : α) : ListsOnce (Pure.pure v : Action (Holding σ) α) := fun _ hlocks => hlocks

theorem throw (e : Error) : ListsOnce (throw e : Action (Holding σ) α) := fun _ hlocks => hlocks

theorem read (f : Holding σ → α) : ListsOnce (Action.read f) := fun _ hlocks => hlocks

theorem onHost (a : Action σ α) : ListsOnce (Locker.onHost a) := fun _ hlocks => hlocks

theorem warnKept (name : String) : ListsOnce (Locker.warnKept name : Action (Holding σ) Unit) :=
  fun _ hlocks => hlocks

theorem strike (name : String) :
    ListsOnce (setLocks (·.erase name) : Action (Holding σ) Unit) :=
  fun _ hlocks => hlocks.erase name

theorem forget : ListsOnce (setLocks fun _ => [] : Action (Holding σ) Unit) :=
  fun _ _ => List.nodup_nil

theorem bind {next : α → Action (Holding σ) β} (ha : ListsOnce a)
    (hnext : ∀ v, ListsOnce (next v)) : ListsOnce (a >>= next) := by
  intro h hlocks
  have hfirst := ha h hlocks
  rw [Action.run_bind]
  rcases hrun : a.run h with ⟨e | v, h'⟩ <;> rw [hrun] at hfirst
  · exact hfirst
  · exact hnext v h' hfirst

theorem tryCatch {handle : Error → Action (Holding σ) α} (ha : ListsOnce a)
    (hhandle : ∀ e, ListsOnce (handle e)) : ListsOnce (tryCatch a handle) := by
  intro h hlocks
  have hfirst := ha h hlocks
  rw [Action.run_tryCatch]
  rcases hrun : a.run h with ⟨e | v, h'⟩ <;> rw [hrun] at hfirst
  · exact hhandle e h' hfirst
  · exact hfirst

theorem ite (p : Prop) [Decidable p] {b : Action (Holding σ) α} (ha : ListsOnce a)
    (hb : ListsOnce b) : ListsOnce (if p then a else b) := by
  split
  · exact ha
  · exact hb

/-- A lock that is listed already is not asked for. -/
theorem acquire (m : Locker σ) (name : String) (timeout : Rat) :
    ListsOnce (m.acquire name timeout) := by
  intro h hlocks
  rw [Locker.acquire, Action.run_bind, Action.run_read]
  cases hlisted : h.locks.contains name with
  | true =>
      simp only [hlisted, if_true]
      exact hlocks
  | false =>
      have hnew : name ∉ h.locks := by simpa using hlisted
      simp only [hlisted, Bool.false_eq_true, if_false, Action.run_bind, run_onHost]
      rcases (m.scheme.request m.host name timeout).run h.world with ⟨e | granted, w⟩
      · exact hlocks
      · cases granted with
        | true =>
            show (h.locks ++ [name]).Nodup
            exact List.concat_eq_append ▸ hlocks.concat hnew
        | false => exact hlocks

theorem release (m : Locker σ) (name : String) : ListsOnce (m.release name) :=
  (onHost _).bind fun _ => ite _ ((strike name).bind fun _ => pure _) (pure _)

theorem releaseOrWarn (m : Locker σ) (name : String) : ListsOnce (m.releaseOrWarn name) :=
  ((release m name).bind fun _ => ite _ (warnKept name) (pure _)).tryCatch fun _ =>
    ite _ (warnKept name) (throw _)

theorem releaseEach (m : Locker σ) (names : List String) : ListsOnce (m.releaseEach names) := by
  induction names with
  | nil => exact pure ()
  | cons name rest ih => exact (releaseOrWarn m name).bind fun _ => ih

theorem perform (m : Locker σ) (op : Operation) : ListsOnce (op.perform m) := by
  cases op with
  | acquire name timeout => exact (acquire m name timeout).bind fun _ => pure _
  | release name => exact (release m name).bind fun _ => pure _
  | releaseAll => exact (read id).bind fun h => ite _ (releaseEach m h.locks) forget

end ListsOnce

variable {m}

/-- No lock is ever listed twice. -/
theorem Reached.nodup {h : Holding σ} (hreached : m.Reached h) : h.locks.Nodup := by
  induction hreached with
  | fresh w => exact List.nodup_nil
  | perform op _ ih => exact ListsOnce.perform m op _ ih
  | elsewhere w _ ih => exact ih

variable (m)

/-- Giving back every lock over an open connection gives back the locks that are listed. -/
theorem run_releaseAll {h : Holding σ} (hopen : m.host.isOpen h.world = true) :
    m.releaseAll.run h = (m.releaseEach h.locks).run h := by
  rw [releaseAll, Action.run_bind, Action.run_read]
  simp only [id, hopen, if_true]

theorem run_releaseAll_of_closed {h : Holding σ} (hclosed : m.host.isOpen h.world = false) :
    m.releaseAll.run h = (.ok (), { h with locks := [] }) := by
  rw [releaseAll, Action.run_bind, Action.run_read]
  simp only [id, hclosed, Bool.false_eq_true, if_false]
  rfl

/-- What giving back every lock comes to. -/
structure TriesEachOnce (m : Locker σ) (h : Holding σ) : Prop where
  /-- Over a closed connection there is no call, and the locks are forgotten. -/
  forgotten : m.host.isOpen h.world = false →
    m.releaseAll.run h = (.ok (), { h with locks := [] }) ∧
      ∀ log, (m.recorded.releaseAll.run (h.recorded log)).2.world = (h.world, log)
  /-- Over an open one the calls that are made are one for each lock, in the order in which they
  were taken. The locks whose call has not been accepted are kept, in that order, with a warning for
  each. -/
  tried : m.host.isOpen h.world = true → ∀ calls w, m.tries h.locks h.world = (calls, w) →
    calls.map (·.lock) = h.locks ∧ ((∀ c ∈ calls, c.isReported = true) →
      m.releaseAll.run h
        = (.ok (), ⟨keptLocks calls, h.warnings ++ (keptLocks calls).map .lockKept, w⟩) ∧
      ∀ log, (m.recorded.releaseAll.run (h.recorded log)).2.world
        = (w, log ++ h.locks.map m.scheme.releaseCall))

theorem triesEachOnce_of_nodup {h : Holding σ} (hlocks : h.locks.Nodup) : m.TriesEachOnce h where
  forgotten hclosed := by
    refine ⟨m.run_releaseAll_of_closed hclosed, fun log => ?_⟩
    have hclosed' : m.recorded.host.isOpen (h.recorded log).world = false := hclosed
    rw [run_releaseAll_of_closed _ hclosed']
    rfl
  tried hopen calls w htries := by
    have honce : calls.map (·.lock) = h.locks := by
      rw [← m.map_lock_tries h.locks h.world, htries]
    refine ⟨honce, fun hreported => ⟨?_, fun log => ?_⟩⟩
    · have hrun := m.run_releaseEach h.locks h (by rwa [htries])
      have hleft : h.locks.diff (freedLocks calls) = keptLocks calls := by
        rw [← honce] at hlocks ⊢
        exact diff_freedLocks hlocks
      rw [m.run_releaseAll hopen, hrun, htries]
      simp only [hleft]
    · have hopen' : m.recorded.host.isOpen (h.recorded log).world = true := hopen
      have htries' := m.tries_recorded h.locks h.world log
      rw [htries] at htries'
      have hrun := m.recorded.run_releaseEach h.locks (h.recorded log) (by
        show ∀ c ∈ (m.recorded.tries h.locks (h.world, log)).1, c.isReported = true
        rwa [htries'])
      rw [run_releaseAll _ hopen']
      refine (congrArg (·.2.world) hrun).trans ?_
      exact congrArg Prod.snd htries'

/-- Whatever a locker has got to hold, giving back every lock tries each of them once and raises
nothing, and doing so again tries those that were kept. -/
theorem releases_each_once (m : Locker σ) :
    (∀ h, m.Reached h → h.locks.Nodup) ∧
    ∀ h : Holding σ, h.locks.Nodup → m.TriesEachOnce h ∧
      ∀ warnings w, m.TriesEachOnce ⟨keptLocks (m.tries h.locks h.world).1, warnings, w⟩ := by
  refine ⟨fun h => Reached.nodup, fun h hlocks => ⟨m.triesEachOnce_of_nodup hlocks, ?_⟩⟩
  intro warnings w
  have hsublist := keptLocks_sublist (m.tries h.locks h.world).1
  rw [map_lock_tries] at hsublist
  exact m.triesEachOnce_of_nodup (hlocks.sublist hsublist)

/-- One release fails, one is accepted and one refused; the two locks that are kept are tried again
in their order. -/
theorem releases_each_once_jobs :
    let m : Locker ScriptedHost := ⟨.mysql, ScriptedHost.host (.standard .mysql)⟩
    let h : Holding ScriptedHost := ⟨["a", "b", "c"], [],
      { failures := [.backend "gone" none], answers := [.int 1, .int 0, .int 1, .null] }⟩
    let h₁ := (m.releaseAll.run h).2
    let h₂ := (m.releaseAll.run h₁).2
    h.locks.Nodup ∧ (m.releaseAll.run h).1 = .ok () ∧ h₁.locks = ["a", "c"] ∧
      h₁.warnings = [.lockKept "a", .lockKept "c"] ∧
      (m.releaseAll.run h₁).1 = .ok () ∧ h₂.locks = ["c"] ∧ h₂.world.calls.length = 5 := by
  intro m h h₁ h₂
  obtain ⟨-, hall⟩ := releases_each_once m
  have hlocks : h.locks.Nodup := by decide
  obtain ⟨hfirst, hagain⟩ := hall h hlocks
  obtain ⟨-, hrun⟩ := hfirst.tried rfl _ _ rfl
  obtain ⟨-, hrun'⟩ := (hagain h₁.warnings h₁.world).tried rfl _ _ rfl
  obtain ⟨hdone, -⟩ := hrun (by decide)
  obtain ⟨hdone' : m.releaseAll.run h₁ = _, -⟩ := hrun' (by decide)
  refine ⟨hlocks, congrArg Prod.fst hdone, congrArg (·.2.locks) hdone,
    congrArg (·.2.warnings) hdone, congrArg Prod.fst hdone', congrArg (·.2.locks) hdone', ?_⟩
  exact congrArg (·.2.world.calls.length) hdone'

end Locker

end SqlLoom
