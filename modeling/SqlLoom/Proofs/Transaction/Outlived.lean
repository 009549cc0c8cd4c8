import SqlLoom.Connection
import SqlLoom.Proofs.Transaction.Runs
import SqlLoom.Rehearsal.Engine

/-!
# `SqlLoom.Proofs.Transaction.Outlived`: a level that outlives its native transaction

A manager counts levels, and the connection it drives knows whether a native transaction has begun.
Closing the connection ends the native transaction, but the manager never hears of it: once the
connection is open again, the level that was left over counts as an active transaction.

* `Bearing` is what the two say about transactions, and `Bearing.Step` is all that a deed can do to
  it, over any engine and with any failure of it: `Deed.step`.
* `active_native_iff`: an active manager has a native transaction exactly when the connection has
  been open ever since the outermost transaction began. Only then does the outermost commit reach
  the engine; otherwise it does nothing and reports no failure.
* `active_without_native` is a run that ends with an active manager and no native transaction.
-/

set_option autoImplicit false

namespace SqlLoom

variable {σ α β : Type}

/-! ### What a connection keeps -/

namespace Connection

/-- An action that neither opens or closes the connection nor begins or ends a native
transaction. -/
def Keeps (a : Action (State σ) α) : Prop :=
  ∀ s, (a.run s).2.isOpen = s.isOpen ∧ (a.run s).2.inTransaction = s.inTransaction

namespace Keeps

variable {a : Action (State σ) α} {c : Connection σ}

theorem pure (v : α) : Keeps (Pure.pure v : Action (State σ) α) := fun _ => ⟨rfl, rfl⟩

theorem throw (e : Error) : Keeps (throw e : Action (State σ) α) := fun _ => ⟨rfl, rfl⟩

theorem read (f : State σ → α) : Keeps (Action.read f) := fun _ => ⟨rfl, rfl⟩

theorem below (a : Action σ α) : Keeps (Connection.below a) := fun _ => ⟨rfl, rfl⟩

theorem bind {next : α → Action (State σ) β} (ha : Keeps a) (hnext : ∀ v, Keeps (next v)) :
    Keeps (a >>= next) := by
  intro s
  obtain ⟨hopen, hnative⟩ := ha s
  rw [Action.run_bind]
  rcases hrun : a.run s with ⟨e | v, s'⟩ <;> rw [hrun] at hopen hnative
  · exact ⟨hopen, hnative⟩
  · obtain ⟨hopen', hnative'⟩ := hnext v s'
    exact ⟨hopen'.trans hopen, hnative'.trans hnative⟩

theorem tryCatch {handle : Error → Action (State σ) α} (ha : Keeps a)
    (hhandle : ∀ e, Keeps (handle e)) : Keeps (tryCatch a handle) := by
  intro s
  obtain ⟨hopen, hnative⟩ := ha s
  rw [Action.run_tryCatch]
  rcases hrun : a.run s with ⟨e | v, s'⟩ <;> rw [hrun] at hopen hnative
  · obtain ⟨hopen', hnative'⟩ := hhandle e s'
    exact ⟨hopen'.trans hopen, hnative'.trans hnative⟩
  · exact ⟨hopen, hnative⟩

theorem ite (p : Prop) [Decidable p] {b : Action (State σ) α} (ha : Keeps a) (hb : Keeps b) :
    Keeps (if p then a else b) := by
  split
  · exact ha
  · exact hb

theorem requireOpen : Keeps (Connection.requireOpen : Action (State σ) Unit) :=
  (read _).bind fun _ => ite _ (throw _) (pure _)

theorem settle (c : Connection σ) (failed : Bool) : Keeps (c.settle failed) :=
  (read _).bind fun _ => ite _ (below _) (pure _)

theorem submit (c : Connection σ) (sql : String) (binding : Binding) :
    Keeps (c.submit sql binding) := by
  refine (below _).tryCatch fun e => ?_
  cases statementFailure? sql e with
  | none => exact throw e
  | some failure => exact (settle c true).bind fun _ => throw failure

theorem perform (c : Connection σ) (sql : String) (params : Entries Value) :
    Keeps (c.perform sql params) :=
  requireOpen.bind fun _ => ite _ ((throw _).bind fun _ => submit c _ _) (submit c _ _)

theorem fetch (c : Connection σ) (reply : Reply) : Keeps (c.fetch reply) :=
  ite _ (below _) (pure _)

theorem complete (c : Connection σ) (sql : String) (params : Entries Value) :
    Keeps (c.complete sql params) :=
  (perform c sql params).bind fun reply => (fetch c reply).bind fun _ =>
    (settle c false).bind fun _ => pure reply

/-- A statement is no transition between transactions. -/
theorem execute (c : Connection σ) (sql : String) (params : Entries Value) :
    Keeps (c.execute sql params) :=
  (complete c sql params).bind fun _ => pure _

end Keeps

/-! ### What a connection changes -/

/-- Ending a native transaction reaches the engine only where one has begun. -/
theorem run_endNative (a : Action σ Unit) (s : State σ) :
    (endNative a).run s =
      if s.inTransaction then
        ((a.run s.engine).1, { s with inTransaction := false, engine := (a.run s.engine).2 })
      else (.ok (), s) := by
  simp only [endNative, Action.run_bind, Action.run_read, Action.run_ite]
  split <;> rfl

/-- What the engine does before a native transaction has begun. -/
def prepareNative (c : Connection σ) : Action (State σ) Unit := do
  requireOpen
  let s ← Action.read id
  if c.engine.inTransaction s.engine && !s.inTransaction then below c.engine.commit
  below c.engine.begin_

theorem run_beginNative (c : Connection σ) (s : State σ) :
    c.beginNative.run s = match c.prepareNative.run s with
      | (.ok _, s') => (.ok (), { s' with inTransaction := true })
      | (.error e, s') => (.error e, s') := by
  simp only [beginNative, prepareNative, requireOpen, Action.run_bind, Action.run_read]
  cases hopen : s.isOpen with
  | false => rfl
  | true =>
      simp only [Bool.not_true, Bool.false_eq_true, if_false, Action.run_pure, id]
      split
      · simp only [Action.run_bind]
        rcases (below c.engine.commit).run s with ⟨_ | _, s₁⟩
        · rfl
        · dsimp only
          rcases (below c.engine.begin_).run s₁ with ⟨_ | _, s₂⟩ <;> rfl
      · simp only [Action.run_bind]
        rcases (below c.engine.begin_).run s with ⟨_ | _, s₁⟩ <;> rfl

theorem Keeps.prepareNative (c : Connection σ) : Keeps c.prepareNative :=
  requireOpen.bind fun _ => (read _).bind fun _ =>
    ite _ ((below _).bind fun _ => below _) (below _)

/-- A connection that is opened stays open, and no native transaction begins with it. -/
theorem open_changes (c : Connection σ) (s : State σ) :
    (c.open_.run s).2.inTransaction = s.inTransaction ∧
      (s.isOpen = true → (c.open_.run s).2.isOpen = true) := by
  have hconnect : Keeps (tryCatch (below c.engine.connect) fun e => throw (connectionFailure e)) :=
    (Keeps.below _).tryCatch fun _ => .throw _
  obtain ⟨hopen', hnative⟩ := hconnect s
  simp only [open_, Action.run_bind, Action.run_read, Action.run_ite]
  cases hopen : s.isOpen with
  | true => simp [hopen]
  | false =>
      simp only [Bool.not_false, if_true, Bool.false_eq_true, false_implies, and_true]
      rcases hrun : (tryCatch (below c.engine.connect) fun e => throw (connectionFailure e)).run s
        with ⟨_ | _, s'⟩ <;> rw [hrun] at hnative <;> exact hnative

/-- Closing ends a native transaction with the connection, unless the engine fails to close. -/
theorem close_changes (c : Connection σ) (s : State σ) :
    ((c.close.run s).2.isOpen = s.isOpen ∧ (c.close.run s).2.inTransaction = s.inTransaction) ∨
      ((c.close.run s).2.isOpen = false ∧ (c.close.run s).2.inTransaction = false) := by
  simp only [close, Action.run_bind, Action.run_read, Action.run_ite]
  split
  · rcases hrun : (below c.engine.disconnect).run s with ⟨_ | _, s'⟩
    · have hkept := Keeps.below c.engine.disconnect s
      rw [hrun] at hkept
      exact .inl hkept
    · exact .inr ⟨rfl, rfl⟩
  · exact .inl ⟨rfl, rfl⟩

end Connection

/-! ### The manager and its connection together -/

/-- What a manager and its connection say about transactions. -/
structure Bearing where
  level : Nat
  isOpen : Bool
  /-- A native transaction has begun. -/
  native : Bool

/-- What a session says about transactions. -/
def Session.bearing (s : Session (Connection.State σ)) : Bearing :=
  ⟨s.level, s.world.isOpen, s.world.inTransaction⟩

/-- What one deed can do. -/
inductive Bearing.Step : Bearing → Bearing → Prop where
  | idle (b : Bearing) : Step b b
  /-- The outermost transaction begins. -/
  | begun (native : Bool) : Step ⟨0, true, native⟩ ⟨1, true, true⟩
  /-- An inner transaction begins or ends. -/
  | moved (n m : Nat) (isOpen native : Bool) : Step ⟨n + 1, isOpen, native⟩ ⟨m + 1, isOpen, native⟩
  /-- The outermost transaction ends. -/
  | ended (isOpen native : Bool) : Step ⟨1, isOpen, native⟩ ⟨0, isOpen, false⟩
  | opened (n : Nat) (native : Bool) : Step ⟨n, false, native⟩ ⟨n, true, native⟩
  /-- The manager does not hear of it. -/
  | closed (n : Nat) (isOpen native : Bool) : Step ⟨n, isOpen, native⟩ ⟨n, false, false⟩

theorem Bearing.Step.of_eq {b b' : Bearing} (h : b' = b) : Step b b' := h ▸ .idle b'

/-- A manager that drives a connection. -/
def Connection.manager (c : Connection σ) (savepoints? : Option Bool) :
    Manager (Connection.State σ) :=
  ⟨some c.link, savepoints?⟩

/-- What a program does with a manager and with the connection that the manager drives. -/
inductive Deed where
  | operate (op : Operation)
  | execute (sql : String) (params : Entries Value)
  | open_
  | close

/-- An action on the connection that the manager does not hear of. -/
def Action.unheard (a : Action σ α) : Action (Session σ) α :=
  a.onPart Session.world fun world s => { s with world }

/-- A deed as an action. -/
def Deed.perform (c : Connection σ) (savepoints? : Option Bool) :
    Deed → Action (Session (Connection.State σ)) Unit
  | .operate op => op.perform (c.manager savepoints?)
  | .execute sql params => Action.unheard (do let _ ← c.execute sql params)
  | .open_ => c.open_.unheard
  | .close => c.close.unheard

/-- The session after some deeds. Whatever fails, the next deed goes on from what the failure
left. -/
def Deed.after (c : Connection σ) (savepoints? : Option Bool)
    (s : Session (Connection.State σ)) (deeds : List Deed) : Session (Connection.State σ) :=
  deeds.foldl (fun s d => ((d.perform c savepoints?).run s).2) s

variable {c : Connection σ} {savepoints? : Option Bool} {s : Session (Connection.State σ)} {n : Nat}

/-! ### What each deed can do -/

namespace Manager

/-- A command that keeps the connection as it is. -/
theorem bearing_send {l : Link (Connection.State σ)} {command : Command}
    (h : Connection.Keeps (l.issue command)) (s : Session (Connection.State σ)) :
    ((send l command).run s).2.bearing = s.bearing := by
  obtain ⟨hopen, hnative⟩ := h s.world
  rw [run_send]
  simp only [Session.bearing, hopen, hnative]

/-- A command that is written as a statement keeps the connection as it is. -/
theorem keeps_issue (c : Connection σ) {command : Command}
    (h : command ≠ .begin_ ∧ command ≠ .commit ∧ command ≠ .rollback) :
    Connection.Keeps (c.link.issue command) := by
  simp only [Connection.link]
  split
  · exact absurd rfl h.1
  · exact absurd rfl h.2.1
  · exact absurd rfl h.2.2
  · split
    · exact (Connection.Keeps.execute c _ []).bind fun _ => .pure ()
    · exact .pure ()

theorem bearing_announce (c : Connection σ) (isolation? : Option String)
    (s : Session (Connection.State σ)) :
    ((announce c.link isolation?).run s).2.bearing = s.bearing := by
  unfold announce
  cases isolation? with
  | none => rfl
  | some level =>
      dsimp only
      split
      · exact bearing_send (keeps_issue c (by simp)) s
      · rfl

theorem step_beginOutermost (hlevel : s.level = 0) (hopen : s.world.isOpen = true)
    (isolation? : Option String) :
    Bearing.Step s.bearing ((beginOutermost c.link isolation?).run s).2.bearing := by
  rw [beginOutermost_eq, Action.run_bind]
  have hannounced := bearing_announce c isolation? s
  rcases hrun : (announce c.link isolation?).run s with ⟨e | ⟨⟩, s₁⟩ <;> rw [hrun] at hannounced
  · exact .of_eq hannounced
  · -- The native transaction begins before the level is set, or fails to.
    obtain ⟨hopen', hnative⟩ := Connection.Keeps.prepareNative c s₁.world
    have hbegin : (send c.link .begin_).run s₁
        = (((c.beginNative).run s₁.world).1, { s₁ with world := (c.beginNative.run s₁.world).2 }) :=
      rfl
    simp only [Action.run_bind, hbegin, Connection.run_beginNative]
    rcases hprepared : c.prepareNative.run s₁.world with ⟨e | ⟨⟩, w⟩ <;>
      rw [hprepared] at hopen' hnative
    · refine .of_eq (Eq.trans ?_ hannounced)
      exact congrArg₂ (Bearing.mk s₁.level) hopen' hnative
    · have hs : s.bearing = ⟨0, true, s.world.inTransaction⟩ := by
        simp only [Session.bearing, hlevel, hopen]
      have hw : w.isOpen = true := by
        rw [hopen']
        exact (congrArg Bearing.isOpen hannounced).trans hopen
      rw [hs]
      simp only [setLevel, Action.run_change, Session.bearing, hw]
      exact .begun _

/-- What leaves the connection as it is, inside the outermost transaction. -/
theorem step_inner {s' : Session (Connection.State σ)} {m : Nat} (hlevel : s.level = n + 1)
    (hlevel' : s'.level = m + 1) (hopen : s'.world.isOpen = s.world.isOpen)
    (hnative : s'.world.inTransaction = s.world.inTransaction) :
    Bearing.Step s.bearing s'.bearing := by
  simp only [Session.bearing, hlevel, hlevel', hopen, hnative]
  exact .moved n m _ _

/-- The same for a command, once the level has been set. -/
theorem step_send {m : Nat} {command : Command} (hlevel : s.level = n + 1)
    (h : command ≠ .begin_ ∧ command ≠ .commit ∧ command ≠ .rollback) :
    Bearing.Step s.bearing ((send c.link command).run { s with level := m + 1 }).2.bearing := by
  obtain ⟨hopen, hnative⟩ := keeps_issue c h s.world
  exact step_inner hlevel rfl hopen hnative

theorem step_begin (isolation? : Option String) (s : Session (Connection.State σ)) :
    Bearing.Step s.bearing (((c.manager savepoints?).begin_ isolation?).run s).2.bearing := by
  cases hopen : s.world.isOpen with
  | false =>
      rw [run_begin_of_not_open (m := c.manager savepoints?) hopen]
      exact .idle _
  | true =>
      rw [run_begin (m := c.manager savepoints?) rfl hopen]
      rcases hlevel : s.level with _ | n
      · exact step_beginOutermost hlevel hopen isolation?
      · simp only [run_beginNested]
        split
        · have hkept : Connection.Keeps (c.link.issue (.savepoint (n + 1))) :=
            keeps_issue c (by simp)
          obtain ⟨hopen', hnative⟩ := hkept s.world
          rw [run_send]
          rcases hrun : (c.link.issue (.savepoint (n + 1))).run s.world with ⟨e | ⟨⟩, w⟩ <;>
            rw [hrun] at hopen' hnative
          · exact step_inner hlevel hlevel hopen' hnative
          · exact step_inner hlevel rfl hopen' hnative
        · exact step_inner hlevel rfl rfl rfl

/-- Ending the native transaction with the level that is left. -/
theorem step_endNative (a : Action σ Unit) (hlevel : s.level = 1) :
    Bearing.Step s.bearing
      (((Connection.endNative a).unheard).run { s with level := 0 }).2.bearing := by
  have hended : (((Connection.endNative a).unheard).run { s with level := 0 }).2.bearing
      = ⟨0, s.world.isOpen, false⟩ := by
    simp only [Action.unheard, Action.run_onPart, Connection.run_endNative, Session.bearing]
    split
    · rfl
    · simp_all
  rw [hended]
  simp only [Session.bearing, hlevel]
  exact .ended _ _

/-- An active manager of a connection is at a level. -/
theorem innermost?_manager {l : Link (Connection.State σ)}
    (h : (c.manager savepoints?).innermost? s = some (l, n)) : l = c.link ∧ s.level = n + 1 := by
  obtain ⟨hlink, hlevel, -⟩ := innermost?_eq_some_iff.mp h
  exact ⟨(Option.some.inj hlink).symm, hlevel⟩

theorem step_commit (s : Session (Connection.State σ)) :
    Bearing.Step s.bearing ((c.manager savepoints?).commit.run s).2.bearing := by
  cases hinner : (c.manager savepoints?).innermost? s with
  | none =>
      rw [run_commit_of_inactive hinner]
      exact .idle _
  | some inner =>
      obtain ⟨l, n⟩ := inner
      obtain ⟨rfl, hlevel⟩ := innermost?_manager hinner
      rw [run_commit hinner]
      rcases n with _ | n
      · exact step_endNative c.engine.commitBegun hlevel
      · rw [if_neg (Nat.succ_ne_zero n)]
        split
        · exact step_send hlevel (by simp)
        · exact step_inner hlevel rfl rfl rfl

theorem step_rollback (s : Session (Connection.State σ)) :
    Bearing.Step s.bearing ((c.manager savepoints?).rollback.run s).2.bearing := by
  cases hinner : (c.manager savepoints?).innermost? s with
  | none =>
      rw [run_rollback_of_inactive hinner]
      exact .idle _
  | some inner =>
      obtain ⟨l, n⟩ := inner
      obtain ⟨rfl, hlevel⟩ := innermost?_manager hinner
      rw [run_rollback hinner]
      rcases n with _ | n
      · exact step_endNative c.engine.rollbackBegun hlevel
      · rw [if_neg (Nat.succ_ne_zero n)]
        split
        · exact step_send hlevel (by simp)
        · exact step_inner hlevel rfl rfl rfl

theorem step_setIsolation (level : String) (s : Session (Connection.State σ)) :
    Bearing.Step s.bearing (((c.manager savepoints?).setIsolation level).run s).2.bearing := by
  cases hinner : (c.manager savepoints?).innermost? s with
  | none =>
      rw [run_setIsolation_of_inactive hinner]
      exact .idle _
  | some inner =>
      obtain ⟨l, n⟩ := inner
      obtain ⟨rfl, -⟩ := innermost?_manager hinner
      rw [run_setIsolation hinner]
      exact .of_eq (bearing_send (keeps_issue c (by simp)) s)

end Manager

/-- Each deed is one step, whatever the engine answers. -/
theorem Deed.step (d : Deed) (s : Session (Connection.State σ)) :
    Bearing.Step s.bearing ((d.perform c savepoints?).run s).2.bearing := by
  cases d with
  | operate op =>
      cases op with
      | begin_ isolation? => exact Manager.step_begin isolation? s
      | commit => exact Manager.step_commit s
      | rollback => exact Manager.step_rollback s
      | setIsolation level => exact Manager.step_setIsolation level s
  | execute sql params =>
      obtain ⟨hopen, hnative⟩ :=
        (Connection.Keeps.execute c sql params).bind (fun _ => .pure ()) s.world
      exact .of_eq (congrArg₂ (Bearing.mk s.level) hopen hnative)
  | open_ =>
      obtain ⟨hnative, hopen⟩ := Connection.open_changes c s.world
      have hs : ((perform c savepoints? .open_).run s).2.bearing
          = ⟨s.level, (c.open_.run s.world).2.isOpen, s.world.inTransaction⟩ :=
        congrArg (Bearing.mk s.level (c.open_.run s.world).2.isOpen) hnative
      rw [hs, Session.bearing]
      rcases hwas : s.world.isOpen with _ | _
      · rcases (c.open_.run s.world).2.isOpen with _ | _
        · exact .idle _
        · exact .opened _ _
      · rw [hopen hwas]
        exact .idle _
  | close =>
      rcases Connection.close_changes c s.world with ⟨hopen, hnative⟩ | ⟨hopen, hnative⟩
      · exact .of_eq (congrArg₂ (Bearing.mk s.level) hopen hnative)
      · have hs : ((perform c savepoints? .close).run s).2.bearing = ⟨s.level, false, false⟩ :=
          congrArg₂ (Bearing.mk s.level) hopen hnative
        rw [hs, Session.bearing]
        exact .closed _ _ _

/-! ### What a run keeps -/

/-- A native transaction has an open connection and a level. -/
def Bearing.Sound (b : Bearing) : Prop := b.native = true → b.isOpen = true ∧ 0 < b.level

namespace Bearing.Step

variable {b b' : Bearing}

theorem sound (h : Step b b') (hsound : b.Sound) : b'.Sound := by
  cases h with
  | idle => exact hsound
  | begun => exact fun _ => ⟨rfl, Nat.one_pos⟩
  | moved n m => exact fun hnative => ⟨(hsound hnative).1, m.succ_pos⟩
  | ended => exact nofun
  | opened n => exact fun hnative => ⟨rfl, (hsound hnative).2⟩
  | closed => exact nofun

/-- At a level there is a native transaction if the connection is open, unless there was a level
without one already. -/
theorem native_iff (h : Step b b') (hsound : b.Sound) (hlevel : 0 < b'.level) :
    b'.native = true ↔ b'.isOpen = true ∧ (0 < b.level → b.native = true) := by
  cases h with
  | idle => exact ⟨fun hnative => ⟨(hsound hnative).1, fun _ => hnative⟩, fun h => h.2 hlevel⟩
  | begun => simp
  | moved n m =>
      exact ⟨fun hnative => ⟨(hsound hnative).1, fun _ => hnative⟩, fun h => h.2 n.succ_pos⟩
  | ended => simp at hlevel
  | opened n => exact ⟨fun hnative => ⟨rfl, fun _ => hnative⟩, fun h => h.2 hlevel⟩
  | closed => simp

end Bearing.Step

namespace Deed

/-- The connection was closed at some time, and the level has not been 0 since. -/
def Outlived (c : Connection σ) (savepoints? : Option Bool) (s : Session (Connection.State σ))
    (deeds : List Deed) : Prop :=
  ∃ before since, deeds = before ++ since ∧
    (Deed.after c savepoints? s before).world.isOpen = false ∧
    ∀ more, more <+: since → 0 < (Deed.after c savepoints? s (before ++ more)).level

variable {deeds : List Deed}

theorem after_concat (deeds : List Deed) (d : Deed) :
    Deed.after c savepoints? s (deeds ++ [d])
      = ((d.perform c savepoints?).run (Deed.after c savepoints? s deeds)).2 := by
  simp [Deed.after]

theorem Outlived.level_pos (h : Outlived c savepoints? s deeds) :
    0 < (Deed.after c savepoints? s deeds).level := by
  obtain ⟨before, since, rfl, -, hlevel⟩ := h
  exact hlevel since (List.prefix_refl since)

/-- The level outlives the connection with one deed more. -/
theorem outlived_concat_iff (deeds : List Deed) (d : Deed) :
    Outlived c savepoints? s (deeds ++ [d]) ↔
      0 < (Deed.after c savepoints? s (deeds ++ [d])).level ∧
        ((Deed.after c savepoints? s (deeds ++ [d])).world.isOpen = false ∨
          Outlived c savepoints? s deeds) := by
  constructor
  · intro h
    refine ⟨h.level_pos, ?_⟩
    obtain ⟨before, since, hsplit, hclosed, hlevel⟩ := h
    -- Either it is closed only now, or the last deed belongs to the time since then.
    rcases List.eq_nil_or_concat since with rfl | ⟨since', d', rfl⟩
    · rw [List.append_nil] at hsplit
      rw [hsplit]
      exact .inl hclosed
    · rw [List.concat_eq_append] at hsplit hlevel
      rw [← List.append_assoc] at hsplit
      obtain ⟨rfl, -⟩ := List.append_inj' hsplit rfl
      refine .inr ⟨before, since', rfl, hclosed, fun more hmore => hlevel more ?_⟩
      exact hmore.trans (List.prefix_append since' [d'])
  · rintro ⟨hlevel, hclosed | ⟨before, since, rfl, hclosed, hsince⟩⟩
    · refine ⟨deeds ++ [d], [], by simp, hclosed, fun more hmore => ?_⟩
      rw [List.prefix_nil.mp hmore, List.append_nil]
      exact hlevel
    · refine ⟨before, since ++ [d], by simp, hclosed, fun more hmore => ?_⟩
      rcases List.prefix_concat_iff.mp hmore with rfl | hmore
      · rw [← List.append_assoc]
        exact hlevel
      · exact hsince more hmore

theorem sound_after (hsound : s.bearing.Sound) (deeds : List Deed) :
    (Deed.after c savepoints? s deeds).bearing.Sound := by
  induction deeds using List.reverseRecOn with
  | nil => exact hsound
  | append_singleton deeds d ih =>
      rw [after_concat]
      exact (d.step _).sound ih

/-- At a level there is a native transaction unless the level has outlived the connection. -/
theorem native_iff_not_outlived (hsound : s.bearing.Sound) (hstart : s.level = 0)
    (hlevel : 0 < (Deed.after c savepoints? s deeds).level) :
    (Deed.after c savepoints? s deeds).world.inTransaction = true ↔
      ¬ Outlived c savepoints? s deeds := by
  induction deeds using List.reverseRecOn with
  | nil => simp [Deed.after, hstart] at hlevel
  | append_singleton deeds d ih =>
      have hstep : Bearing.Step (Deed.after c savepoints? s deeds).bearing
          (Deed.after c savepoints? s (deeds ++ [d])).bearing := by
        rw [after_concat]
        exact d.step _
      have hkept : (0 < (Deed.after c savepoints? s deeds).level →
            (Deed.after c savepoints? s deeds).world.inTransaction = true) ↔
          ¬ Outlived c savepoints? s deeds :=
        ⟨fun hnative houtlived => (ih houtlived.level_pos).mp (hnative houtlived.level_pos)
          houtlived, fun h hlevel' => (ih hlevel').mpr h⟩
      rw [outlived_concat_iff, not_and, not_or, Bool.not_eq_false, ← hkept]
      exact (hstep.native_iff (sound_after hsound deeds) hlevel).trans
        ⟨fun h _ => h, fun h => h hlevel⟩

end Deed

/-- What committing the outermost transaction does on a connection. -/
theorem Manager.run_commit_outermost
    (hactive : (c.manager savepoints?).isActive s = true) (hlevel : s.level = 1) :
    (c.manager savepoints?).commit.run s =
      if s.world.inTransaction then
        ((c.engine.commitBegun.run s.world.engine).1, { s with
          level := 0
          world := { s.world with
            inTransaction := false
            engine := (c.engine.commitBegun.run s.world.engine).2 } })
      else (.ok (), { s with level := 0 }) := by
  have hopen : s.world.isOpen = true := by
    simp only [isActive, Bool.and_eq_true] at hactive
    exact hactive.2
  have hinner : (c.manager savepoints?).innermost? s = some (c.link, 0) :=
    innermost?_eq_some_iff.mpr ⟨rfl, hlevel, hopen⟩
  rw [run_commit hinner, if_pos rfl, run_send]
  have hcommit : (c.link.issue .commit).run s.world = c.commitNative.run s.world := rfl
  rw [hcommit, Connection.commitNative, Connection.run_endNative]
  split <;> rfl

/-- After any deeds on a connection that was closed at first: an active manager has a native
transaction exactly when its level has not outlived the connection, and then the outermost commit
commits what the engine has begun. Otherwise it succeeds without doing anything. -/
theorem active_native_iff (c : Connection σ) (savepoints? : Option Bool) (engine : σ)
    (deeds : List Deed) (s : Session (Connection.State σ))
    (hs : Deed.after c savepoints? (.start (.closed engine)) deeds = s)
    (hactive : (c.manager savepoints?).isActive s = true) :
    (s.world.inTransaction = true ↔
      ¬ Deed.Outlived c savepoints? (.start (.closed engine)) deeds) ∧
    (s.level = 1 → (c.manager savepoints?).commit.run s =
      if s.world.inTransaction then
        ((c.engine.commitBegun.run s.world.engine).1, { s with
          level := 0
          world := { s.world with
            inTransaction := false
            engine := (c.engine.commitBegun.run s.world.engine).2 } })
      else (.ok (), { s with level := 0 })) := by
  subst hs
  have hlevel : 0 < (Deed.after c savepoints? (.start (.closed engine)) deeds).level := by
    simp only [Manager.isActive, Bool.and_eq_true, decide_eq_true_eq] at hactive
    exact hactive.1
  exact ⟨Deed.native_iff_not_outlived nofun rfl hlevel,
    Manager.run_commit_outermost hactive⟩

/-- The connection is closed and opened again under a transaction. The manager is active without a
native transaction: it creates a savepoint all the same, and it commits the outermost transaction
without a call to the engine. -/
theorem active_without_native :
    let c : Connection ScriptedEngine :=
      { engine := ScriptedEngine.engine, dialect := .standard .ansi }
    let m := c.manager none
    let s := Deed.after c none (.start (.closed {})) [.open_, .operate (.begin_ none), .close, .open_]
    m.isActive s = true ∧ s.world.inTransaction = false ∧
      ((m.begin_ none).run s).2.world.engine.calls
        = s.world.engine.calls ++ [.execute "SAVEPOINT LEVEL1" [], .bare .commit] ∧
      m.commit.run s = (.ok (), { s with level := 0 }) :=
  ⟨rfl, rfl, rfl, rfl⟩

/-- A transaction on a connection that stays open. -/
theorem active_native_iff_open :
    let c : Connection ScriptedEngine :=
      { engine := ScriptedEngine.engine, dialect := .standard .ansi }
    let deeds : List Deed := [.open_, .operate (.begin_ none), .execute "UPDATE t SET a = 1" []]
    let s := Deed.after c none (.start (.closed {})) deeds
    (c.manager none).isActive s = true ∧ s.world.inTransaction = true ∧
      ¬ Deed.Outlived c none (.start (.closed {})) deeds ∧
      ((c.manager none).commit.run s).2.world.engine.calls
        = s.world.engine.calls ++ [.bare .commitBegun] := by
  intro c deeds s
  have hactive : (c.manager none).isActive s = true := by decide
  obtain ⟨hnative, hcommit⟩ := active_native_iff c none {} deeds s rfl hactive
  refine ⟨hactive, by decide, hnative.mp (by decide), ?_⟩
  rw [hcommit (by decide)]
  rfl

end SqlLoom
