import SqlLoom.Proofs.Transaction.Nesting

/-!
# `SqlLoom.Proofs.Transaction.Units`: what a failed unit of work leaves behind

A unit of work writes, runs other units inside it, may go on after one of these has failed, and may
fail itself. The writes of a unit that failed should not become durable.

With savepoints they never do. A manager without savepoints flattens the inner units. A flattened
unit that fails cannot be rolled back alone, and `Manager.rollbackOnError` makes no more than a
warning of that: if the work around it goes on, the native commit takes its writes along.

* `Work` is the code of a caller as a tree. Its leaves are not data: a branch may depend on the data
  that it sees, and on how an inner unit came out.
* `Work.tally` reads off which writes are made and which of them stand in a unit that failed, and
  `Tally.durable` which of them the native transaction leaves.
* `Tracks.run` is the step: one unit around work that keeps to the ideal machine.
* `Work.Uncaught.spared`: where no failure is caught, work that is done contains no failed unit.
* `unit_durable` says what a whole unit of work does, and when nothing durable is of a failed one:
  it takes a caller that catches the failure. `failed_unit_committed` is a run where something is.
-/

set_option autoImplicit false

namespace SqlLoom

/-- Runs an action and gives its outcome; this itself does not fail. -/
def Action.attempt {σ α : Type} (a : Action σ α) : Action σ (Except Error α) := fun s =>
  (.ok (a.run s).1, (a.run s).2)

@[simp]
theorem Action.run_attempt {σ α : Type} (a : Action σ α) (s : σ) :
    a.attempt.run s = (.ok (a.run s).1, (a.run s).2) := rfl

variable {ω : Type}

/-! ### Work -/

/-- What a caller does on data that are the list of all writes. -/
inductive Work (ω : Type) where
  | done
  | fail (e : Error)
  | write (w : ω) (next : Work ω)
  /-- Goes on as the data tell. -/
  | look (next : List ω → Work ω)
  /-- Runs a unit of work, and goes on as its outcome tells. -/
  | unit (isolation? : Option String) (body : Work ω) (next : Except Error Unit → Work ω)

/-- Work done with a manager. -/
def Work.perform (m : Manager (Database (List ω))) :
    Work ω → Action (Session (Database (List ω))) Unit
  | .done => pure ()
  | .fail e => throw e
  | .write w next => do
    Database.write (· ++ [w])
    next.perform m
  | .look next => do
    let data ← Action.read fun s => s.world.data
    (next data).perform m
  | .unit isolation? body next => do
    let outcome ← (m.run isolation? (body.perform m)).attempt
    (next outcome).perform m

/-- A write, and whether it was made inside a unit that failed. -/
structure Written (ω : Type) where
  what : ω
  failed : Bool := false

/-- How work comes out, and the writes that it makes. -/
structure Tally (ω : Type) where
  outcome : Except Error Unit
  written : List (Written ω)

namespace Written

/-- The writes that are in the data while the native transaction is open: those of a failed unit
have been rolled back if there are savepoints. -/
def left (savepoints : Bool) (written : List (Written ω)) : List (Written ω) :=
  if savepoints then written.filter (! ·.failed) else written

/-- The data that the writes leave while the native transaction is open. -/
def data (savepoints : Bool) (written : List (Written ω)) : List ω :=
  (left savepoints written).map what

variable {savepoints : Bool}

@[simp]
theorem data_nil : data savepoints ([] : List (Written ω)) = [] := by
  cases savepoints <;> rfl

theorem data_append (xs ys : List (Written ω)) :
    data savepoints (xs ++ ys) = data savepoints xs ++ data savepoints ys := by
  cases savepoints <;> simp [data, left]

/-- A write is in the data as soon as it is made. -/
theorem data_cons (w : ω) (rest : List (Written ω)) :
    data savepoints (⟨w, false⟩ :: rest) = w :: data savepoints rest := by
  cases savepoints <;> simp [data, left]

end Written

namespace Tally

/-- The tally of the unit around the work: if that failed, all its writes are in a failed unit. -/
def closed (t : Tally ω) : Tally ω :=
  match t.outcome with
  | .ok _ => t
  | .error _ => { t with written := t.written.map fun w => { w with failed := true } }

/-- The writes that the native transaction leaves when it has ended. -/
def durable (savepoints : Bool) (t : Tally ω) : List (Written ω) :=
  match t.outcome with
  | .ok _ => Written.left savepoints t.written
  | .error _ => []

@[simp]
theorem outcome_closed (t : Tally ω) : t.closed.outcome = t.outcome := by
  unfold closed
  split <;> rfl

theorem closed_of_ok {t : Tally ω} (h : t.outcome = .ok ()) : t.closed = t := by
  simp [closed, h]

/-- What becomes durable is not in a failed unit, unless a failed unit was flattened into one that
was done. -/
theorem durable_spared_iff (savepoints : Bool) (t : Tally ω) :
    (∀ w ∈ t.durable savepoints, w.failed = false) ↔
      savepoints = true ∨ t.outcome ≠ .ok () ∨ ∀ w ∈ t.written, w.failed = false := by
  obtain ⟨e | _, written⟩ := t
  · simp [durable]
  · cases savepoints <;> simp [durable, Written.left]

end Tally

/-- The tally of work on the data that it starts from. -/
def Work.tally (savepoints : Bool) : Work ω → List ω → Tally ω
  | .done, _ => ⟨.ok (), []⟩
  | .fail e, _ => ⟨.error e, []⟩
  | .write w next, data =>
    let rest := next.tally savepoints (data ++ [w])
    ⟨rest.outcome, ⟨w, false⟩ :: rest.written⟩
  | .look next, data => (next data).tally savepoints data
  | .unit _ body next, data =>
    let inner := (body.tally savepoints data).closed
    let rest :=
      (next inner.outcome).tally savepoints (data ++ Written.data savepoints inner.written)
    ⟨rest.outcome, inner.written ++ rest.written⟩

/-! ### One unit -/

/-- The data after a unit whose work has left the given ones. If it fails it goes back, provided
that there is a way back: a savepoint, or the beginning of the native transaction. -/
def Ideal.afterUnit {D : Type} (savepoints : Bool) (i : Ideal D) (data : D) :
    Except Error Unit → D
  | .ok _ => data
  | .error _ => if savepoints = true ∨ i.snapshots = [] then i.data else data

namespace Tracks

variable {D : Type} {u : Setup} {savepoints : Bool} {s s' : Session (Database D)} {i i' : Ideal D}

/-- The level of an open transaction is the innermost one as long as the transactions inside it
are closed again. -/
theorem isInnermost {data data' x : D} {xs : List D} (h : Tracks savepoints s ⟨data, x :: xs⟩)
    (h' : Tracks savepoints s' ⟨data', x :: xs⟩) : u.manager.isInnermost s.level s' = true := by
  have hlevel : s.level = xs.length + 1 := h.level
  have hlevel' : s'.level = xs.length + 1 := h'.level
  have hopen : u.manager.isOpen s' = true := rfl
  simp [Manager.isInnermost, Manager.isActive, hlevel, hlevel', hopen]

/-- Without snapshots the world is its data. -/
theorem world_of_idle {data : D} (h : Tracks savepoints s ⟨data, []⟩) :
    s.world = { data } := by
  have hdata : s.world.data = data := h.data
  have hnative : s.world.native? = none := h.native_of_idle
  have hrefused : s.world.refused = [] := h.refused
  rw [← hdata, ← hnative, ← hrefused]

/-- A warning is not seen. -/
theorem warned (h : Tracks savepoints s i) (warnings : List Warning) :
    Tracks savepoints { s with warnings } i :=
  ⟨h.level, h.data, h.refused, h.native⟩

/-- A unit of work has the outcome of the work, and the level is what it was. -/
theorem run (h : Tracks u.savepoints s i) (isolation? : Option String)
    {work : Action (Session (Database D)) Unit} {outcome : Except Error Unit} {data : D}
    (hwork : ∀ s₁, Tracks u.savepoints s₁ ⟨i.data, i.data :: i.snapshots⟩ →
      ∃ s₂, work.run s₁ = (outcome, s₂) ∧ Tracks u.savepoints s₂ ⟨data, i.data :: i.snapshots⟩) :
    ∃ s', (u.manager.run isolation? work).run s = (outcome, s') ∧
      Tracks u.savepoints s' ⟨i.afterUnit u.savepoints data outcome, i.snapshots⟩ := by
  obtain ⟨before, snapshots⟩ := i
  obtain ⟨s₁, hbegin, h₁⟩ := h.begin_ isolation?
  obtain ⟨s₂, hrun, h₂⟩ := hwork s₁ h₁
  have hinner : u.manager.isInnermost s₁.level s₂ = true := h₁.isInnermost h₂
  rcases outcome with e | ⟨⟩
  · by_cases hsaves : u.savepoints = true
    · obtain ⟨s₃, hrollback, h₃⟩ := h₂.rollback hsaves
      rw [Ideal.afterUnit, if_pos (.inl hsaves)]
      exact ⟨s₃, Manager.run_failed hbegin hrun hinner hrollback, h₃⟩
    · cases snapshots with
      | nil =>
          obtain ⟨s₃, hrollback, h₃⟩ := h₂.rollback_outermost
          rw [Ideal.afterUnit, if_pos (.inr rfl)]
          exact ⟨s₃, Manager.run_failed hbegin hrun hinner hrollback, h₃⟩
      | cons x rest =>
          -- The rollback is an error, which is swallowed: the writes stay.
          obtain ⟨s₃, hrollback, h₃⟩ := h₂.rollback_flattened (by simpa using hsaves)
          rw [Ideal.afterUnit, if_neg (by simp [hsaves])]
          exact ⟨_, Manager.run_failed_unrolled hbegin hrun hinner hrollback rfl, h₃.warned _⟩
  · obtain ⟨s₃, hcommit, h₃⟩ := h₂.commit
    exact ⟨s₃, Manager.run_done hbegin hrun hinner hcommit, h₃⟩

end Tracks

/-! ### Whole units of work -/

namespace Tally

variable {savepoints : Bool} {data x : List ω} {xs : List (List ω)}

/-- What an inner unit leaves in the data: a savepoint is the only way back. -/
theorem afterUnit_inner (t : Tally ω) :
    Ideal.afterUnit savepoints ⟨data, x :: xs⟩ (data ++ Written.data savepoints t.written) t.outcome
      = data ++ Written.data savepoints t.closed.written := by
  obtain ⟨e | _, written⟩ := t
  · cases savepoints with
    | false => simp [Ideal.afterUnit, closed, Written.data, Written.left, Function.comp_def]
    | true =>
        simp [Ideal.afterUnit, closed, Written.data, Written.left, List.filter_map,
          Function.comp_def]
  · rfl

/-- What the outermost unit leaves in the data: the native transaction is a way back. -/
theorem afterUnit_outermost (t : Tally ω) :
    Ideal.afterUnit savepoints ⟨data, []⟩ (data ++ Written.data savepoints t.written) t.outcome
      = data ++ (t.closed.durable savepoints).map Written.what := by
  obtain ⟨e | _, written⟩ := t
  · simp [Ideal.afterUnit, closed, durable]
  · rfl

end Tally

namespace Work

variable {u : Setup} {s : Session (Database (List ω))} {data x : List ω} {xs : List (List ω)}

/-- Work inside a transaction leaves in the data what its tally says. -/
theorem perform_tracks (work : Work ω) (h : Tracks u.savepoints s ⟨data, x :: xs⟩) :
    let tally := work.tally u.savepoints data
    ∃ s', (work.perform u.manager).run s = (tally.outcome, s') ∧
      Tracks u.savepoints s' ⟨data ++ Written.data u.savepoints tally.written, x :: xs⟩ := by
  induction work generalizing s data x xs with
  | done => exact ⟨s, rfl, by simpa [tally] using h⟩
  | fail e => exact ⟨s, rfl, by simpa [tally] using h⟩
  | write w next ih =>
      obtain ⟨s₁, hwrite, h₁⟩ := h.write (· ++ [w])
      obtain ⟨s₂, hnext, h₂⟩ := ih h₁
      refine ⟨s₂, ?_, ?_⟩
      · rw [perform, Action.run_bind, hwrite]
        exact hnext
      · simpa [tally, Written.data_cons] using h₂
  | look next ih =>
      obtain ⟨s₁, hnext, h₁⟩ := ih data h
      have hdata : s.world.data = data := h.data
      refine ⟨s₁, ?_, h₁⟩
      rw [perform, Action.run_bind, Action.run_read, hdata]
      exact hnext
  | unit isolation? body next ihBody ihNext =>
      obtain ⟨s₁, hunit, h₁⟩ := h.run isolation? fun _ => ihBody
      rw [Tally.afterUnit_inner] at h₁
      obtain ⟨s₂, hnext, h₂⟩ := ihNext (body.tally u.savepoints data).outcome h₁
      refine ⟨s₂, ?_, ?_⟩
      · rw [perform, Action.run_bind, Action.run_attempt, hunit]
        simpa [tally] using hnext
      · simpa [tally, Written.data_append] using h₂

end Work

/-! ### Failures that nobody catches -/

namespace Work

/-- No failure of a unit is caught: what comes next after one is to fail with it. -/
def Uncaught : Work ω → Prop
  | .done | .fail _ => True
  | .write _ next => next.Uncaught
  | .look next => ∀ data, (next data).Uncaught
  | .unit _ body next =>
    body.Uncaught ∧ (next (.ok ())).Uncaught ∧ ∀ e, next (.error e) = .fail e

/-- Where no failure is caught, work that is done contains no unit that failed. -/
theorem Uncaught.spared {work : Work ω} (h : work.Uncaught) (savepoints : Bool) (data : List ω)
    (hdone : (work.tally savepoints data).outcome = .ok ()) :
    ∀ w ∈ (work.tally savepoints data).written, w.failed = false := by
  induction work generalizing data with
  | done => simp [tally]
  | fail e => cases hdone
  | write w next ih =>
      simp only [tally, List.forall_mem_cons]
      exact ⟨trivial, ih h _ hdone⟩
  | look next ih => exact ih data (h data) data hdone
  | unit isolation? body next ihBody ihNext =>
      obtain ⟨hbody, hnext, hraised⟩ := h
      simp only [tally, Tally.outcome_closed] at hdone ⊢
      rcases hinner : (body.tally savepoints data).outcome with e | ⟨⟩
      · -- The failure would have ended the work.
        rw [hinner, hraised] at hdone
        cases hdone
      · rw [hinner] at hdone
        rw [Tally.closed_of_ok hinner] at hdone ⊢
        rw [List.forall_mem_append]
        exact ⟨ihBody hbody data hinner, ihNext _ hnext _ hdone⟩

/-- So no write of a failed unit becomes durable, with savepoints or without. -/
theorem Uncaught.durable_spared {work : Work ω} (h : work.Uncaught) (savepoints : Bool)
    (data : List ω) :
    ∀ w ∈ (work.tally savepoints data).closed.durable savepoints, w.failed = false := by
  rw [Tally.durable_spared_iff, Tally.outcome_closed]
  by_cases hdone : (work.tally savepoints data).outcome = .ok ()
  · rw [Tally.closed_of_ok hdone]
    exact .inr (.inr (h.spared savepoints data hdone))
  · exact .inr (.inl hdone)

end Work

/-! ### What becomes durable -/

/-- A whole unit of work has the outcome of its tally, ends its native transaction, and leaves the
data with the durable writes. None of these is of a unit that failed, if and only if savepoints are
used, or the whole unit failed, or no unit inside it failed that had written anything. It is so
where no failure is caught. -/
theorem unit_durable (u : Setup) (isolation? : Option String) (work : Work ω) (data : List ω) :
    let session := (u.manager.run isolation? (work.perform u.manager)).run (.start { data })
    let tally := (work.tally u.savepoints data).closed
    let durable := tally.durable u.savepoints
    session.1 = tally.outcome ∧ session.2.level = 0 ∧
      session.2.world = { data := data ++ durable.map Written.what } ∧
      ((∀ w ∈ durable, w.failed = false) ↔
        u.savepoints = true ∨ tally.outcome ≠ .ok () ∨ ∀ w ∈ tally.written, w.failed = false) ∧
      (work.Uncaught → ∀ w ∈ durable, w.failed = false) := by
  intro session tally durable
  have hstart : Tracks u.savepoints (.start { data }) ⟨data, []⟩ := ⟨rfl, rfl, rfl, .idle⟩
  obtain ⟨s', hunit, h⟩ := hstart.run isolation? fun _ h₁ => work.perform_tracks h₁
  rw [Tally.afterUnit_outermost] at h
  have hsession : session = (tally.outcome, s') := by rw [Tally.outcome_closed]; exact hunit
  rw [hsession]
  exact ⟨rfl, h.level, h.world_of_idle, tally.durable_spared_iff u.savepoints,
    fun huncaught => huncaught.durable_spared u.savepoints data⟩

/-- Without savepoints a unit inside another one fails, and the outer one, which goes on, commits
the writes of both. -/
theorem failed_unit_committed :
    let u : Setup := { dialect := .standard .ansi, told? := some false }
    let inner : Work String := .write "of the failed unit" (.fail (.external "no"))
    let outer : Work String := .unit none inner fun
      | .ok _ => .done
      | .error _ => .write "of the outer unit" .done
    let session := (u.manager.run none (outer.perform u.manager)).run (.start { data := [] })
    session.1 = .ok () ∧
      session.2.world = { data := ["of the failed unit", "of the outer unit"] } :=
  ⟨rfl, rfl⟩

end SqlLoom
