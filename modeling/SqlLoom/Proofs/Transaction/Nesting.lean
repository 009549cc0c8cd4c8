import SqlLoom.Proofs.ParamTable
import SqlLoom.Proofs.Transaction.Transitions

/-!
# `SqlLoom.Proofs.Transaction.Nesting`: savepoints as nested transactions

A manager nests transactions by savepoints that are named for their levels. Names are used again:
the savepoint of a level stays on the database after the level has been rolled back (and, where the
dialect releases none, after it has been committed), and the next transaction on that level sets
another one of the same name. The theorems say that this never shows.

`Database` is what the commands act on: the data, and while a native transaction is open the data
at its beginning and the savepoints. It refuses a command that has no meaning, above all one that
names a savepoint which is not there. `Ideal` is the machine to compare with: a stack of snapshots,
where to begin pushes one, to commit drops one and to roll back restores one.

* `Live`: which of the savepoints belongs to which open level. Above the savepoint of a level stand
  only savepoints of deeper levels, left over from transactions that are closed.
* `Tracks`: the session of a manager is at a state of the ideal machine. The transitions keep it
  (`Tracks.begin_`, `Tracks.commit`, `Tracks.rollback`), also for a manager that flattens nested
  transactions, except that rolling back an inner one is an error there
  (`Tracks.rollback_flattened`).
* `nested_refines`: over any sequence of transitions and writes a manager with savepoints does what
  the ideal machine does, and the database refuses nothing.
-/

set_option autoImplicit false

namespace SqlLoom

variable {D : Type}

/-! ### The database -/

/-- What an open native transaction keeps: the data at its beginning, and the savepoints with the
data that they save, the latest first. -/
structure Native (D : Type) where
  base : D
  saved : List (String × D)

/-- A database as its transactions show it, with the commands that it refused. -/
structure Database (D : Type) where
  data : D
  native? : Option (Native D) := none
  refused : List Command := []

/-- The data of the latest savepoint of a name, and the savepoints below it. -/
def findSaved? (name : String) : List (String × D) → Option (D × List (String × D))
  | [] => none
  | (other, x) :: below => if other = name then some (x, below) else findSaved? name below

namespace Database

/-- The database after a command; there is none if the command is refused. -/
def after? (db : Database D) (c : Command) : Option (Database D) :=
  match c, db.native? with
  | .setIsolation _, _ => some db
  | .begin_, none => some { db with native? := some ⟨db.data, []⟩ }
  | .commit, some _ => some { db with native? := none }
  | .rollback, some native => some { db with data := native.base, native? := none }
  | .savepoint level, some native =>
    some { db with native? := some ⟨native.base, (savepointName level, db.data) :: native.saved⟩ }
  | .release level, some native => do
    -- Whatever was set above the savepoint goes with it.
    let (_, below) ← findSaved? (savepointName level) native.saved
    return { db with native? := some ⟨native.base, below⟩ }
  | .rollbackTo level, some native => do
    -- The savepoint itself stays.
    let (x, below) ← findSaved? (savepointName level) native.saved
    return { db with data := x, native? := some ⟨native.base, (savepointName level, x) :: below⟩ }
  | _, _ => none

section after

variable {db : Database D} {native : Native D} {level : Nat} {x : D} {below : List (String × D)}

theorem after?_begin (h : db.native? = none) :
    db.after? .begin_ = some { db with native? := some ⟨db.data, []⟩ } := by
  obtain ⟨data, _, refused⟩ := db
  cases h
  rfl

theorem after?_commit (h : db.native? = some native) :
    db.after? .commit = some { db with native? := none } := by
  obtain ⟨data, _, refused⟩ := db
  cases h
  rfl

theorem after?_rollback (h : db.native? = some native) :
    db.after? .rollback = some { db with data := native.base, native? := none } := by
  obtain ⟨data, _, refused⟩ := db
  cases h
  rfl

theorem after?_savepoint (h : db.native? = some native) :
    db.after? (.savepoint level) = some { db with
      native? := some ⟨native.base, (savepointName level, db.data) :: native.saved⟩ } := by
  obtain ⟨data, _, refused⟩ := db
  cases h
  rfl

theorem after?_release (h : db.native? = some native)
    (hfound : findSaved? (savepointName level) native.saved = some (x, below)) :
    db.after? (.release level) = some { db with native? := some ⟨native.base, below⟩ } := by
  obtain ⟨data, _, refused⟩ := db
  cases h
  show (findSaved? (savepointName level) native.saved >>= _) = _
  rw [hfound]
  rfl

theorem after?_rollbackTo (h : db.native? = some native)
    (hfound : findSaved? (savepointName level) native.saved = some (x, below)) :
    db.after? (.rollbackTo level) = some { db with
      data := x, native? := some ⟨native.base, (savepointName level, x) :: below⟩ } := by
  obtain ⟨data, _, refused⟩ := db
  cases h
  show (findSaved? (savepointName level) native.saved >>= _) = _
  rw [hfound]
  rfl

end after

/-- A database as a connection that is always open. -/
def link (d : Dialect) (wantsSavepoints : Bool) : Link (Database D) where
  dialect := d
  isOpen _ := true
  wantsSavepoints _ := wantsSavepoints
  issue c := fun db =>
    match db.after? c with
    | some db' => (.ok (), db')
    | none => (.error (.backend "refused" (c.text? d)), { db with refused := db.refused ++ [c] })

@[simp]
theorem link_dialect (d : Dialect) (wantsSavepoints : Bool) :
    (link d wantsSavepoints : Link (Database D)).dialect = d := rfl

/-- The data replaced, as the statements of the caller do it. -/
def write (f : D → D) : Action (Session (Database D)) Unit :=
  Action.change fun s => { s with world := { s.world with data := f s.world.data } }

end Database

/-- What decides whether a manager over a database uses savepoints. -/
structure Setup where
  dialect : Dialect
  /-- The connection wants savepoints. -/
  wanted : Bool := true
  /-- The manager was told to use savepoints, or not to. -/
  told? : Option Bool := none

namespace Setup

/-- Nested transactions are backed by savepoints. -/
def savepoints (u : Setup) : Bool := u.told?.getD u.wanted && u.dialect.savepoints

/-- The manager of a setup. -/
def manager (u : Setup) : Manager (Database D) := ⟨some (Database.link u.dialect u.wanted), u.told?⟩

theorem usesSavepoints_manager (u : Setup) (s : Session (Database D)) :
    u.manager.usesSavepoints s = u.savepoints := rfl

theorem innermost?_manager (u : Setup) {s : Session (Database D)} {n : Nat}
    (h : s.level = n + 1) :
    u.manager.innermost? s = some (Database.link u.dialect u.wanted, n) :=
  Manager.innermost?_eq_some_iff.mpr ⟨rfl, h, rfl⟩

/-- A command that the database accepts succeeds. -/
theorem run_send_of_accepted (u : Setup) {c : Command} {s : Session (Database D)}
    {db : Database D} (h : s.world.after? c = some db) :
    (Manager.send (Database.link u.dialect u.wanted) c).run s
      = (.ok (), { s with world := db }) := by
  have hissue : ((Database.link u.dialect u.wanted).issue c).run s.world = (.ok (), db) := by
    show (match s.world.after? c with | some _ => _ | none => _) = _
    rw [h]
  rw [Manager.run_send, hissue]

end Setup

/-! ### The ideal machine -/

/-- The data, and a snapshot of it for every open transaction, that of the innermost one first. -/
structure Ideal (D : Type) where
  data : D
  snapshots : List D

namespace Ideal

/-- Takes a snapshot. -/
def begin_ : Action (Ideal D) Unit :=
  Action.change fun i => { i with snapshots := i.data :: i.snapshots }

/-- Forgets the latest snapshot. -/
def commit : Action (Ideal D) Unit := fun i =>
  match i.snapshots with
  | [] => (.error (.state .commitInactive), i)
  | _ :: rest => (.ok (), { i with snapshots := rest })

/-- Goes back to the latest snapshot, if there is one. -/
def rollback : Action (Ideal D) Unit := fun i =>
  match i.snapshots with
  | [] => (.ok (), i)
  | x :: rest => (.ok (), ⟨x, rest⟩)

end Ideal

/-! ### Which savepoint belongs to which level -/

/-- The savepoints hold the given snapshots, that of the innermost level first. A savepoint that is
left over has the name of a deeper level than the one whose savepoint it stands above. -/
inductive Live : List (String × D) → List D → Prop where
  | outermost (saved : List (String × D)) : Live saved []
  | inner {stale below : List (String × D)} {x : D} {xs : List D}
      (hstale : ∀ e ∈ stale, ∃ k, xs.length + 1 < k ∧ e.1 = savepointName k)
      (hbelow : Live below xs) :
      Live (stale ++ (savepointName (xs.length + 1), x) :: below) (x :: xs)

theorem savepointName_injective : Function.Injective savepointName :=
  ParamTable.nameOf_injective "LEVEL"

namespace Live

variable {saved extra below stale : List (String × D)} {x : D} {xs : List D} {k : Nat}

/-- Savepoints of deeper levels may be left over on top. -/
theorem left_over (h : Live saved xs)
    (hextra : ∀ e ∈ extra, ∃ k, xs.length < k ∧ e.1 = savepointName k) :
    Live (extra ++ saved) xs := by
  cases h with
  | outermost => exact .outermost _
  | @inner stale below x xs hstale hbelow =>
      rw [← List.append_assoc]
      refine .inner ?_ hbelow
      intro e he
      rcases List.mem_append.mp he with he | he
      · obtain ⟨k, hk, hname⟩ := hextra e he
        simp only [List.length_cons] at hk
        exact ⟨k, hk, hname⟩
      · exact hstale e he

/-- Savepoints of other names are passed over. -/
theorem findSaved?_append (hstale : ∀ e ∈ stale, e.1 ≠ savepointName k) :
    findSaved? (savepointName k) (stale ++ below) = findSaved? (savepointName k) below := by
  induction stale with
  | nil => rfl
  | cons e rest ih =>
      have hhead : e.1 ≠ savepointName k := hstale e List.mem_cons_self
      simp only [List.cons_append, findSaved?, if_neg hhead]
      exact ih fun e' he' => hstale e' (List.mem_cons_of_mem _ he')

/-- The latest savepoint with the name of the innermost level is the one of that level. -/
theorem findSaved?_innermost (h : Live saved (x :: xs)) :
    ∃ below, findSaved? (savepointName (xs.length + 1)) saved = some (x, below) ∧
      Live below xs := by
  cases h with
  | @inner stale below _ _ hstale hbelow =>
      refine ⟨below, ?_, hbelow⟩
      rw [findSaved?_append]
      · simp [findSaved?]
      · intro e he hname
        obtain ⟨k, hk, hname'⟩ := hstale e he
        have hlevel := savepointName_injective (hname'.symm.trans hname)
        omega

/-- The innermost level may be closed and leave its savepoint behind. -/
theorem tail (h : Live saved (x :: xs)) : Live saved xs := by
  cases h with
  | @inner stale below _ _ hstale hbelow =>
      rw [List.append_cons]
      apply hbelow.left_over
      intro e he
      rcases List.mem_append.mp he with he | he
      · obtain ⟨k, hk, hname⟩ := hstale e he
        exact ⟨k, by omega, hname⟩
      · cases List.mem_singleton.mp he
        exact ⟨xs.length + 1, by omega, rfl⟩

/-- The innermost level may be opened by a savepoint of its name. -/
theorem cons (h : Live saved xs) (x : D) :
    Live ((savepointName (xs.length + 1), x) :: saved) (x :: xs) :=
  @Live.inner D [] saved x xs (by simp) h

end Live

/-! ### Sessions and the ideal machine -/

/-- The native transaction, if one is open, holds the snapshots: the outermost one is the data at
its beginning, and the others are in the savepoints if these are used. -/
inductive Backs (savepoints : Bool) : Option (Native D) → List D → Prop where
  | idle : Backs savepoints none []
  | open_ {base : D} {saved : List (String × D)} {xs : List D}
      (hlive : savepoints = true → Live saved xs) :
      Backs savepoints (some ⟨base, saved⟩) (xs ++ [base])

/-- The session is at a state of the ideal machine, and its database has refused nothing. -/
structure Tracks (savepoints : Bool) (s : Session (Database D)) (i : Ideal D) : Prop where
  level : s.level = i.snapshots.length
  data : s.world.data = i.data
  refused : s.world.refused = []
  native : Backs savepoints s.world.native? i.snapshots

namespace Tracks

variable {u : Setup} {savepoints : Bool} {s : Session (Database D)} {i : Ideal D}

/-- Either no transaction is open, or the native one holds the snapshots. -/
theorem idle_or_open (h : Tracks savepoints s i) :
    (i.snapshots = [] ∧ s.level = 0 ∧ s.world.native? = none) ∨
    ∃ base saved xs, i.snapshots = xs ++ [base] ∧ s.level = xs.length + 1 ∧
      s.world.native? = some ⟨base, saved⟩ ∧ (savepoints = true → Live saved xs) := by
  obtain ⟨hlevel, -, -, hnative⟩ := h
  generalize s.world.native? = native? at hnative
  generalize i.snapshots = snapshots at hlevel hnative
  cases hnative with
  | idle => exact .inl ⟨rfl, hlevel, rfl⟩
  | @open_ base saved xs hlive =>
      have hlevel' : s.level = xs.length + 1 := by simpa using hlevel
      exact .inr ⟨base, saved, xs, rfl, hlevel', rfl, hlive⟩

/-- Without snapshots no native transaction is open. -/
theorem native_of_idle {data : D} (h : Tracks savepoints s ⟨data, []⟩) :
    s.world.native? = none := by
  rcases h.idle_or_open with ⟨-, -, hidle⟩ | ⟨_, _, xs, hsome, -⟩
  · exact hidle
  · simp at hsome

/-- What is announced before a transaction begins is at most a warning to the session. -/
theorem announce (h : Tracks savepoints s i) (u : Setup) (isolation? : Option String) :
    ∃ s', (Manager.announce (Database.link u.dialect u.wanted) isolation?).run s = (.ok (), s') ∧
      Tracks savepoints s' i := by
  unfold Manager.announce
  cases isolation? with
  | none => exact ⟨s, rfl, h⟩
  | some level =>
      dsimp only
      split
      · exact ⟨s, u.run_send_of_accepted rfl, h⟩
      · exact ⟨_, rfl, h.level, h.data, h.refused, h.native⟩

/-- To begin is to take a snapshot. -/
theorem begin_ (h : Tracks u.savepoints s i) (isolation? : Option String) :
    ∃ s', (u.manager.begin_ isolation?).run s = (.ok (), s') ∧
      Tracks u.savepoints s' { i with snapshots := i.data :: i.snapshots } := by
  obtain ⟨data, snapshots⟩ := i
  have hbegin := Manager.run_begin (s := s) (m := u.manager) rfl rfl isolation?
  rcases h.idle_or_open with ⟨rfl, hlevel, -⟩ | ⟨base, saved, xs, rfl, hlevel, hnative, hlive⟩
  · -- The native transaction keeps the data for the first snapshot.
    obtain ⟨s', hannounce, h'⟩ := h.announce u isolation?
    have hsend := u.run_send_of_accepted (Database.after?_begin h'.native_of_idle)
    rw [hlevel, Manager.beginOutermost_eq] at hbegin
    simp only [Action.run_bind, hannounce, hsend, Manager.setLevel, Action.run_change] at hbegin
    refine ⟨_, hbegin, rfl, h'.data, h'.refused, ?_⟩
    rw [h'.data]
    exact @Backs.open_ D _ data [] [] fun _ => .outermost []
  · rw [hlevel] at hbegin
    simp only [Manager.run_beginNested, Setup.usesSavepoints_manager] at hbegin
    by_cases hsaves : u.savepoints = true
    · have haccepted := @Database.after?_savepoint D s.world _ (xs.length + 1) hnative
      simp only [hsaves, if_true, u.run_send_of_accepted haccepted] at hbegin
      refine ⟨_, hbegin, by simp, h.data, h.refused, ?_⟩
      rw [h.data]
      exact @Backs.open_ D _ base _ (data :: xs) fun _ => (hlive hsaves).cons data
    · -- The transaction is flattened: the level is all that moves.
      simp only [hsaves] at hbegin
      refine ⟨_, hbegin, by simp, h.data, h.refused, ?_⟩
      show Backs _ s.world.native? _
      rw [hnative]
      exact @Backs.open_ D _ base saved (data :: xs) fun hsaves' => absurd hsaves' hsaves

/-- To commit is to forget the latest snapshot. -/
theorem commit (h : Tracks u.savepoints s i) :
    ∃ s', u.manager.commit.run s = ((Ideal.commit.run i).1, s') ∧
      Tracks u.savepoints s' (Ideal.commit.run i).2 := by
  obtain ⟨data, snapshots⟩ := i
  rcases h.idle_or_open with ⟨rfl, hlevel, -⟩ | ⟨base, saved, xs, rfl, hlevel, hnative, hlive⟩
  · have hnone := Manager.innermost?_eq_none_of_level (m := u.manager) hlevel
    exact ⟨s, Manager.run_commit_of_inactive hnone, h⟩
  · have hcommit := Manager.run_commit (u.innermost?_manager hlevel)
    rw [Setup.usesSavepoints_manager] at hcommit
    cases xs with
    | nil =>
        have hsend := @Setup.run_send_of_accepted D u _ { s with level := 0 } _
          (Database.after?_commit hnative)
        simp only [List.length_nil, if_true, hsend] at hcommit
        exact ⟨_, hcommit, rfl, h.data, h.refused, .idle⟩
    | cons x xs =>
        rw [if_neg (by simp)] at hcommit
        by_cases hreleased : u.savepoints = true ∧
            ((Command.release (x :: xs).length).text? u.dialect).isSome = true
        · obtain ⟨below, hfound, hbelow⟩ := (hlive hreleased.1).findSaved?_innermost
          have haccepted := @Database.after?_release D s.world _ _ _ _ hnative hfound
          have hsend := @Setup.run_send_of_accepted D u _ { s with level := xs.length + 1 } _
            haccepted
          rw [if_pos (by simpa using hreleased)] at hcommit
          refine ⟨_, hcommit.trans hsend, by simp [Ideal.commit, Action.run], h.data, h.refused, ?_⟩
          exact .open_ fun _ => hbelow
        · -- No savepoint is released: the one of the level stays, or there has never been one.
          rw [if_neg (by simpa using hreleased)] at hcommit
          refine ⟨_, hcommit, by simp [Ideal.commit, Action.run], h.data, h.refused, ?_⟩
          show Backs _ s.world.native? _
          rw [hnative]
          exact .open_ fun hsaves => (hlive hsaves).tail

/-- The outermost transaction goes back to its snapshot, whether savepoints are used or not. -/
theorem rollback_outermost {data x : D} (h : Tracks u.savepoints s ⟨data, [x]⟩) :
    ∃ s', u.manager.rollback.run s = (.ok (), s') ∧ Tracks u.savepoints s' ⟨x, []⟩ := by
  have hrollback := Manager.run_rollback (@Setup.innermost?_manager D u s 0 h.level)
  rcases h.idle_or_open with ⟨hnone, -⟩ | ⟨base, saved, xs, hsome, -, hnative, -⟩
  · simp at hnone
  · obtain ⟨rfl, rfl⟩ : xs = [] ∧ x = base := by
      cases xs with
      | nil => simpa using hsome
      | cons _ _ => simp at hsome
    have hsend := @Setup.run_send_of_accepted D u _ { s with level := 0 } _
      (Database.after?_rollback hnative)
    simp only [if_true, hsend] at hrollback
    exact ⟨_, hrollback, rfl, rfl, h.refused, .idle⟩

/-- To roll back is to go back to the latest snapshot, if savepoints are used. -/
theorem rollback (hsaves : u.savepoints = true) (h : Tracks u.savepoints s i) :
    ∃ s', u.manager.rollback.run s = ((Ideal.rollback.run i).1, s') ∧
      Tracks u.savepoints s' (Ideal.rollback.run i).2 := by
  obtain ⟨data, snapshots⟩ := i
  rcases h.idle_or_open with ⟨rfl, hlevel, -⟩ | ⟨base, saved, xs, rfl, hlevel, hnative, hlive⟩
  · have hnone := Manager.innermost?_eq_none_of_level (m := u.manager) hlevel
    exact ⟨s, Manager.run_rollback_of_inactive hnone, h⟩
  · cases xs with
    | nil => exact h.rollback_outermost
    | cons x xs =>
        have hrollback := Manager.run_rollback (u.innermost?_manager hlevel)
        obtain ⟨below, hfound, hbelow⟩ := (hlive hsaves).findSaved?_innermost
        have haccepted := @Database.after?_rollbackTo D s.world _ _ _ _ hnative hfound
        have hsend := @Setup.run_send_of_accepted D u _ { s with level := xs.length + 1 } _
          haccepted
        rw [Setup.usesSavepoints_manager, if_neg (by simp), if_pos hsaves] at hrollback
        refine ⟨_, hrollback.trans hsend, by simp [Ideal.rollback, Action.run], rfl, h.refused, ?_⟩
        -- The savepoint of the level stays behind.
        refine .open_ fun _ => @Live.left_over D _ [(savepointName (xs.length + 1), x)] _ hbelow ?_
        intro e he
        cases List.mem_singleton.mp he
        exact ⟨xs.length + 1, by omega, rfl⟩

/-- A flattened transaction cannot be rolled back by itself: its level is left, and its writes
stay. -/
theorem rollback_flattened {data x y : D} {rest : List D} (hsaves : u.savepoints = false)
    (h : Tracks u.savepoints s ⟨data, x :: y :: rest⟩) :
    ∃ s', u.manager.rollback.run s = (.error (.nestedRollback (rest.length + 1)), s') ∧
      Tracks u.savepoints s' ⟨data, y :: rest⟩ := by
  have hrollback := Manager.run_rollback (@Setup.innermost?_manager D u s (rest.length + 1) h.level)
  rw [Setup.usesSavepoints_manager, if_neg (by simp), hsaves] at hrollback
  refine ⟨_, hrollback, rfl, h.data, h.refused, ?_⟩
  rcases h.idle_or_open with ⟨hnone, -⟩ | ⟨base, saved, xs, hsome, -, hnative, -⟩
  · simp at hnone
  · show Backs _ s.world.native? (y :: rest)
    obtain ⟨xs', hrest⟩ : ∃ xs', y :: rest = xs' ++ [base] := by
      cases xs with
      | nil => simp at hsome
      | cons _ xs' => exact ⟨xs', (List.cons.inj hsome).2⟩
    rw [hnative, hrest, hsaves]
    exact .open_ nofun

/-- The caller may write at any time. -/
theorem write (h : Tracks savepoints s i) (f : D → D) :
    ∃ s', (Database.write f).run s = (.ok (), s') ∧
      Tracks savepoints s' { i with data := f i.data } := by
  refine ⟨_, rfl, h.level, ?_, h.refused, h.native⟩
  exact congrArg f h.data

end Tracks

/-! ### Whole runs -/

/-- What a caller does: transitions of the manager, and writes of its own. -/
inductive Act (D : Type) where
  | begin_ (isolation? : Option String)
  | commit
  | rollback
  | write (f : D → D)

namespace Act

/-- An act on a manager over a database. -/
def onDatabase (m : Manager (Database D)) : Act D → Action (Session (Database D)) Unit
  | .begin_ isolation? => m.begin_ isolation?
  | .commit => m.commit
  | .rollback => m.rollback
  | .write f => Database.write f

/-- An act on the ideal machine. -/
def onIdeal : Act D → Action (Ideal D) Unit
  | .begin_ _ => Ideal.begin_
  | .commit => Ideal.commit
  | .rollback => Ideal.rollback
  | .write f => Action.change fun i => { i with data := f i.data }

/-- All acts in order; one that fails does not keep the next ones from being done. -/
def doAll {σ : Type} (onState : Act D → Action σ Unit) :
    List (Act D) → σ → List (Except Error Unit) × σ
  | [], s => ([], s)
  | act :: rest, s =>
    let (outcome, s') := (onState act).run s
    let (outcomes, s'') := doAll onState rest s'
    (outcome :: outcomes, s'')

variable {u : Setup} {s : Session (Database D)} {i : Ideal D}

/-- Each act has the outcome that it has on the ideal machine. -/
theorem tracks (hsaves : u.savepoints = true) (h : Tracks u.savepoints s i) (act : Act D) :
    ∃ s', (act.onDatabase u.manager).run s = ((act.onIdeal.run i).1, s') ∧
      Tracks u.savepoints s' (act.onIdeal.run i).2 := by
  cases act with
  | begin_ isolation? => exact h.begin_ isolation?
  | commit => exact h.commit
  | rollback => exact h.rollback hsaves
  | write f => exact h.write f

/-- A sequence of acts has the outcomes that it has on the ideal machine. -/
theorem tracks_doAll (hsaves : u.savepoints = true) (acts : List (Act D))
    (h : Tracks u.savepoints s i) :
    (doAll (onDatabase u.manager) acts s).1 = (doAll onIdeal acts i).1 ∧
      Tracks u.savepoints (doAll (onDatabase u.manager) acts s).2 (doAll onIdeal acts i).2 := by
  induction acts generalizing s i with
  | nil => exact ⟨rfl, h⟩
  | cons act rest ih =>
      obtain ⟨s', hact, h'⟩ := tracks hsaves h act
      obtain ⟨houtcomes, hrest⟩ := ih h'
      simp only [doAll, hact, houtcomes]
      exact ⟨trivial, hrest⟩

end Act

/-- A manager with savepoints does over any sequence of transitions and writes what the ideal
machine does: each act has the same outcome, the data are the same, the level is the number of
snapshots, and the database has refused no command, so every savepoint that was named was there. -/
theorem nested_refines (u : Setup) (hsaves : u.savepoints = true) (x : D) (acts : List (Act D)) :
    let session := Act.doAll (Act.onDatabase u.manager) acts (.start { data := x })
    let ideal := Act.doAll Act.onIdeal acts ⟨x, []⟩
    session.1 = ideal.1 ∧
      session.2.world.data = ideal.2.data ∧
      session.2.level = ideal.2.snapshots.length ∧
      session.2.world.refused = [] := by
  intro session ideal
  have hstart : Tracks u.savepoints (.start { data := x }) ⟨x, []⟩ := ⟨rfl, rfl, rfl, .idle⟩
  obtain ⟨houtcomes, h⟩ := Act.tracks_doAll hsaves acts hstart
  exact ⟨houtcomes, h.data, h.level, h.refused⟩

/-- Two transactions on level 2, the first of them rolled back, on the dialect that releases no
savepoints: the savepoint of the second stands above that of the first, of the same name. -/
theorem nested_refines_reused :
    let u : Setup := { dialect := .standard .oracle }
    let acts : List (Act Nat) :=
      [.begin_ none, .begin_ none, .write (· + 1), .rollback, .begin_ none, .write (· + 10),
        .begin_ none, .write (· + 100), .rollback, .commit, .commit]
    u.savepoints = true ∧
      (Act.doAll (Act.onDatabase u.manager) acts (.start { data := 0 })).2.world.data = 10 := by
  intro u acts
  have hsaves : u.savepoints = true := rfl
  have hdata := (nested_refines u hsaves 0 acts).2.1
  exact ⟨hsaves, hdata.trans rfl⟩

end SqlLoom
