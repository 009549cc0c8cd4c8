import Mathlib.Data.List.Induction
import SqlLoom.Transaction

/-!
# `SqlLoom.Proofs.Transaction.History`: the order of the commands of a manager

A history lists the commands that were issued, each with whether it succeeded. Commands that failed
are in it too: what a manager asks of a connection should be in order also where the connection
refuses.

* `Since` is what a history says about the time since an event. `Active` is "a native transaction
  has begun, and no end of it was attempted since"; `Protected` is "the savepoint of this level was
  set in the present native transaction, and no lower one was closed since".
* `Ordered` says that each command was issued when `Permitted`. From that alone follows
  `Ordered.ended_once`: between two native transactions that begin, one end is attempted.
* `Turn` lists the ways in which a transition moves the level and lengthens the history. `Orderly`
  ties the level to the history, and `Turn.orderly` is the step: a turn keeps it.
-/

set_option autoImplicit false

namespace SqlLoom

/-- A command that was issued, and whether it succeeded. -/
structure Event where
  command : Command
  succeeded : Bool
  deriving DecidableEq, Repr

namespace Event

/-- A native transaction has begun. -/
def Begins (e : Event) : Prop := e = ⟨.begin_, true⟩

/-- The end of a native transaction was attempted. -/
def Ends (e : Event) : Prop := e.command = .commit ∨ e.command = .rollback

/-- The savepoint of a level was released or gone back to, or this was attempted. -/
def Closes (level : Nat) (e : Event) : Prop :=
  e.command = .release level ∨ e.command = .rollbackTo level

/-- An isolation level was set, or this was attempted. -/
def Isolates (e : Event) : Prop := ∃ level, e.command = .setIsolation level

instance : DecidablePred Ends := fun e =>
  inferInstanceAs (Decidable (e.command = .commit ∨ e.command = .rollback))

end Event

/-! ### What has happened since -/

/-- An event happened when `start` held of the history before it, and all events since have
`kept`. -/
def Since (e : Event) (start : List Event → Prop) (kept : Event → Prop) (h : List Event) : Prop :=
  ∃ before after, h = before ++ e :: after ∧ start before ∧ ∀ e' ∈ after, kept e'

namespace Since

variable {e e' : Event} {start : List Event → Prop} {kept : Event → Prop} {h : List Event}

theorem now (hstart : start h) : Since e start kept (h ++ [e]) :=
  ⟨h, [], rfl, hstart, by simp⟩

theorem append (hsince : Since e start kept h) (hkept : kept e') :
    Since e start kept (h ++ [e']) := by
  obtain ⟨before, after, rfl, hstart, hafter⟩ := hsince
  refine ⟨before, after ++ [e'], by simp, hstart, ?_⟩
  intro f hf
  rcases List.mem_append.mp hf with hf | hf
  · exact hafter f hf
  · cases List.mem_singleton.mp hf
    exact hkept

/-- Another event than the one looked for only has to be kept. -/
theorem append_iff (hne : e' ≠ e) :
    Since e start kept (h ++ [e']) ↔ Since e start kept h ∧ kept e' := by
  constructor
  · rintro ⟨before, after, hsplit, hstart, hafter⟩
    rcases List.eq_nil_or_concat after with rfl | ⟨after', f, rfl⟩
    · -- The last event would be the one looked for.
      have hlast : e' = e := by simpa using (List.append_inj' hsplit rfl).2
      exact absurd hlast hne
    · have hsplit' : h ++ [e'] = (before ++ e :: after') ++ [f] := by simpa using hsplit
      obtain ⟨rfl, hlast⟩ := List.append_inj' hsplit' rfl
      obtain rfl : e' = f := by simpa using hlast
      have hkept : kept e' := hafter e' (by simp)
      have hsince : ∀ f ∈ after', kept f := fun f hf => hafter f (by simp [hf])
      exact ⟨⟨before, after', rfl, hstart, hsince⟩, hkept⟩
  · rintro ⟨hsince, hkept⟩
    exact hsince.append hkept

end Since

/-- The last native transaction that has begun has not been ended, not even by an attempt. -/
def Active : List Event → Prop :=
  Since ⟨.begin_, true⟩ (fun _ => True) fun e => ¬ e.Begins ∧ ¬ e.Ends

/-- The savepoint of a level was set in the native transaction that is still active, and no
savepoint of a lower level was closed since, not even by an attempt. -/
def Protected (level : Nat) : List Event → Prop :=
  Since ⟨.savepoint level, true⟩ Active fun e =>
    ¬ e.Begins ∧ ¬ e.Ends ∧ ∀ k < level, ¬ e.Closes k

variable {h before after : List Event} {e : Event} {level : Nat}

theorem not_active_nil : ¬ Active [] := by
  rintro ⟨before, after, hsplit, -⟩
  simp at hsplit

theorem active_append_of_ends (he : e.Ends) : ¬ Active (h ++ [e]) := by
  have hne : e ≠ ⟨.begin_, true⟩ := by
    rintro rfl
    rcases he with he | he <;> cases he
  intro hactive
  exact ((Since.append_iff hne).mp hactive).2.2 he

theorem active_append_iff (hbegins : ¬ e.Begins) (hends : ¬ e.Ends) :
    Active (h ++ [e]) ↔ Active h := by
  unfold Active
  rw [Since.append_iff hbegins]
  simp [hbegins, hends]

/-! ### Ordered histories -/

/-- What must have happened before a command is issued. -/
def Permitted (before : List Event) (c : Command) : Prop :=
  match c with
  | .begin_ => ¬ Active before
  | .commit | .rollback | .savepoint _ => Active before
  | .release level | .rollbackTo level => Protected level before
  | .setIsolation _ => True

/-- Each command was issued when it was permitted. -/
def Ordered (h : List Event) : Prop :=
  ∀ before e after, h = before ++ e :: after → Permitted before e.command

namespace Ordered

theorem nil : Ordered [] := by
  intro before e after hsplit
  simp at hsplit

theorem append (hordered : Ordered h) (hpermitted : Permitted h e.command) :
    Ordered (h ++ [e]) := by
  intro before f after hsplit
  rcases List.eq_nil_or_concat after with rfl | ⟨after', g, rfl⟩
  · obtain ⟨rfl, hlast⟩ := List.append_inj' hsplit rfl
    obtain rfl : e = f := by simpa using hlast
    exact hpermitted
  · have hsplit' : h ++ [e] = (before ++ f :: after') ++ [g] := by simpa using hsplit
    exact hordered before f after' (List.append_inj' hsplit' rfl).1

theorem of_append (hordered : Ordered (h ++ after)) : Ordered h := by
  rintro before e rest rfl
  exact hordered before e (rest ++ after) (by simp)

/-- While no other native transaction has begun, the end of the last one was attempted once if it is
not active any more, and not at all if it is. -/
theorem ends_since (hordered : Ordered (before ++ ⟨.begin_, true⟩ :: after))
    (hsame : ∀ e ∈ after, ¬ e.Begins) :
    (Active (before ++ ⟨.begin_, true⟩ :: after) ∧ after.countP (·.Ends) = 0) ∨
      (¬ Active (before ++ ⟨.begin_, true⟩ :: after) ∧ after.countP (·.Ends) = 1) := by
  induction after using List.reverseRecOn with
  | nil => exact .inl ⟨Since.now trivial, rfl⟩
  | append_singleton rest e ih =>
      have hassoc : before ++ ⟨.begin_, true⟩ :: (rest ++ [e])
          = (before ++ ⟨.begin_, true⟩ :: rest) ++ [e] := by simp
      rw [hassoc] at hordered ⊢
      have ih := ih hordered.of_append fun f hf => hsame f (by simp [hf])
      have hbegins : ¬ e.Begins := hsame e (by simp)
      by_cases hends : e.Ends
      · -- An end is permitted only as long as there has been none.
        have hactive : Active (before ++ ⟨.begin_, true⟩ :: rest) := by
          have hpermitted := hordered _ e [] rfl
          rcases hends with hends | hends <;> rwa [hends] at hpermitted
        have hnone : rest.countP (·.Ends) = 0 := by
          rcases ih with ⟨-, hnone⟩ | ⟨hinactive, -⟩
          · exact hnone
          · exact absurd hactive hinactive
        exact .inr ⟨active_append_of_ends hends, by simp [List.countP_append, hnone, hends]⟩
      · rw [active_append_iff hbegins hends]
        simpa [List.countP_append, hends] using ih

/-- Between two native transactions that begin one after the other, one end is attempted. -/
theorem ended_once {between : List Event}
    (hordered : Ordered (before ++ ⟨.begin_, true⟩ :: between ++ ⟨.begin_, true⟩ :: after))
    (hnext : ∀ e ∈ between, ¬ e.Begins) : between.countP (·.Ends) = 1 := by
  have hinactive : ¬ Active (before ++ ⟨.begin_, true⟩ :: between) :=
    hordered _ ⟨.begin_, true⟩ after rfl
  rcases hordered.of_append.ends_since hnext with ⟨hactive, -⟩ | ⟨-, hone⟩
  · exact absurd hactive hinactive
  · exact hone

end Ordered

/-! ### Turns -/

/-- How a transition moves from one level to another, and the events that it adds. Whether the
savepoint events occur depends on whether savepoints are used. -/
inductive Turn (uses : Bool) : Nat → List Event → Nat → Prop where
  /-- Nothing but isolation levels were set. -/
  | quiet (level : Nat) {es : List Event} (hes : ∀ e ∈ es, e.Isolates) : Turn uses level es level
  | begun {es : List Event} (hes : ∀ e ∈ es, e.Isolates) : Turn uses 0 (es ++ [⟨.begin_, true⟩]) 1
  | notBegun {es : List Event} (hes : ∀ e ∈ es, e.Isolates) :
      Turn uses 0 (es ++ [⟨.begin_, false⟩]) 0
  | saved (level : Nat) : Turn uses (level + 1) [⟨.savepoint (level + 1), true⟩] (level + 2)
  | notSaved (level : Nat) : Turn uses (level + 1) [⟨.savepoint (level + 1), false⟩] (level + 1)
  | flattened (level : Nat) (huses : uses = false) : Turn uses (level + 1) [] (level + 2)
  | ended {e : Event} (he : e.Ends) : Turn uses 1 [e] 0
  | closed (level : Nat) {e : Event} (huses : uses = true) (he : e.Closes (level + 1)) :
      Turn uses (level + 2) [e] (level + 1)
  | left (level : Nat) : Turn uses (level + 2) [] (level + 1)

namespace Turn

variable {uses : Bool} {level' : Nat} {es : List Event}

/-- A native transaction is begun from level 0 only, also in vain. -/
theorem level_of_begin (hturn : Turn uses level es level') (he : e ∈ es)
    (hbegin : e.command = .begin_) : level = 0 := by
  cases hturn with
  | quiet _ hes =>
      obtain ⟨name, hname⟩ := hes e he
      cases hbegin.symm.trans hname
  | begun | notBegun => rfl
  | saved | notSaved =>
      cases List.mem_singleton.mp he
      cases hbegin
  | flattened | left => simp at he
  | ended hends =>
      cases List.mem_singleton.mp he
      rcases hends with hends | hends <;> cases hbegin.symm.trans hends
  | closed level _ hcloses =>
      cases List.mem_singleton.mp he
      rcases hcloses with hcloses | hcloses <;> cases hbegin.symm.trans hcloses

/-- A native transaction is ended from level 1 only, also in vain, and the level is left. -/
theorem level_of_end (hturn : Turn uses level es level') (he : e ∈ es) (hends : e.Ends) :
    level = 1 ∧ level' = 0 := by
  have hquiet : ∀ {es : List Event}, (∀ f ∈ es, f.Isolates) → e ∉ es := by
    intro es hes he
    obtain ⟨name, hname⟩ := hes e he
    simp [Event.Ends, hname] at hends
  cases hturn with
  | quiet _ hes => exact absurd he (hquiet hes)
  | begun hes | notBegun hes =>
      rcases List.mem_append.mp he with he | he
      · exact absurd he (hquiet hes)
      · cases List.mem_singleton.mp he
        simp [Event.Ends] at hends
  | saved | notSaved =>
      cases List.mem_singleton.mp he
      simp [Event.Ends] at hends
  | flattened | left => simp at he
  | ended => exact ⟨rfl, rfl⟩
  | closed level _ hcloses =>
      cases List.mem_singleton.mp he
      rcases hcloses with hcloses | hcloses <;> simp [Event.Ends, hcloses] at hends

end Turn

/-- The level is the one that the history of commands leads to. -/
structure Orderly (uses : Bool) (level : Nat) (h : List Event) : Prop where
  ordered : Ordered h
  active : 0 < level ↔ Active h
  protected_ : uses = true → ∀ k, 0 < k → k < level → Protected k h

namespace Orderly

variable {uses : Bool} {es : List Event}

theorem start (uses : Bool) : Orderly uses 0 [] where
  ordered := .nil
  active := by simp [not_active_nil]
  protected_ := by simp

/-- An event at which no native transaction begins or ends leaves a transaction active or not, and
its savepoints protected as long as it closes no lower ones. -/
theorem append (hh : Orderly uses level h) (hpermitted : Permitted h e.command)
    (hbegins : ¬ e.Begins) (hends : ¬ e.Ends)
    (hcloses : ∀ k < level, ∀ j < k, ¬ e.Closes j) : Orderly uses level (h ++ [e]) where
  ordered := hh.ordered.append hpermitted
  active := by
    rw [active_append_iff hbegins hends]
    exact hh.active
  protected_ := by
    intro huses k hpos hk
    exact (hh.protected_ huses k hpos hk).append ⟨hbegins, hends, hcloses k hk⟩

theorem isolates (hh : Orderly uses level h) (hes : ∀ e ∈ es, e.Isolates) :
    Orderly uses level (h ++ es) := by
  induction es generalizing h with
  | nil => simpa using hh
  | cons e rest ih =>
      have hfirst : Orderly uses level (h ++ [e]) := by
        obtain ⟨name, he⟩ := hes e (by simp)
        apply hh.append
        · simp [Permitted, he]
        · rintro rfl
          cases he
        · simp [Event.Ends, he]
        · simp [Event.Closes, he]
      have hrest := ih hfirst fun f hf => hes f (by simp [hf])
      simpa using hrest

/-- The native transaction begins. -/
theorem begin_ (hh : Orderly uses 0 h) : Orderly uses 1 (h ++ [⟨.begin_, true⟩]) where
  ordered := by
    apply hh.ordered.append
    intro hactive
    have hpositive : 0 < 0 := hh.active.mpr hactive
    omega
  active := by simp [Active, Since.now]
  protected_ := by omega

/-- The end of the native transaction is attempted; whether that succeeds makes no difference. -/
theorem end_ (hh : Orderly uses 1 h) (he : e.Ends) : Orderly uses 0 (h ++ [e]) where
  ordered := by
    have hactive : Active h := hh.active.mp (by omega)
    rcases he with he | he <;> exact hh.ordered.append (by rwa [he])
  active := by simp [active_append_of_ends he]
  protected_ := by omega

/-- The savepoint of the innermost level is set. -/
theorem save (hh : Orderly uses (level + 1) h) :
    Orderly uses (level + 2) (h ++ [⟨.savepoint (level + 1), true⟩]) := by
  have hactive : Active h := hh.active.mp (by omega)
  have hkept : Orderly uses (level + 1) (h ++ [⟨.savepoint (level + 1), true⟩]) :=
    hh.append hactive (by simp [Event.Begins]) (by simp [Event.Ends]) (by simp [Event.Closes])
  refine ⟨hkept.ordered, by simp [← hkept.active], ?_⟩
  intro huses k hpos hk
  rcases Nat.lt_succ_iff_lt_or_eq.mp hk with hk | rfl
  · exact hkept.protected_ huses k hpos hk
  · exact Since.now hactive

/-- The innermost transaction is left. -/
theorem leave (hh : Orderly uses (level + 2) h) : Orderly uses (level + 1) h where
  ordered := hh.ordered
  active := by simp [← hh.active]
  protected_ := fun huses k hpos hk => hh.protected_ huses k hpos (by omega)

end Orderly

/-- A turn leads from an orderly history to an orderly one. -/
theorem Turn.orderly {uses : Bool} {level level' : Nat} {es : List Event}
    (hturn : Turn uses level es level') (hh : Orderly uses level h) :
    Orderly uses level' (h ++ es) := by
  cases hturn with
  | quiet _ hes => exact hh.isolates hes
  | begun hes =>
      rw [← List.append_assoc]
      exact (hh.isolates hes).begin_
  | notBegun hes =>
      -- A begin that is refused neither begins, ends nor closes, and is allowed in an idle history.
      rw [← List.append_assoc]
      have hidle := hh.isolates hes
      apply hidle.append
      · intro hactive
        simpa using hidle.active.mpr hactive
      · simp [Event.Begins]
      · simp [Event.Ends]
      · simp [Event.Closes]
  | saved level => exact hh.save
  | notSaved level =>
      have hactive : Active h := hh.active.mp (by omega)
      exact hh.append hactive (by simp [Event.Begins]) (by simp [Event.Ends])
        (by simp [Event.Closes])
  | flattened level huses =>
      rw [List.append_nil]
      refine ⟨hh.ordered, by simp [← hh.active], ?_⟩
      simp [huses]
  | ended he => exact hh.end_ he
  | @closed level e huses he =>
      have hprotected : Protected (level + 1) h := hh.protected_ huses _ (by omega) (by omega)
      apply hh.leave.append
      · rcases he with he | he <;> rwa [he]
      · rintro rfl
        rcases he with he | he <;> cases he
      · rcases he with he | he <;> simp [Event.Ends, he]
      · -- The savepoint that is closed is above all those that stay protected.
        intro k hk j hj
        rcases he with he | he <;> simp only [Event.Closes, he] <;> simp <;> omega
  | left level =>
      rw [List.append_nil]
      exact hh.leave

end SqlLoom
