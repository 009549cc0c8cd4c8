import SqlLoom.Error

/-!
# `SqlLoom.Action`: operations on a state that may fail

An `Action σ α` takes a state and gives a result or an error, and a state in either case: what was
done before a failure stays done. Actions are a monad in which an error ends a sequence, and
`try … catch` goes on from the state that the failure left.

* `Action.read` and `Action.change` look at the state and replace it.
* `Action.onPart` runs an action on one part of a larger state.

The equations of `Action.run` say what each way to make an action does to a state.
-/

set_option autoImplicit false

namespace SqlLoom

/-- An operation on states `σ` that gives an `α` or fails. -/
def Action (σ α : Type) : Type := σ → Except Error α × σ

namespace Action

variable {σ τ α β : Type}

/-- Runs an action from a state. -/
def run (a : Action σ α) (s : σ) : Except Error α × σ := a s

/-- Runs one action and then the one that its result chooses. -/
def andThen (a : Action σ α) (next : α → Action σ β) : Action σ β := fun s =>
  match a s with
  | (.ok v, s') => next v s'
  | (.error e, s') => (.error e, s')

/-- Runs an action, and another one after a failure, from the state that the failure left. -/
def orElse (a : Action σ α) (handle : Error → Action σ α) : Action σ α := fun s =>
  match a s with
  | (.ok v, s') => (.ok v, s')
  | (.error e, s') => handle e s'

instance : Monad (Action σ) where
  pure v := fun s => (.ok v, s)
  bind := andThen

instance : MonadExceptOf Error (Action σ) where
  throw e := fun s => (.error e, s)
  tryCatch := orElse

/-- Reads something off the state. -/
def read (f : σ → α) : Action σ α := fun s => (.ok (f s), s)

/-- Replaces the state. -/
def change (f : σ → σ) : Action σ Unit := fun s => (.ok (), f s)

/-- Gives what is there already. -/
def ofExcept (r : Except Error α) : Action σ α := fun s => (r, s)

/-- Runs an action on a part of a larger state. -/
def onPart (part : τ → σ) (put : σ → τ → τ) (a : Action σ α) : Action τ α := fun t =>
  let (r, s) := a (part t)
  (r, put s t)

/-! ### Equations -/

/-- Two actions that do the same from every state are the same. -/
theorem ext {a b : Action σ α} (h : ∀ s, a.run s = b.run s) : a = b := funext h

@[simp]
theorem run_pure (v : α) (s : σ) : (pure v : Action σ α).run s = (.ok v, s) := rfl

@[simp]
theorem run_throw (e : Error) (s : σ) : (throw e : Action σ α).run s = (.error e, s) := rfl

@[simp]
theorem run_read (f : σ → α) (s : σ) : (read f).run s = (.ok (f s), s) := rfl

@[simp]
theorem run_change (f : σ → σ) (s : σ) : (change f).run s = (.ok (), f s) := rfl

@[simp]
theorem run_onPart (part : τ → σ) (put : σ → τ → τ) (a : Action σ α) (t : τ) :
    (a.onPart part put).run t = ((a.run (part t)).1, put (a.run (part t)).2 t) := rfl

theorem run_ite (p : Prop) [Decidable p] (a b : Action σ α) (s : σ) :
    (if p then a else b).run s = if p then a.run s else b.run s := by
  split <;> rfl

theorem run_bind (a : Action σ α) (next : α → Action σ β) (s : σ) :
    (a >>= next).run s = match a.run s with
      | (.ok v, s') => (next v).run s'
      | (.error e, s') => (.error e, s') := rfl

theorem run_tryCatch (a : Action σ α) (handle : Error → Action σ α) (s : σ) :
    (tryCatch a handle).run s = match a.run s with
      | (.ok v, s') => (.ok v, s')
      | (.error e, s') => (handle e).run s' := rfl

/-- What is made of a result does not change what an action does to a state. -/
theorem run_return (f : α → β) (a : Action σ α) (s : σ) :
    (a >>= fun v => pure (f v)).run s = ((a.run s).1.map f, (a.run s).2) := by
  rw [run_bind]
  rcases a.run s with ⟨_ | _, _⟩ <;> rfl

end Action

end SqlLoom
