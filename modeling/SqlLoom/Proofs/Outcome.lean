import Mathlib.Data.List.Forall2
import SqlLoom.Error

/-!
# `SqlLoom.Proofs.Outcome`: computations that may fail

Compilation either fails or gives a result, and most theorems about it speak of the result only.
`Gives x P` says so of one computation: what `x` gives satisfies `P`. `Follows x y R` compares two:
wherever `x` gives something, `y` gives something related to it by `R`, so `y` does not fail where
`x` does not.

`Agrees R x y` says that they also fail alike, with one error.

All of them go through a computation step by step (`Gives.bind`, `Follows.bind`, `Agrees.bind`), so
a proof has the shape of the definition that it is about.
-/

set_option autoImplicit false

namespace SqlLoom

variable {α β γ δ : Type}

/-! ### One computation -/

/-- What the computation gives satisfies `P`. -/
def Gives (x : Except Error α) (P : α → Prop) : Prop := ∀ a, x = .ok a → P a

namespace Gives

theorem ok {a : α} {P : α → Prop} (h : P a) : Gives (.ok a) P := by
  intro b hb
  cases hb
  exact h

theorem pure {a : α} {P : α → Prop} (h : P a) : Gives (Pure.pure a) P := ok h

theorem error (e : Error) (P : α → Prop) : Gives (.error e) P := by
  intro a ha
  cases ha

theorem bind {x : Except Error α} {k : α → Except Error β} {P : α → Prop} {Q : β → Prop}
    (hx : Gives x P) (hk : ∀ a, P a → Gives (k a) Q) : Gives (x >>= k) Q := by
  intro b hb
  cases h : x with
  | error e =>
      rw [h] at hb
      cases hb
  | ok a =>
      rw [h] at hb
      exact hk a (hx a h) b hb

/-- A step that gives nothing to speak of. -/
theorem andThen {x : Except Error α} {k : α → Except Error β} {Q : β → Prop}
    (hk : ∀ a, x = .ok a → Gives (k a) Q) : Gives (x >>= k) Q :=
  bind (P := fun a => x = .ok a) (fun _ h => h) hk

theorem and {x : Except Error α} {P Q : α → Prop} (hP : Gives x P) (hQ : Gives x Q) :
    Gives x fun a => P a ∧ Q a :=
  fun a ha => ⟨hP a ha, hQ a ha⟩

theorem imp {x : Except Error α} {P Q : α → Prop} (hx : Gives x P) (h : ∀ a, P a → Q a) :
    Gives x Q :=
  fun a ha => h a (hx a ha)

/-- The members of a list, one after the other. -/
theorem mapM {x : α → Except Error β} {P : α → β → Prop} {as : List α}
    (h : ∀ a ∈ as, Gives (x a) (P a)) : Gives (as.mapM x) (List.Forall₂ P as) := by
  induction as with
  | nil => exact pure List.Forall₂.nil
  | cons a as ih =>
      rw [List.mapM_cons]
      refine bind (h a List.mem_cons_self) fun b hb => ?_
      refine bind (ih fun c hc => h c (List.mem_cons_of_mem _ hc)) fun bs hbs => ?_
      exact pure (List.Forall₂.cons hb hbs)

end Gives

/-- A computation that gives something for every member of a list. -/
theorem mapM_eq_ok {x : α → Except Error β} {as : List α} {f : γ → β} {cs : List γ}
    (h : as.map x = cs.map fun c => .ok (f c)) : as.mapM x = .ok (cs.map f) := by
  have hmap : (as.map x).mapM id = (cs.map fun c => Except.ok (f c)).mapM id := by rw [h]
  rw [List.mapM_map, List.mapM_map] at hmap
  exact hmap.trans List.mapM_pure

/-! ### Two computations -/

/-- Wherever `x` gives something, `y` gives something that is related to it. -/
def Follows (x : Except Error α) (y : Except Error β) (R : α → β → Prop) : Prop :=
  ∀ a, x = .ok a → ∃ b, y = .ok b ∧ R a b

/-- Nothing is asked of the two results. -/
def Anything (_ : α) (_ : β) : Prop := True

namespace Follows

theorem ok {a : α} {b : β} {R : α → β → Prop} (h : R a b) : Follows (.ok a) (.ok b) R := by
  intro a' ha
  cases ha
  exact ⟨b, rfl, h⟩

theorem pure {a : α} {b : β} {R : α → β → Prop} (h : R a b) :
    Follows (Pure.pure a) (Pure.pure b) R := ok h

theorem error (e : Error) (y : Except Error β) (R : α → β → Prop) : Follows (.error e) y R := by
  intro a ha
  cases ha

theorem bind {x : Except Error α} {y : Except Error β} {k : α → Except Error γ}
    {l : β → Except Error δ} {R : α → β → Prop} {S : γ → δ → Prop}
    (hx : Follows x y R) (hk : ∀ a b, R a b → Follows (k a) (l b) S) :
    Follows (x >>= k) (y >>= l) S := by
  intro c hc
  cases h : x with
  | error e =>
      rw [h] at hc
      cases hc
  | ok a =>
      obtain ⟨b, hb, hab⟩ := hx a h
      rw [h] at hc
      rw [hb]
      exact hk a b hab c hc

/-- A computation follows itself. -/
theorem same {R : α → α → Prop} (h : ∀ a, R a a) (x : Except Error α) : Follows x x R :=
  fun a ha => ⟨a, ha, h a⟩

/-- The members of a list, one after the other. -/
theorem mapM {f : α → Except Error γ} {g : α → Except Error δ} {S : γ → δ → Prop}
    (h : ∀ a, Follows (f a) (g a) S) (as : List α) :
    Follows (as.mapM f) (as.mapM g) (List.Forall₂ S) := by
  induction as with
  | nil => exact pure List.Forall₂.nil
  | cons a as ih =>
      rw [List.mapM_cons, List.mapM_cons]
      refine bind (h a) fun c d hcd => ?_
      exact bind ih fun cs ds hrest => pure (List.Forall₂.cons hcd hrest)

/-- The members of a list, each of them changed in the same way. -/
theorem mapM_map {f g : α → Except Error γ} {S : γ → γ → Prop} (change : α → α)
    (h : ∀ a, Follows (f a) (g (change a)) S) (as : List α) :
    Follows (as.mapM f) ((as.map change).mapM g) (List.Forall₂ S) := by
  rw [List.mapM_map]
  exact mapM h as

end Follows

/-! ### Two computations that fail alike -/

/-- Both computations give something, and the results are related by `R`, or both fail with one
error. -/
inductive Agrees (R : α → β → Prop) : Except Error α → Except Error β → Prop where
  | ok {a : α} {b : β} (h : R a b) : Agrees R (.ok a) (.ok b)
  | error (e : Error) : Agrees R (.error e) (.error e)

namespace Agrees

variable {R : α → β → Prop} {S : γ → δ → Prop}

theorem pure {a : α} {b : β} (h : R a b) : Agrees R (Pure.pure a) (Pure.pure b) := .ok h

theorem bind {x : Except Error α} {y : Except Error β} {k : α → Except Error γ}
    {l : β → Except Error δ} (hx : Agrees R x y) (hk : ∀ a b, R a b → Agrees S (k a) (l b)) :
    Agrees S (x >>= k) (y >>= l) := by
  cases hx with
  | ok h => exact hk _ _ h
  | error e => exact .error e

theorem map {x : Except Error α} {y : Except Error β} {f : α → γ} {g : β → δ}
    (hx : Agrees R x y) (h : ∀ a b, R a b → S (f a) (g b)) : Agrees S (x.map f) (y.map g) := by
  cases hx with
  | ok hab => exact .ok (h _ _ hab)
  | error e => exact .error e

/-- A computation agrees with itself. -/
theorem same {R : α → α → Prop} (h : ∀ a, R a a) (x : Except Error α) : Agrees R x x := by
  cases x with
  | ok a => exact .ok (h a)
  | error e => exact .error e

/-- Where related results are gone on with alike, the computations are the same. -/
theorem bind_eq {x : Except Error α} {y : Except Error β} {k : α → Except Error γ}
    {l : β → Except Error γ} (hx : Agrees R x y) (hk : ∀ a b, R a b → k a = l b) :
    x >>= k = y >>= l := by
  cases hx with
  | ok h => exact hk _ _ h
  | error e => rfl

/-- Where related results are mapped to one, the mapped computations are the same. -/
theorem map_eq {x : Except Error α} {y : Except Error β} {f : α → γ} {g : β → γ}
    (hx : Agrees R x y) (h : ∀ a b, R a b → f a = g b) : x.map f = y.map g := by
  cases hx with
  | ok hab => exact congrArg Except.ok (h _ _ hab)
  | error e => rfl

end Agrees

end SqlLoom
