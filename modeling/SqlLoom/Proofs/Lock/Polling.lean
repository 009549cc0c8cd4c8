import Mathlib.Algebra.BigOperators.Group.Finset.Basic
import Mathlib.Algebra.Order.BigOperators.Group.Finset
import Mathlib.Algebra.Order.Field.Basic
import Mathlib.Data.Rat.Floor
import Mathlib.Tactic.IntervalCases
import Mathlib.Tactic.Linarith
import Mathlib.Tactic.Ring
import SqlLoom.Lock

/-!
# `SqlLoom.Proofs.Lock.Polling`: polling ends on time

`poll` asks again and again, with a sleep between two attempts. `Poller.before` are the worlds at
the attempts of somebody who never stops, and `Poller.GoesOn` says that an attempt is refused before
the deadline, so that there is another one. Polling is the first attempt of which this is not so
(`Poller.StopsAt.run_pollUntil`), however long the attempts take.

* `Poller.Advances.run_pollUntil_eq`: over a clock that gains half of each delay, the bound on
  attempts that `poll` is given is never what ends it, and a larger one changes nothing.
* `Poller.Steady.now_before`: a steady clock shows the sleeps, and what the attempts have taken.
* `Poller.polling_ends_on_time`: the answer is that of the last attempt, a refusal comes at the
  deadline or later, and there are no more attempts than there is time for.
-/

set_option autoImplicit false

namespace SqlLoom

open scoped BigOperators

/-- Somebody who asks for a lock over and over, with a delay in milliseconds. -/
structure Poller (σ : Type) where
  host : LockHost σ
  delay : Rat
  attempt : Action σ Bool

namespace Poller

variable {σ : Type} (p : Poller σ) (w : σ) (k n : Nat) (deadline timeout : Rat)

/-! ### Attempts and their times -/

/-- One attempt, and the sleep after it. -/
def retry (w : σ) : σ := p.host.sleep (p.delay / 1000) (p.attempt.run w).2

/-- The world at an attempt. The first one has the number 0. -/
def before : σ := p.retry^[k] w

/-- What comes of an attempt. -/
def answer : Except Error Bool := (p.attempt.run (p.before w k)).1

/-- The world after an attempt. -/
def after : σ := (p.attempt.run (p.before w k)).2

/-- The time that an attempt takes. -/
def taken : Rat := p.host.now (p.after w k) - p.host.now (p.before w k)

/-- The time that the first attempts take. -/
def inside : Rat := ∑ k ∈ Finset.range n, p.taken w k

/-- The attempt is refused, and there is time left. -/
structure GoesOn : Prop where
  refused : p.answer w k = .ok false
  early : p.host.now (p.after w k) < deadline

/-- The attempt is the first one that is not refused before the deadline. -/
structure StopsAt : Prop where
  goesOn : ∀ k < n, p.GoesOn w k deadline
  stops : ¬ p.GoesOn w n deadline

/-- The clock gains at least half of each delay, and it does not go back in an attempt. -/
structure Advances (p : Poller σ) : Prop where
  positive : 0 < p.delay
  gained : ∀ w, p.host.now w + p.delay / 2000 ≤ p.host.now (p.host.sleep (p.delay / 1000) w)
  passed : ∀ w, p.host.now w ≤ p.host.now (p.attempt.run w).2

/-- The clock shows each sleep in full, and it does not go back in an attempt. -/
structure Steady (p : Poller σ) : Prop where
  positive : 0 < p.delay
  slept : ∀ w, p.host.now (p.host.sleep (p.delay / 1000) w) = p.host.now w + p.delay / 1000
  passed : ∀ w, p.host.now w ≤ p.host.now (p.attempt.run w).2

theorem before_succ : p.before w (k + 1) = p.host.sleep (p.delay / 1000) (p.after w k) :=
  Function.iterate_succ_apply' _ _ _

theorem before_retry : p.before (p.retry w) k = p.before w (k + 1) :=
  (Function.iterate_succ_apply _ _ _).symm

theorem answer_retry : p.answer (p.retry w) k = p.answer w (k + 1) := by
  rw [answer, answer, before_retry]

theorem after_retry : p.after (p.retry w) k = p.after w (k + 1) := by
  rw [after, after, before_retry]

variable {p w k n deadline timeout}

theorem goesOn_retry_iff : p.GoesOn (p.retry w) k deadline ↔ p.GoesOn w (k + 1) deadline := by
  constructor
  · rintro ⟨hrefused, hearly⟩
    exact ⟨p.answer_retry w k ▸ hrefused, p.after_retry w k ▸ hearly⟩
  · rintro ⟨hrefused, hearly⟩
    exact ⟨(p.answer_retry w k).trans hrefused, by rwa [after_retry]⟩

theorem StopsAt.retry (h : p.StopsAt w (n + 1) deadline) : p.StopsAt (p.retry w) n deadline where
  goesOn k hk := goesOn_retry_iff.mpr (h.goesOn (k + 1) (Nat.succ_lt_succ hk))
  stops := fun hn => h.stops (goesOn_retry_iff.mp hn)

/-! ### Polling is its last attempt -/

/-- After a refusal before the deadline there is another attempt. -/
theorem GoesOn.run_pollUntil (h : p.GoesOn w 0 deadline) (left : Nat) :
    (pollUntil p.host p.delay deadline p.attempt (left + 1)).run w
      = (pollUntil p.host p.delay deadline p.attempt left).run (p.retry w) := by
  obtain ⟨hrefused, hearly⟩ := h
  have hattempt : p.attempt.run w = (.ok false, p.after w 0) := Prod.ext hrefused rfl
  simp only [pollUntil, Action.run_bind, hattempt, Bool.false_eq_true, if_false, Action.run_read,
    not_le.mpr hearly, Action.run_change]
  rw [retry, hattempt]

/-- Polling is the first attempt that is not refused before the deadline, if so many attempts are
allowed. -/
theorem StopsAt.run_pollUntil (h : p.StopsAt w n deadline) {left : Nat} (hleft : n ≤ left) :
    (pollUntil p.host p.delay deadline p.attempt (left + 1)).run w
      = (p.answer w n, p.after w n) := by
  induction n generalizing w left with
  | zero =>
      have hattempt : p.attempt.run w = (p.answer w 0, p.after w 0) := rfl
      rcases hanswer : p.answer w 0 with e | granted <;> rw [hanswer] at hattempt
      · simp [pollUntil, Action.run_bind, hattempt]
      · cases granted with
        | true => simp [pollUntil, Action.run_bind, hattempt]
        | false =>
            have hlate : deadline ≤ p.host.now (p.after w 0) :=
              not_lt.mp fun hearly => h.stops ⟨hanswer, hearly⟩
            simp [pollUntil, Action.run_bind, hattempt, hlate]
  | succ n ih =>
      obtain ⟨left, rfl⟩ : ∃ rest, left = rest + 1 := ⟨left - 1, by omega⟩
      rw [(h.goesOn 0 n.succ_pos).run_pollUntil, ih h.retry (by omega), answer_retry, after_retry]

/-! ### Enough attempts -/

namespace Advances

/-- The clock at an attempt has gained half of the delays before it. -/
theorem le_now_before (h : p.Advances) (w : σ) (n : Nat) :
    p.host.now w + n * (p.delay / 2000) ≤ p.host.now (p.before w n) := by
  induction n with
  | zero => simp [before]
  | succ n ih =>
      have hattempt : p.host.now (p.before w n) ≤ p.host.now (p.after w n) := h.passed _
      have hsleep := h.gained (p.after w n)
      rw [before_succ]
      push_cast
      linarith

/-- An attempt is in time only if half of the delays before it are. -/
theorem lt_timeout (h : p.Advances) (hgoes : p.GoesOn w k (p.host.now w + timeout)) :
    k * (p.delay / 2000) < timeout := by
  have hearly := hgoes.early
  have hattempt : p.host.now (p.before w k) ≤ p.host.now (p.after w k) := h.passed _
  have hgained := h.le_now_before w k
  linarith

/-- The bound on attempts leaves room for one that comes too late. -/
theorem timeout_le_bound (h : p.Advances) (timeout : Rat) :
    ∃ left, attemptBound p.delay timeout = left + 1 ∧ timeout ≤ left * (p.delay / 2000) := by
  refine ⟨2 * (timeout * 1000 / p.delay).ceil.toNat + 1, ?_, ?_⟩
  · rw [attemptBound, if_neg (not_le.mpr h.positive)]
    ring
  · have hceil : timeout * 1000 / p.delay ≤ ((timeout * 1000 / p.delay).ceil : Rat) := Rat.le_ceil
    have hnat : (timeout * 1000 / p.delay).ceil
        ≤ ((timeout * 1000 / p.delay).ceil.toNat : Int) := by omega
    have hdelays : timeout * 1000 / p.delay ≤ ((timeout * 1000 / p.delay).ceil.toNat : Rat) :=
      hceil.trans (by exact_mod_cast hnat)
    rw [div_le_iff₀ h.positive] at hdelays
    have hpos := h.positive
    push_cast
    linarith

/-- There is a last attempt, and the bound on attempts leaves room for it. -/
theorem exists_stop (h : p.Advances) (timeout : Rat) (w : σ) :
    ∃ n left, p.StopsAt w n (p.host.now w + timeout) ∧ n ≤ left ∧
      attemptBound p.delay timeout = left + 1 := by
  classical
  obtain ⟨left, hbound, hleft⟩ := h.timeout_le_bound timeout
  have hstops : ¬ p.GoesOn w left (p.host.now w + timeout) := fun hgoes =>
    absurd (h.lt_timeout hgoes) (not_lt.mpr hleft)
  have hstop : ∃ n, ¬ p.GoesOn w n (p.host.now w + timeout) := ⟨left, hstops⟩
  exact ⟨Nat.find hstop, left, ⟨fun k hk => not_not.mp (Nat.find_min hstop hk),
    Nat.find_spec hstop⟩, Nat.find_min' hstop hstops, hbound⟩

/-- The attempt at which polling ends, under the bound on attempts and under any larger one. -/
theorem run_pollUntil_eq (h : p.Advances) (timeout : Rat) (w : σ) :
    ∃ n, p.StopsAt w n (p.host.now w + timeout) ∧
      ∀ bound, attemptBound p.delay timeout ≤ bound →
        (pollUntil p.host p.delay (p.host.now w + timeout) p.attempt bound).run w
          = (p.answer w n, p.after w n) := by
  obtain ⟨n, left, hstop, hleft, hbound⟩ := h.exists_stop timeout w
  refine ⟨n, hstop, fun bound hmore => ?_⟩
  obtain ⟨more, rfl⟩ : ∃ more, bound = more + 1 := ⟨bound - 1, by omega⟩
  exact hstop.run_pollUntil (by omega)

end Advances

/-- A steady clock gains each delay in full. -/
theorem Steady.advances (h : p.Steady) : p.Advances where
  positive := h.positive
  gained w := by
    have hpos := h.positive
    rw [h.slept]
    linarith
  passed := h.passed

/-! ### The clock -/

theorem inside_succ : p.inside w (n + 1) = p.inside w n + p.taken w n :=
  Finset.sum_range_succ _ _

/-- The clock shows the sleeps and what the attempts have taken. -/
theorem Steady.now_before (h : p.Steady) (w : σ) (n : Nat) :
    p.host.now (p.before w n) = p.host.now w + n * (p.delay / 1000) + p.inside w n := by
  induction n with
  | zero => simp [before, inside]
  | succ n ih =>
      have htaken : p.host.now (p.after w n) = p.host.now (p.before w n) + p.taken w n := by
        rw [taken]
        ring
      rw [before_succ, h.slept, htaken, ih, inside_succ]
      push_cast
      ring

theorem Steady.now_after (h : p.Steady) (w : σ) (n : Nat) :
    p.host.now (p.after w n) = p.host.now w + n * (p.delay / 1000) + p.inside w (n + 1) := by
  have hbefore := h.now_before w n
  rw [inside_succ, taken]
  linarith

theorem Steady.inside_nonneg (h : p.Steady) (w : σ) (n : Nat) : 0 ≤ p.inside w n :=
  Finset.sum_nonneg fun k _ => sub_nonneg.mpr (h.passed (p.before w k))

/-! ### How many attempts there are -/

/-- A refused attempt with a number is in time only if the sleeps before it are. -/
theorem Steady.lt_timeout (h : p.Steady) (hgoes : p.GoesOn w k (p.host.now w + timeout)) :
    k * (p.delay / 1000) < timeout := by
  have hearly := hgoes.early
  have hinside := h.inside_nonneg w (k + 1)
  rw [h.now_after] at hearly
  linarith

/-- Delays that fit into a timeout, by their number. -/
theorem Steady.mul_lt_iff (h : p.Steady) (x : Rat) :
    x * (p.delay / 1000) < timeout ↔ x < timeout * 1000 / p.delay := by
  have hpos := h.positive
  rw [lt_div_iff₀ hpos]
  constructor <;> intro hlt <;> linarith

/-- What polling comes to, where the attempt with the number `n` is the last one. -/
structure EndsAt (p : Poller σ) (timeout : Rat) (w : σ) (n : Nat) : Prop where
  /-- Polling ends with the last attempt, and with its answer. -/
  ends : (poll p.host p.delay timeout p.attempt).run w = (p.answer w n, p.after w n)
  /-- It ends so under any larger bound on the attempts. -/
  unbounded : ∀ bound, attemptBound p.delay timeout ≤ bound →
    (pollUntil p.host p.delay (p.host.now w + timeout) p.attempt bound).run w
      = (p.answer w n, p.after w n)
  /-- All attempts before it have been refused, and before the deadline. -/
  goesOn : ∀ k < n, p.GoesOn w k (p.host.now w + timeout)
  /-- A refusal has come at the deadline or later. -/
  late : p.answer w n = .ok false → p.host.now w + timeout ≤ p.host.now (p.after w n)
  /-- There are no more attempts than there is time for, but one at least. -/
  bounded : (n + 1 : Int) ≤ max 1 ((timeout * 1000 / p.delay).ceil + 1)
  /-- There are as many if all are refused and none takes any time. -/
  exhausted : p.answer w n = .ok false → (∀ k ≤ n, p.taken w k = 0) →
    (n + 1 : Int) = max 1 ((timeout * 1000 / p.delay).ceil + 1)
  /-- Less than one delay is added to the timeout and to what the attempts take. -/
  lasted : p.host.now (p.after w n) - p.host.now w - p.inside w (n + 1)
    < max timeout 0 + p.delay / 1000

/-- The number of the last attempt is no more than the number of delays that have begun. -/
theorem Steady.bounded_of_goesOn (h : p.Steady)
    (hgoes : ∀ k < n, p.GoesOn w k (p.host.now w + timeout)) :
    n = 0 ∨ (n : Int) ≤ (timeout * 1000 / p.delay).ceil := by
  cases n with
  | zero => exact .inl rfl
  | succ n =>
      have hlt := (h.mul_lt_iff _).mp (h.lt_timeout (hgoes n n.lt_succ_self))
      have hceil : (n : Int) < (timeout * 1000 / p.delay).ceil :=
        Rat.lt_ceil_iff.mpr (by exact_mod_cast hlt)
      exact .inr (by push_cast; omega)

/-- Where no attempt takes any time the clock shows the sleeps alone, and it takes as many as fit to
reach the deadline. -/
theorem Steady.ceil_le_of_late (h : p.Steady)
    (hlate : p.host.now w + timeout ≤ p.host.now (p.after w n))
    (hinside : p.inside w (n + 1) = 0) : (timeout * 1000 / p.delay).ceil ≤ (n : Int) := by
  have hsleeps : timeout ≤ n * (p.delay / 1000) := by
    rw [h.now_after, hinside] at hlate
    linarith
  have hdelays := not_lt.mp (mt (h.mul_lt_iff _).mpr (not_lt.mpr hsleeps))
  exact Rat.ceil_le_iff.mpr (by exact_mod_cast hdelays)

/-- The last sleep starts before the deadline, so the sleeps exceed the timeout by less than one. -/
theorem Steady.sleeps_lt (h : p.Steady)
    (hgoes : ∀ k < n, p.GoesOn w k (p.host.now w + timeout)) :
    n * (p.delay / 1000) < max timeout 0 + p.delay / 1000 := by
  cases n with
  | zero =>
      have hdelay : 0 < p.delay / 1000 := div_pos h.positive (by norm_num)
      have hnonneg : 0 ≤ max timeout 0 := le_max_right _ _
      push_cast
      linarith
  | succ n =>
      have hlt := h.lt_timeout (hgoes n n.lt_succ_self)
      have hle : timeout ≤ max timeout 0 := le_max_left _ _
      push_cast
      linarith

/-- Polling over a steady clock ends, whatever the attempts answer and however long they take: with
the first one that is granted, or with one that is refused at the deadline or later. -/
theorem polling_ends_on_time (p : Poller σ) (h : p.Steady) (timeout : Rat) (w : σ) :
    ∃ n, p.EndsAt timeout w n := by
  obtain ⟨n, hstop, hends⟩ := h.advances.run_pollUntil_eq timeout w
  have hcount := h.bounded_of_goesOn hstop.goesOn
  -- Polling has stopped here, so a refusal cannot have come before the deadline.
  have hlate : p.answer w n = .ok false →
      p.host.now w + timeout ≤ p.host.now (p.after w n) := fun hrefused =>
    not_lt.mp fun hearly => hstop.stops ⟨hrefused, hearly⟩
  refine ⟨n, ?_, hends, hstop.goesOn, hlate, by omega, fun hrefused htaken => ?_, ?_⟩
  · rw [poll, Action.run_bind, Action.run_read]
    exact hends _ le_rfl
  · have hinside : p.inside w (n + 1) = 0 :=
      Finset.sum_eq_zero fun k hk => htaken k (Nat.le_of_lt_succ (Finset.mem_range.mp hk))
    have hceil := h.ceil_le_of_late (hlate hrefused) hinside
    omega
  · rw [h.now_after]
    have hsleeps := h.sleeps_lt hstop.goesOn
    linarith

end Poller

/-! ### A database that takes its time -/

/-- A database that answers one attempt after the other, and takes some milliseconds for each. It
refuses a lock when its answers are used up. -/
structure TimedAnswers where
  time : Rat
  answers : List (Bool × Nat)
  deriving DecidableEq

namespace TimedAnswers

/-- The next answer. -/
def next : Action TimedAnswers Value := fun w =>
  match w.answers with
  | [] => (.ok (.bool false), w)
  | (granted, milliseconds) :: rest =>
    (.ok (.bool granted), ⟨w.time + milliseconds / 1000, rest⟩)

/-- A connection to such a database, with a clock that sleeps in full. -/
def host : LockHost TimedAnswers where
  dialect := .standard .postgres
  isOpen _ := true
  query _ _ := next
  call _ params := pure params
  now := TimedAnswers.time
  sleep seconds w := { w with time := w.time + seconds }

/-- Somebody who asks for a lock every 50 milliseconds. -/
def poller : Poller TimedAnswers := ⟨host, 50, Scheme.attempt (.postgres 50) host "jobs" 0⟩

theorem steady_poller : poller.Steady where
  positive := by decide +kernel
  slept _ := rfl
  passed w := by
    rcases w with ⟨time, _ | ⟨⟨granted, milliseconds⟩, rest⟩⟩
    · exact le_rfl
    · show time ≤ time + milliseconds / 1000
      have hnonneg : (0 : Rat) ≤ milliseconds := Nat.cast_nonneg _
      linarith [div_nonneg hnonneg (by norm_num : (0 : Rat) ≤ 1000)]

end TimedAnswers

/-- A timeout of two delays leaves room for three attempts. The fourth one, which would have been
granted, is not made. -/
theorem Poller.polling_ends_on_time_refused :
    let p := TimedAnswers.poller
    let w : TimedAnswers := ⟨7, [(false, 0), (false, 0), (false, 0), (true, 0)]⟩
    p.Steady ∧ (∃ n, p.EndsAt (1 / 10) w n ∧ n + 1 = 3) ∧
      ((poll p.host p.delay (1 / 10) p.attempt).run w).2 = ⟨7 + 1 / 10, [(true, 0)]⟩ := by
  intro p w
  obtain ⟨n, h⟩ := Poller.polling_ends_on_time p TimedAnswers.steady_poller (1 / 10) w
  have hceil : ((1 / 10 : Rat) * 1000 / p.delay).ceil = 2 := by decide +kernel
  have hn : n ≤ 2 := by
    have hbounded := h.bounded
    rw [hceil] at hbounded
    omega
  have hlast : n = 2 := by
    interval_cases n
    · exact absurd (h.late rfl) (by decide +kernel)
    · exact absurd (h.late rfl) (by decide +kernel)
    · rfl
  refine ⟨TimedAnswers.steady_poller, ⟨n, h, by omega⟩, ?_⟩
  rw [h.ends, hlast]
  decide +kernel

end SqlLoom
