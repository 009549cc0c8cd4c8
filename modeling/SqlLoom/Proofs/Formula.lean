import Mathlib.Data.List.ReduceOption
import SqlLoom.Value

/-!
# `SqlLoom.Proofs.Formula`: what conditions mean

A `Formula` is a condition up to its tests: all or any of several formulas, or the negation of one.
It has a truth value once its tests have one (`Formula.holds`), and a text once they have one
(`Formula.written`), with every part in parentheses.

Some tests say nothing, because they hold of every row. `Formula.shown` is what is left of a formula
without them: a group without the parts that are gone, nothing where all of them are, and nothing
where the negated part is. So a negation, which would hold of no row, is lost, and so is the part of
a disjunction that makes it hold of every row. Where neither occurs (`Formula.lossless`), what is
left means what the formula means (`Formula.holds_kept`).
-/

set_option autoImplicit false

namespace SqlLoom

/-- Whether all or any of several conditions have to hold. -/
inductive Junction where
  | all | any
  deriving DecidableEq, Repr

namespace Junction

def operator : Junction → Operator
  | .all => .and
  | .any => .or

/-- The word between the conditions. -/
def keyword (j : Junction) : String := j.operator.keyword

/-- The truth value of several in terms of those of each. -/
def holds : Junction → List Bool → Bool
  | .all, bs => bs.all id
  | .any, bs => bs.any id

/-- The conditions that say nothing may be left out, where the list tells which ones say something:
always if all have to hold, and if any is enough only where all of them say something or none. -/
def omits : Junction → List Bool → Bool
  | .all, _ => true
  | .any, shown => !shown.isEmpty && (shown.all id || !shown.any id)

theorem holds_singleton (j : Junction) (b : Bool) : j.holds [b] = b := by cases j <;> simp [holds]

end Junction

/-- A condition up to its tests. -/
inductive Formula (α : Type) where
  | test (a : α)
  | group (j : Junction) (parts : List (Formula α))
  | negation (part : Formula α)

namespace Formula

variable {α β : Type}

/-! ### Recursion -/

mutual

/-- Puts together what the tests give. -/
def fold (test : α → β) (group : Junction → List β → β) (negation : β → β) : Formula α → β
  | .test a => test a
  | .group j parts => group j (foldEach test group negation parts)
  | .negation part => negation (part.fold test group negation)

/-- Puts together what the tests of each formula give. -/
def foldEach (test : α → β) (group : Junction → List β → β) (negation : β → β) :
    List (Formula α) → List β
  | [] => []
  | part :: rest => part.fold test group negation :: foldEach test group negation rest

end

theorem foldEach_eq_map (test : α → β) (group : Junction → List β → β) (negation : β → β)
    (parts : List (Formula α)) :
    foldEach test group negation parts = parts.map (fold test group negation) := by
  induction parts with
  | nil => rfl
  | cons part rest ih => rw [foldEach, ih, List.map_cons]

/-! ### Truth, tests and text -/

/-- The truth value in terms of those of the tests. -/
def holds (p : α → Bool) : Formula α → Bool := fold p Junction.holds not

/-- The tests from left to right. -/
def leaves : Formula α → List α := fold (fun a => [a]) (fun _ => List.flatten) id

/-- The formula with other tests. -/
def map (f : α → β) : Formula α → Formula β := fold (fun a => .test (f a)) .group .negation

/-- The text of several conditions, each in parentheses. -/
def writtenGroup (j : Junction) (texts : List String) : String :=
  if texts.isEmpty then "" else "(" ++ (") " ++ j.keyword ++ " (").intercalate texts ++ ")"

/-- The text of a formula over texts. -/
def written : Formula String → String := fold id writtenGroup fun s => "NOT (" ++ s ++ ")"

@[simp]
theorem holds_test (p : α → Bool) (a : α) : (Formula.test a).holds p = p a := rfl

@[simp]
theorem holds_group (p : α → Bool) (j : Junction) (parts : List (Formula α)) :
    (group j parts).holds p = j.holds (parts.map (holds p)) := by
  rw [holds, fold, foldEach_eq_map]

@[simp]
theorem holds_negation (p : α → Bool) (part : Formula α) :
    (negation part).holds p = !part.holds p := rfl

@[simp]
theorem leaves_test (a : α) : (Formula.test a).leaves = [a] := rfl

@[simp]
theorem leaves_group (j : Junction) (parts : List (Formula α)) :
    (group j parts).leaves = parts.flatMap leaves := by
  rw [leaves, fold, foldEach_eq_map, List.flatMap]

@[simp]
theorem leaves_negation (part : Formula α) : (negation part).leaves = part.leaves := rfl

@[simp]
theorem map_test (f : α → β) (a : α) : (Formula.test a).map f = .test (f a) := rfl

@[simp]
theorem map_group (f : α → β) (j : Junction) (parts : List (Formula α)) :
    (group j parts).map f = group j (parts.map (map f)) := by
  rw [map, fold, foldEach_eq_map]

@[simp]
theorem map_negation (f : α → β) (part : Formula α) :
    (negation part).map f = negation (part.map f) := rfl

@[simp]
theorem written_test (s : String) : (Formula.test s).written = s := rfl

@[simp]
theorem written_group (j : Junction) (parts : List (Formula String)) :
    (group j parts).written = writtenGroup j (parts.map written) := by
  rw [written, fold, foldEach_eq_map]

@[simp]
theorem written_negation (part : Formula String) :
    (negation part).written = "NOT (" ++ part.written ++ ")" := rfl

/-! ### Groups of one -/

/-- A group. One condition on its own is the same under both junctions, and stands as all. -/
def joined (j : Junction) (parts : List (Formula α)) : Formula α :=
  group (if parts.length = 1 then .all else j) parts

theorem holds_joined (p : α → Bool) (j : Junction) (parts : List (Formula α)) :
    (joined j parts).holds p = j.holds (parts.map (holds p)) := by
  rw [joined, holds_group]
  split
  · rename_i hone
    obtain ⟨part, rfl⟩ := List.length_eq_one_iff.mp hone
    rw [List.map_singleton, Junction.holds_singleton, Junction.holds_singleton]
  · rfl

theorem written_joined (j : Junction) (parts : List (Formula String)) :
    (joined j parts).written = writtenGroup j (parts.map written) := by
  rw [joined, written_group]
  split
  · rename_i hone
    obtain ⟨part, rfl⟩ := List.length_eq_one_iff.mp hone
    -- Between the members of a group of one there is no word.
    rfl
  · rfl

theorem map_joined (f : α → β) (j : Junction) (parts : List (Formula α)) :
    (joined j parts).map f = joined j (parts.map (map f)) := by
  rw [joined, joined, map_group, List.length_map]

/-! ### Leaving out what says nothing -/

/-- A group of what is left of its parts. -/
def shownGroup (j : Junction) (parts : List (Option (Formula α))) : Option (Formula α) :=
  if parts.reduceOption.isEmpty then none else some (.group j parts.reduceOption)

/-- What is left without the tests that say nothing. -/
def shown (blank : α → Bool) : Formula α → Option (Formula α) :=
  fold (fun a => if blank a then none else some (.test a)) shownGroup (Option.map .negation)

/-- What is left, which holds always if it is nothing. -/
def kept (blank : α → Bool) (F : Formula α) : Formula α := (F.shown blank).getD (.group .all [])

/-- Something is left. -/
def isShown (blank : α → Bool) (F : Formula α) : Bool := (F.shown blank).isSome

mutual

/-- What says nothing is neither negated nor, beside what says something, enough for a group. -/
def lossless (blank : α → Bool) : Formula α → Bool
  | .test _ => true
  | .group j parts => j.omits (parts.map (isShown blank)) && losslessEach blank parts
  | .negation part => part.isShown blank && part.lossless blank

def losslessEach (blank : α → Bool) : List (Formula α) → Bool
  | [] => true
  | part :: rest => part.lossless blank && losslessEach blank rest

end

variable {blank : α → Bool} {p : α → Bool}

theorem shown_test (a : α) :
    (Formula.test a).shown blank = if blank a then none else some (.test a) := rfl

theorem shown_group (j : Junction) (parts : List (Formula α)) :
    (group j parts).shown blank = shownGroup j (parts.map (shown blank)) := by
  rw [shown, fold, foldEach_eq_map]

theorem shown_negation (part : Formula α) :
    (negation part).shown blank = (part.shown blank).map .negation := rfl

/-- A group of tests that say something is left as it is. -/
theorem shownGroup_tests (j : Junction) (f : β → α) {bs : List β} (hne : bs ≠ [])
    (h : ∀ b ∈ bs, blank (f b) = false) :
    shownGroup j (bs.map fun b => (Formula.test (f b)).shown blank)
      = some (group j (bs.map fun b => .test (f b))) := by
  have hshown : (bs.map fun b => (Formula.test (f b)).shown blank).reduceOption
      = bs.map fun b => .test (f b) := by
    rw [List.reduceOption, List.filterMap_map, ← List.filterMap_eq_map]
    apply List.filterMap_congr
    intro b hb
    show (Formula.test (f b)).shown blank = some (.test (f b))
    rw [shown_test, h b hb]
    rfl
  rw [shownGroup, hshown, if_neg (by simpa using hne)]

theorem kept_of_shown {F G : Formula α} (h : F.shown blank = some G) : F.kept blank = G := by
  rw [kept, h]
  rfl

theorem isShown_eq_true_iff (F : Formula α) :
    F.isShown blank = true ↔ F.shown blank = some (F.kept blank) := by
  rw [isShown, kept]
  cases F.shown blank <;> simp

theorem isShown_eq_false_iff (F : Formula α) : F.isShown blank = false ↔ F.shown blank = none := by
  rw [isShown, Option.isSome_eq_false_iff, Option.isNone_iff_eq_none]

/-- Where nothing is left, nothing is asked. -/
theorem holds_kept_of_not_isShown {F : Formula α} (h : F.isShown blank = false) :
    (F.kept blank).holds p = true := by
  rw [kept, (isShown_eq_false_iff F).mp h]
  rfl

/-- All that is left of some formulas holds exactly where all of them do, each without what says
nothing. -/
theorem all_holds_shown (parts : List (Formula α)) :
    ((parts.map (shown blank)).reduceOption.map (holds p)).all id
      = (parts.map fun part => (part.kept blank).holds p).all id := by
  induction parts with
  | nil => rfl
  | cons part rest ih =>
      rw [List.map_cons, List.map_cons, List.all_cons, ← ih]
      cases hshown : part.isShown blank with
      | true =>
          rw [(isShown_eq_true_iff part).mp hshown, List.reduceOption_cons_of_some, List.map_cons,
            List.all_cons]
      | false =>
          rw [(isShown_eq_false_iff part).mp hshown, List.reduceOption_cons_of_none,
            holds_kept_of_not_isShown hshown]
          rfl

theorem reduceOption_of_isShown {parts : List (Formula α)}
    (h : ∀ part ∈ parts, part.isShown blank = true) :
    (parts.map (shown blank)).reduceOption = parts.map (kept blank) := by
  rw [List.reduceOption, List.filterMap_map, ← List.filterMap_eq_map]
  apply List.filterMap_congr
  intro part hpart
  exact (isShown_eq_true_iff part).mp (h part hpart)

theorem reduceOption_of_not_isShown {parts : List (Formula α)}
    (h : ∀ part ∈ parts, part.isShown blank = false) :
    (parts.map (shown blank)).reduceOption = [] := by
  rw [List.reduceOption, List.filterMap_map, List.filterMap_eq_nil_iff]
  intro part hpart
  exact (isShown_eq_false_iff part).mp (h part hpart)

theorem kept_group (j : Junction) (parts : List (Formula α)) :
    (group j parts).kept blank
      = if (parts.map (shown blank)).reduceOption.isEmpty then .group .all []
        else .group j (parts.map (shown blank)).reduceOption := by
  rw [kept, shown_group, shownGroup]
  split <;> rfl

/-- The truth value of what is left of a group, where leaving out is right. -/
theorem holds_kept_group (j : Junction) {parts : List (Formula α)}
    (h : j.omits (parts.map (isShown blank)) = true) :
    ((group j parts).kept blank).holds p
      = j.holds (parts.map fun part => (part.kept blank).holds p) := by
  rw [kept_group]
  cases j with
  | all =>
      -- A part that says nothing holds, so all of the parts hold where all of the others do.
      rw [Junction.holds, ← all_holds_shown]
      split
      · rename_i hempty
        rw [List.isEmpty_iff.mp hempty]
        rfl
      · exact holds_group p .all _
  | any =>
      -- A part that says nothing would be enough, so there must be none, or nothing else.
      simp only [Junction.omits, Bool.and_eq_true, Bool.or_eq_true] at h
      obtain ⟨hne, hall | hnone⟩ := h
      all_goals have hparts : parts ≠ [] := by simpa using hne
      · have hshown : ∀ part ∈ parts, part.isShown blank = true := by
          intro part hpart
          exact List.all_eq_true.mp hall _ (List.mem_map_of_mem hpart)
        rw [reduceOption_of_isShown hshown, if_neg (by simpa using hparts), holds_group,
          List.map_map]
        rfl
      · have hblank : ∀ part ∈ parts, part.isShown blank = false := by
          intro part hpart
          rw [Bool.not_eq_true', List.any_eq_false] at hnone
          exact (Bool.not_eq_true _).mp (hnone _ (List.mem_map_of_mem hpart))
        rw [reduceOption_of_not_isShown hblank]
        obtain ⟨part, rest, rfl⟩ := List.exists_cons_of_ne_nil hparts
        rw [List.map_cons, holds_kept_of_not_isShown (hblank part List.mem_cons_self)]
        rfl

mutual

/-- Where the tests that say nothing hold, what is left of a formula means what the formula means,
if nothing is lost. -/
theorem holds_kept (hblank : ∀ a, blank a = true → p a = true) :
    ∀ F : Formula α, F.lossless blank = true → (F.kept blank).holds p = F.holds p
  | .test a, _ => by
      rw [kept, shown_test]
      split
      · rename_i ha
        exact (hblank a ha).symm
      · rfl
  | .group j parts, h => by
      rw [lossless, Bool.and_eq_true] at h
      rw [holds_kept_group j h.1, holds_group]
      exact congrArg _ (List.map_congr_left (holds_kept_each hblank parts h.2))
  | .negation part, h => by
      rw [lossless, Bool.and_eq_true] at h
      -- The part is not left out, so there is something to negate.
      obtain ⟨G, hG⟩ := Option.isSome_iff_exists.mp h.1
      have hpart := holds_kept hblank part h.2
      rw [kept_of_shown hG] at hpart
      have hnegation : (negation part).shown blank = some (.negation G) := by
        rw [shown_negation, hG]
        rfl
      rw [kept_of_shown hnegation, holds_negation, holds_negation, hpart]

theorem holds_kept_each (hblank : ∀ a, blank a = true → p a = true) :
    ∀ parts : List (Formula α), losslessEach blank parts = true →
      ∀ part ∈ parts, (part.kept blank).holds p = part.holds p
  | [], _ => fun _ hpart => absurd hpart List.not_mem_nil
  | part :: rest, h => by
      rw [losslessEach, Bool.and_eq_true] at h
      exact List.forall_mem_cons.mpr
        ⟨holds_kept hblank part h.1, holds_kept_each hblank rest h.2⟩

end

end Formula

end SqlLoom
