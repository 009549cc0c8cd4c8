import Mathlib.Tactic.Common
import SqlLoom.Proofs.Formula

/-!
# `SqlLoom.Proofs.Membership`: what membership tests say

A `MemberTest` is a membership test as it is written: a column, or a row of columns, is compared
with one value or stands before a list of values. In SQL a comparison with NULL is neither true nor
false, so that its truth value is a `Ternary`, and a list is tested as all of its comparisons joined
by OR (`MemberTest.truth`).

`truth_split` is why a list may be tested in parts: the tests of the parts, joined by OR, or by AND
where they are negated, say what the test of the whole list says. This holds of three truth values
as it does of two.
-/

set_option autoImplicit false

namespace SqlLoom

/-! ### Three truth values -/

/-- A truth value of SQL. -/
inductive Ternary where
  | yes | no | unknown
  deriving DecidableEq, Repr

namespace Ternary

/-- The disjunction: one that is true is enough. -/
def any (ts : List Ternary) : Ternary :=
  if yes ∈ ts then yes else if unknown ∈ ts then unknown else no

/-- The conjunction: one that is false is enough to fail. -/
def all (ts : List Ternary) : Ternary :=
  if no ∈ ts then no else if unknown ∈ ts then unknown else yes

/-- The negation. -/
def not : Ternary → Ternary
  | yes => no
  | no => yes
  | unknown => unknown

/-- The negation, where it is asked for. -/
def negateIf (negated : Bool) (t : Ternary) : Ternary := if negated then t.not else t

theorem any_eq_yes_iff (ts : List Ternary) : any ts = yes ↔ yes ∈ ts := by
  rw [any]
  split
  · simp_all
  · split <;> simp_all

theorem any_eq_unknown_iff (ts : List Ternary) :
    any ts = unknown ↔ yes ∉ ts ∧ unknown ∈ ts := by
  rw [any]
  split
  · simp_all
  · split <;> simp_all

@[simp]
theorem any_singleton (t : Ternary) : any [t] = t := by cases t <;> rfl

/-- A disjunction of disjunctions is one of all their members. -/
theorem any_map_any (parts : List (List Ternary)) : any (parts.map any) = any parts.flatten := by
  have hyes : yes ∈ parts.map any ↔ yes ∈ parts.flatten := by
    simp [any_eq_yes_iff]
  rw [any, any]
  by_cases hany : yes ∈ parts.flatten
  · rw [if_pos (hyes.mpr hany), if_pos hany]
  · -- No part has a true member, so a part is unknown exactly if it has an unknown member.
    have hunknown : unknown ∈ parts.map any ↔ unknown ∈ parts.flatten := by
      simp only [List.mem_map, List.mem_flatten, any_eq_unknown_iff]
      constructor
      · rintro ⟨part, hpart, -, hmem⟩
        exact ⟨part, hpart, hmem⟩
      · rintro ⟨part, hpart, hmem⟩
        exact ⟨part, hpart, fun h => hany (List.mem_flatten.mpr ⟨part, hpart, h⟩), hmem⟩
    rw [if_neg (mt hyes.mp hany), if_neg hany]
    simp only [hunknown]

/-- The negation of a disjunction is the conjunction of the negations. -/
theorem not_any (ts : List Ternary) : (any ts).not = all (ts.map not) := by
  have hmem : ∀ t : Ternary, t.not ∈ ts.map not ↔ t ∈ ts := by
    have hinjective : Function.Injective not := by
      intro t u h
      cases t <;> cases u <;> first | rfl | cases h
    intro t
    exact List.mem_map_of_injective hinjective
  have hno : no ∈ ts.map not ↔ yes ∈ ts := hmem yes
  have hunknown : unknown ∈ ts.map not ↔ unknown ∈ ts := hmem unknown
  simp only [any, all, hno, hunknown]
  split
  · rfl
  · split <;> rfl

end Ternary

/-- The truth value of several conditions in terms of those of each. -/
def Junction.truth : Junction → List Ternary → Ternary
  | .all => Ternary.all
  | .any => Ternary.any

/-- The equality of two values. There is none with NULL. -/
def Ternary.equal {V : Type} [BEq V] : Option V → Option V → Ternary
  | some x, some y => if x == y then yes else no
  | _, _ => unknown

/-! ### Tests as they are written -/

/-- A side of a comparison: one expression or a row of several. -/
inductive Side (α : Type) where
  | one (a : α)
  | row (as : List α)

/-- The text of a side. -/
def Side.written : Side String → String
  | .one s => s
  | .row ss => "(" ++ ", ".intercalate ss ++ ")"

/-- A membership test as it is written. -/
inductive MemberTest where
  | comparison (negated : Bool) (left right : Side String)
  | list (negated : Bool) (left : Side String) (members : List (Side String))

namespace MemberTest

/-- The test of a side among others. One column is compared with a single value. -/
def ofMembers (negated : Bool) (left : Side String) (members : List (Side String)) : MemberTest :=
  match left, members with
  | .one column, [member] => .comparison negated (.one column) member
  | left, members => .list negated left members

/-- The text of a test. -/
def written : MemberTest → String
  | .comparison negated left right =>
    left.written ++ (if negated then "<>" else "=") ++ right.written
  | .list negated left members =>
    left.written ++ (if negated then " NOT IN " else " IN ")
      ++ ("(" ++ ", ".intercalate (members.map Side.written) ++ ")")

/-- The junction of the tests of parts. -/
def junction (negated : Bool) : Junction := if negated then .all else .any

variable {V : Type} [BEq V] (value : String → Option V)

/-- The equality of two sides, where `value` is the value of each expression or NULL. Rows are equal
if all of their entries are. -/
def same : Side String → Side String → Ternary
  | .one a, .one b => .equal (value a) (value b)
  | .row as, .row bs => .all (List.zipWith (fun a b => .equal (value a) (value b)) as bs)
  | _, _ => .unknown

/-- The truth value of a test. -/
def truth : MemberTest → Ternary
  | .comparison negated left right => (same value left right).negateIf negated
  | .list negated left members => (Ternary.any (members.map (same value left))).negateIf negated

/-- Whichever way a test is written, all members are compared. -/
theorem truth_ofMembers (negated : Bool) (left : Side String) (members : List (Side String)) :
    (ofMembers negated left members).truth value
      = (Ternary.any (members.map (same value left))).negateIf negated := by
  fun_cases ofMembers negated left members with
  | case1 column member => simp [truth]
  | case2 => rfl

/-- The tests of parts of a list together say what the test of the list says. -/
theorem truth_split (negated : Bool) (left : Side String) (parts : List (List (Side String))) :
    (junction negated).truth ((parts.map (ofMembers negated left)).map (truth value))
      = (ofMembers negated left parts.flatten).truth value := by
  rw [truth_ofMembers, List.map_flatten, ← Ternary.any_map_any, List.map_map, List.map_map]
  have hparts : ∀ part : List (Side String), (ofMembers negated left part).truth value
      = (Ternary.any (part.map (same value left))).negateIf negated :=
    truth_ofMembers value negated left
  cases negated with
  | false =>
      show Ternary.any _ = Ternary.any _
      congr 1
      exact List.map_congr_left fun part _ => hparts part
  | true =>
      show Ternary.all _ = (Ternary.any _).not
      rw [Ternary.not_any, List.map_map]
      congr 1
      exact List.map_congr_left fun part _ => hparts part

end MemberTest

end SqlLoom
