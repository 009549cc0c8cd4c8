import SqlLoom.Fragment.Select
import SqlLoom.Proofs.Formula
import SqlLoom.Proofs.Texts

/-!
# `SqlLoom.Proofs.Logic`: conditions as formulas

A condition that is made of hashes, AND, OR, NOT and memberships, in any spelling, is a formula over
tests of columns (`Value.formula?`). A `Valuation` says for one row which tests hold of it: which
columns are NULL, which ones equal a value, and which ones are among the rows of a query. From it
comes the truth value of a membership test, whatever the length of its list (`Test.holds`): among no
values is nothing, so the test holds of no row, and the negated one of every row.
-/

set_option autoImplicit false

namespace SqlLoom

/-! ### Tests -/

/-- One test of a column or of several. -/
inductive Test where
  | null (column : String)
  | equal (column : String) (value : Value)
  /-- A column, or several against rows. -/
  | among (negated : Bool) (column : Value) (values : List Value)
  | rows (negated : Bool) (column : Value) (q : Query)

/-- Which of the single comparisons hold of a row. -/
structure Valuation where
  null : String → Bool
  equal : List Value → Value → Bool
  rows : List Value → Query → Bool

namespace Test

/-- The truth value of a test. -/
def holds (ρ : Valuation) : Test → Bool
  | .null column => ρ.null column
  | .equal column value => ρ.equal [.text column] value
  | .among negated column values => negated ^^ values.any (ρ.equal column.asColumns)
  | .rows negated column q => negated ^^ ρ.rows column.asColumns q

/-- The test holds of every row, so that there is nothing to write. -/
def isBlank : Test → Bool
  | .among true _ [] => true
  | _ => false

theorem holds_of_isBlank (ρ : Valuation) (test : Test) (h : test.isBlank = true) :
    test.holds ρ = true := by
  unfold isBlank at h
  split at h
  · rfl
  · cases h

/-- The test of a column of a hash. -/
def ofColumn (column : String) (value : Value) : Test :=
  match value with
  | .null => .null column
  | .query q => .rows false (.text column) q
  | v => if v.isCollection then .among false (.text column) v.members else .equal column v

/-- A hash never tests that a column is not among values, so its tests always say something. -/
theorem shown_ofColumn (column : String) (value : Value) :
    (Formula.test (ofColumn column value)).shown isBlank
      = some (.test (ofColumn column value)) := by
  have hblank : (ofColumn column value).isBlank = false := by
    unfold ofColumn
    split
    · rfl
    · rfl
    · split <;> rfl
  rw [Formula.shown_test, hblank]
  rfl

/-- The test of a membership. Without columns it is as if there were no values. -/
def ofMembership (negated : Bool) (column values : Value) : Test :=
  if column.asColumns.isEmpty then .among negated column []
  else match values with
    | .query q => .rows negated column q
    | v => .among negated column v.members

/-- What a test on its own compiles to. -/
def fragment (d : Dialect) : Test → Except Error Fragment
  | .null column => .ok (columnFragment d (.text column) ++ .ofText " IS NULL")
  | .equal column value =>
    .ok (columnFragment d (.text column) ++ .ofText "=" ++ boundFragment value)
  | .among negated column values => chunkMembership d negated column values
  | .rows negated column q => do return queryMembership d negated column (← q.fragment d)

/-- The texts that a test can write. -/
def texts : Test → List String
  | .null column => [column]
  | .equal column value => column :: value.expressionTexts
  | .among _ column values => column.asColumns.map Value.shown ++ values.flatMap memberTexts
  | .rows _ column q => column.asColumns.map Value.shown ++ q.texts

end Test

/-- How the tests of the parts of a list are put together to a test of the list. -/
def Junction.ofParts (negated : Bool) : Junction := if negated then .all else .any

/-- A membership in terms of memberships in the parts of the list. -/
theorem Test.holds_among_flatten (ρ : Valuation) (negated : Bool) (column : Value)
    (parts : List (List Value)) :
    (Junction.ofParts negated).holds (parts.map fun part => (among negated column part).holds ρ)
      = (among negated column parts.flatten).holds ρ := by
  rw [holds, List.any_flatten]
  cases negated with
  | false => simp [Junction.ofParts, Junction.holds, holds]
  | true => simp [Junction.ofParts, Junction.holds, holds, List.not_any_eq_all_not]

/-! ### Conditions -/

/-- The formula of a hash: its only test, or all of several. -/
def columnsFormula (columns : List (String × Value)) : Formula Test :=
  match columns with
  | [e] => .test (.ofColumn e.1 e.2)
  | _ => .group .all (columns.map fun e => .test (.ofColumn e.1 e.2))

mutual

/-- The formula of a condition that is made of hashes, AND and OR of at least one operand, NOT and
memberships. -/
def Value.formula? : Value → Option (Formula Test)
  | .null => some (.group .all [])
  | .map columns => some (columnsFormula columns)
  | .hash columns => some (columnsFormula columns)
  | .list items => shorthandFormula? items
  | .tuple items => shorthandFormula? items
  | .cond op operands => nodeFormula? op operands
  | _ => none

/-- The formula of a shorthand list. -/
def shorthandFormula? : List Value → Option (Formula Test)
  | [] => some (.group .all [])
  | head :: operands =>
    match head.headOperator with
    | .ok op => nodeFormula? op operands
    | .error _ => none

/-- The formula of an operator with its operands. -/
def nodeFormula? : Operator → List Value → Option (Formula Test)
  | .and, v :: rest => do return .group .all ((← v.formula?) :: (← operandFormulas? rest))
  | .or, v :: rest => do return .group .any ((← v.formula?) :: (← operandFormulas? rest))
  | .not, [operand] => operand.formula?.map .negation
  | .membership negated, [column, values] => some (.test (.ofMembership negated column values))
  | _, _ => none

/-- The formulas of operands. -/
def operandFormulas? : List Value → Option (List (Formula Test))
  | [] => some []
  | v :: rest => do return (← v.formula?) :: (← operandFormulas? rest)

end

theorem operandFormulas?_cons {v : Value} {rest : List Value} {Fs : List (Formula Test)}
    (h : operandFormulas? (v :: rest) = some Fs) :
    ∃ G Gs, v.formula? = some G ∧ operandFormulas? rest = some Gs ∧ Fs = G :: Gs := by
  rw [operandFormulas?] at h
  obtain ⟨G, hG, h⟩ := Option.bind_eq_some_iff.mp h
  obtain ⟨Gs, hGs, h⟩ := Option.bind_eq_some_iff.mp h
  cases h
  exact ⟨G, Gs, hG, hGs, rfl⟩

/-- AND and OR of some operands are the group of their formulas. -/
theorem nodeFormula?_junction (j : Junction) {v : Value} {rest : List Value} {F : Formula Test}
    (h : nodeFormula? j.operator (v :: rest) = some F) :
    ∃ G Gs, v.formula? = some G ∧ operandFormulas? rest = some Gs ∧ F = .group j (G :: Gs) := by
  cases j
  all_goals
    rw [Junction.operator, nodeFormula?] at h
    obtain ⟨G, hG, h⟩ := Option.bind_eq_some_iff.mp h
    obtain ⟨Gs, hGs, h⟩ := Option.bind_eq_some_iff.mp h
    cases h
    exact ⟨G, Gs, hG, hGs, rfl⟩

end SqlLoom
