import SqlLoom.Proofs.Shorthand

/-!
# `SqlLoom.Proofs.Hash`: a hash is short for other conditions

A hash of several columns stands for the AND of a hash of each, and a hash of one column with values
or a sub-query for a membership test. The two sides are put together in different ways: a hash never
leaves out a test and does not put a single one in parentheses, whereas AND leaves out what is empty
and puts even a single operand in parentheses. They agree because no test of a column is empty
(`columnTest_shown`), also where a list of values is split.

* `hash_eq_and`, `hash_eq_membership`: the two sides have one fragment, or fail with one error.
* `hash_desugars`: so they have the same text and the same table afterwards, from every table.
* `hash_not_always_desugars`: a ceiling below zero leaves nothing of a list, and then the hash has
  an empty test.
-/

set_option autoImplicit false

namespace SqlLoom

variable {d : Dialect} {subqueries : Bool}

/-- A hash of several columns compiles as the AND of a hash of each. -/
theorem hash_eq_and (hceiling : d.CountsValues) (subqueries : Bool)
    {columns : List (String × Value)} (hlength : 2 ≤ columns.length) :
    (Value.hash columns).conditionFragment d subqueries
      = (Value.cond .and (columns.map fun e => .hash [e])).conditionFragment d subqueries := by
  rw [columnTests_of_columns? rfl, Value.conditionFragment, nodeFragment_junction d subqueries
    (.inl rfl), operandFragments_columns]
  cases htests : columnTests d subqueries columns with
  | error e => rfl
  | ok tests =>
      obtain ⟨hcount, hshown⟩ := columnTests_shown hceiling subqueries columns tests htests
      show Except.ok (conjunction tests) = Except.ok (Fragment.grouped "AND" tests)
      rw [conjunction_eq_grouped (hcount ▸ hlength) hshown]

/-- A hash of one column compiles as the membership test, if its value is a collection or a
sub-query. -/
theorem hash_eq_membership (d : Dialect) (subqueries : Bool) (column : String) {value : Value}
    (hvalue : value.isCollection = true ∨ ∃ q, value = .query q) :
    (Value.hash [(column, value)]).conditionFragment d subqueries
      = (Value.cond (.membership false) [.text column, value]).conditionFragment d subqueries := by
  rw [conditionFragment_hash_singleton]
  rcases hvalue with hcollection | ⟨q, rfl⟩
  · cases value with
    | list items | tuple items | stream items => rfl
    | _ => cases hcollection
  · cases subqueries <;> rfl

/-- Over every table a hash of several columns compiles to the text, and to the table afterwards, of
the AND of a hash of each, if the ceiling is not negative; and a hash of one column with values or a
sub-query to those of the membership test. The two sides fail together, with one error. -/
theorem hash_desugars (d : Dialect) (subqueries : Bool) (t : ParamTable) :
    (d.CountsValues → ∀ columns : List (String × Value), 2 ≤ columns.length →
      (Value.hash columns).compiled d subqueries t
        = (Value.cond .and (columns.map fun e => .hash [e])).compiled d subqueries t) ∧
    ∀ (column : String) (value : Value),
      (value.isCollection = true ∨ ∃ q, value = .query q) →
      (Value.hash [(column, value)]).compiled d subqueries t
        = (Value.cond (.membership false) [.text column, value]).compiled d subqueries t := by
  constructor
  · intro hceiling columns hlength
    rw [Value.compiled, Value.compiled, hash_eq_and hceiling subqueries hlength]
  · intro column value hvalue
    rw [Value.compiled, Value.compiled, hash_eq_membership d subqueries column hvalue]

/-- Three values, one of them NULL, under a ceiling of two, and a column that is NULL. -/
theorem hash_desugars_three :
    let d : Dialect := { Dialect.standard .ansi with maxInList? := some 2 }
    let columns := [("a", Value.list [.int 1, .null, .int 3]), ("b", .null)]
    let t := ParamTable.ofEntries ":qp" []
    d.CountsValues ∧
      ((Value.hash columns).compiled d true t).map Prod.fst
        = .ok "((\"a\" IN (:qp0, NULL)) OR (\"a\"=:qp1)) AND (\"b\" IS NULL)" ∧
      (Value.hash columns).compiled d true t
        = (Value.cond .and (columns.map fun e => .hash [e])).compiled d true t := by
  intro d columns t
  have hceiling : d.CountsValues := by
    rintro _ ⟨⟩
    decide
  obtain ⟨hseveral, -⟩ := hash_desugars d true t
  exact ⟨hceiling, by decide, hseveral hceiling columns (by decide)⟩

/-- Under a ceiling below zero a list is cut into no chunks. The hash has an empty test for it,
which AND leaves out. -/
theorem hash_not_always_desugars :
    let d : Dialect := { Dialect.standard .ansi with maxInList? := some (-1) }
    let columns := [("a", Value.list [.int 1]), ("b", .int 2)]
    let t := ParamTable.ofEntries ":qp" []
    ((Value.hash columns).compiled d true t).map Prod.fst = .ok "() AND (\"b\"=:qp0)" ∧
      ((Value.cond .and (columns.map fun e => .hash [e])).compiled d true t).map Prod.fst
        = .ok "(\"b\"=:qp0)" ∧
      (Value.hash columns).compiled d true t
        ≠ (Value.cond .and (columns.map fun e => .hash [e])).compiled d true t := by
  intro d columns t
  have hhash : ((Value.hash columns).compiled d true t).map Prod.fst
      = .ok "() AND (\"b\"=:qp0)" := by decide
  have hand : ((Value.cond .and (columns.map fun e => .hash [e])).compiled d true t).map Prod.fst
      = .ok "(\"b\"=:qp0)" := by decide
  refine ⟨hhash, hand, fun heq => ?_⟩
  rw [heq, hand] at hhash
  exact absurd (Except.ok.inj hhash) (by decide)

end SqlLoom
