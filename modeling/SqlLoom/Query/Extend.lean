import SqlLoom.Query.Fields

/-!
# `SqlLoom.Query.Extend`: queries clause by clause

Each function gives a query with one clause set or extended; the query it is given stays as it is.
Clauses are given in any short spelling. What the compiler reads leniently (whether rows are
distinct, the option, the limit and the offset) is kept as given.
-/

set_option autoImplicit false

namespace SqlLoom.Query

/-- The parameters of a query with more taken over. Whatever counts as false adds none. -/
def mergedParams (q : Query) (params : Value) : Except Error (Entries Value) :=
  if params.isTruthy then
    match params with
    | .map entries => .ok (Entries.merge q.params entries)
    | _ => .error .badType
  else .ok q.params

/-- Sets the select list and the option. -/
def select (q : Query) (columns option : Value) : Except Error Query := do
  return { q with items := ← columns.toSelectItems, option := option }

/-- Adds to the select list. -/
def addSelect (q : Query) (columns : Value) : Except Error Query := do
  return { q with items := q.items ++ (← columns.toSelectItems) }

/-- Sets whether rows are distinct. -/
def setDistinct (q : Query) (distinct : Value) : Query := { q with distinct := distinct }

/-- Sets the sources. -/
def setSources (q : Query) (tables : Value) : Except Error Query := do
  return { q with sources := ← tables.toTableRefs }

/-- Adds a join with its condition and its parameters. -/
def addJoin (q : Query) (kind table on params : Value) : Except Error Query := do
  let join ← Join.ofFields [("type", kind), ("table", table), ("on", on)]
  return { q with joins := q.joins ++ [join], params := ← q.mergedParams params }

/-- Sets the condition on rows. -/
def setFilter (q : Query) (condition params : Value) : Except Error Query := do
  return { q with filter := ← condition.toCondition, params := ← q.mergedParams params }

/-- Combines the condition on rows with another one. -/
def combineFilter (q : Query) (op : Operator) (condition params : Value) : Except Error Query := do
  let added ← condition.toCondition
  return { q with filter := combineConditions op q.filter added, params := ← q.mergedParams params }

/-- Sets the grouping columns. -/
def setGrouping (q : Query) (columns : Value) : Except Error Query := do
  return { q with grouping := ← columns.toColumns }

/-- Sets the condition on groups. -/
def setGroupFilter (q : Query) (condition params : Value) : Except Error Query := do
  return { q with groupFilter := ← condition.toCondition, params := ← q.mergedParams params }

/-- Sets the ordering. -/
def setOrdering (q : Query) (columns : Value) : Except Error Query := do
  return { q with ordering := ← columns.toOrderKeys }

/-- Sets the limit. -/
def setLimit (q : Query) (limit : Value) : Query := { q with limit := limit }

/-- Sets the offset. -/
def setOffset (q : Query) (offset : Value) : Query := { q with offset := offset }

/-- Unites the query with another one. -/
def addBranch (q : Query) (query all : Value) : Except Error Query := do
  return { q with branches := q.branches ++ [← UnionBranch.make query all] }

/-- Takes over named parameters. -/
def addParams (q : Query) (params : Value) : Except Error Query := do
  return { q with params := ← q.mergedParams params }

end SqlLoom.Query
