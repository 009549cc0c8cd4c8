import SqlLoom.Dialect.Identifier
import SqlLoom.Error
import SqlLoom.Fragment
import SqlLoom.Value.Items
import SqlLoom.Value.Shown

/-!
# `SqlLoom.Dialect.Paging`: ordering and paging

A limit counts when it is an expression or a whole number that is not negative, an offset when it
is an expression or a positive whole number; anything else is ignored (`hasLimit`, `hasOffset`).
`paged` puts ordering and paging behind a query. Three families write LIMIT and OFFSET; Oracle
keeps the ordering inside the query and filters on row numbers around it.
-/

set_option autoImplicit false

namespace SqlLoom

/-- The value limits the number of rows. -/
def Value.hasLimit : Value → Bool
  | .expr _ => true
  | .int n => 0 ≤ n
  | _ => false

/-- The value skips rows. -/
def Value.hasOffset : Value → Bool
  | .expr _ => true
  | .int n => 0 < n
  | _ => false

namespace Dialect

/-- A limit larger than any table, for a database that has no OFFSET without LIMIT. -/
def greatestLimit : String := "18446744073709551615"

/-- The LIMIT and OFFSET clauses, empty where neither counts. -/
def limitClause (d : Dialect) (limit offset : Value) : String :=
  match d.backend, limit.hasLimit, offset.hasOffset with
  | _, true, true => "LIMIT " ++ limit.shown ++ " OFFSET " ++ offset.shown
  | _, true, false => "LIMIT " ++ limit.shown
  | .mysql, false, true => "LIMIT " ++ greatestLimit ++ " OFFSET " ++ offset.shown
  | _, false, true => "OFFSET " ++ offset.shown
  | _, false, false => ""

/-- The items among which a value that is no text is searched for the marks of an expression. -/
def markedItems? (v : Value) : Option (List Value) :=
  match v with
  | .list items | .tuple items => some items
  | .map entries => some (entries.map fun e => .text e.1)
  | v => if v.text?.isNone && v.fields?.isSome then some [] else none

/-- The marks that tell an expression, a qualified name or a quoted name from a plain one. -/
def nameMarks (d : Dialect) : List String := ["(", "[[", "\x7b\x7b", ".", d.quote]

/-- A name given by a value. Text is quoted as a name. Of other values only those with items can be
searched for the marks of an expression, and then stand in quotes as a whole. -/
def named (d : Dialect) (quoteName : String → String) (v : Value) : Except Error String :=
  match v.text?, markedItems? v with
  | some s, _ => .ok (quoteName s)
  | none, some items =>
    if items.any fun i => i.text?.any d.nameMarks.contains then .error .badType
    else .ok (d.quote ++ v.shown ++ d.quote)
  | none, none => .error .badType

/-- A column that is named by a value. -/
def columnNamed (d : Dialect) (v : Value) : Except Error String := d.named d.quoteColumn v

/-- One ordering key. An expression stands without direction. -/
def orderKeyFragment (d : Dialect) (key : OrderKey) : Except Error Fragment :=
  match key.expr with
  | .expr e => .ok (.ofExpression e)
  | v => do
    let name ← d.columnNamed v
    return .ofText (name ++ match key.direction with
      | .desc => " DESC"
      | .asc => "")

/-- The ORDER BY clause, empty where there are no keys. -/
def orderClause (d : Dialect) (keys : List OrderKey) : Except Error Fragment := do
  if keys.isEmpty then return .empty
  let parts ← keys.mapM d.orderKeyFragment
  return .ofText "ORDER BY " ++ .join ", " parts

/-- The conditions on row numbers that stand for an offset and a limit. -/
def rowFilters (limit offset : Value) : List String :=
  (if offset.hasOffset then ["ROWNUMID > " ++ offset.shown] else [])
    ++ (if limit.hasLimit then ["ROWNUM <= " ++ limit.shown] else [])

/-- A query with its ordering and paging. -/
def paged (d : Dialect) (sql : Fragment) (keys : List OrderKey) (limit offset : Value) :
    Except Error Fragment := do
  let order ← d.orderClause keys
  let sql := if order.isEmpty then sql ++ order else sql ++ .ofText " " ++ order
  if d.backend = .oracle then
    let filters := rowFilters limit offset
    if filters.isEmpty then return sql
    return .ofText "WITH USER_SQL AS (" ++ sql
      ++ .ofText ("), PAGINATION AS (SELECT USER_SQL.*, ROWNUM AS ROWNUMID FROM USER_SQL) "
        ++ "SELECT * FROM PAGINATION WHERE " ++ " AND ".intercalate filters)
  else
    let clause := d.limitClause limit offset
    return if clause.isEmpty then sql else sql ++ .ofText (" " ++ clause)

end Dialect

end SqlLoom
