import SqlLoom.Condition
import SqlLoom.Dialect.Paging
import SqlLoom.Fragment.Membership
import SqlLoom.Fragment.Pattern
import SqlLoom.Text.Trailing

/-!
# `SqlLoom.Fragment.Select`: conditions and queries

`Value.conditionFragment` compiles a condition in any spelling and `Query.fragment` a query. A
condition may hold sub-queries and a query holds conditions, so the two are one recursion over the
description; every call is on a part of it.

The clauses of a query are compiled in the order in which they stand, so generated names count up
from left to right. A condition without text leaves its keyword out.

A shorthand list is read as a whole before any part is compiled (`nodeOfShorthand`): a fault of its
spelling is reported before a fault of its meaning.
-/

set_option autoImplicit false

namespace SqlLoom

/-! ### Items and sources by name -/

/-- An error of compilation. -/
def buildError {α : Type} (cause : BuildError) : Except Error α := .error (.build cause)

/-- The text of a name that may be an expression. -/
def quoteUnlessExpression (quote : String → String) (name : String) : String :=
  if name.toList.contains '(' then name else quote name

/-- The name and the alias of a select item that ends in one. -/
def splitAlias (s : String) : Option (String × String) :=
  (Text.splitLine Text.aliasTail s.toList).map fun p => (String.ofList p.1, String.ofList p.2)

/-- The name and the alias of a source that ends in one. -/
def splitSourceAlias (s : String) : Option (String × String) :=
  (Text.splitLine Text.sourceAliasTail s.toList).map fun p => (String.ofList p.1, String.ofList p.2)

/-- A select item given by name. -/
def namedItem (d : Dialect) (name : String) (alias? : Option String) : String :=
  match alias? with
  | some alias_ => quoteUnlessExpression d.quoteColumn name ++ " AS " ++ d.quoteColumn alias_
  | none =>
    if name.toList.contains '(' then name
    else match splitAlias name with
      | some (column, alias_) => d.quoteColumn column ++ " AS " ++ d.quoteColumn alias_
      | none => d.quoteColumn name

/-- A source given by name. -/
def namedSource (d : Dialect) (name : String) (alias? : Option String) : String :=
  match alias? with
  | some alias_ => quoteUnlessExpression d.quoteTable name ++ " " ++ d.quoteTable alias_
  | none =>
    if name.toList.contains '(' then name
    else match splitSourceAlias name with
      | some (table, alias_) => d.quoteTable table ++ " " ++ d.quoteTable alias_
      | none => d.quoteTable name

/-- A grouping column. -/
def groupingFragment (d : Dialect) (v : Value) : Except Error Fragment :=
  match v with
  | .expr e => .ok (.ofExpression e)
  | v => do return .ofText (← d.columnNamed v)

/-- The GROUP BY clause, without text where there are no columns. -/
def groupByClause (d : Dialect) (columns : List Value) : Except Error Fragment := do
  if columns.isEmpty then return .empty
  return .ofText "GROUP BY " ++ .join ", " (← columns.mapM (groupingFragment d))

/-- The words before the select list. -/
def selectHead (distinct option : Value) : String :=
  (if distinct.isTruthy then "SELECT DISTINCT" else "SELECT")
    ++ match option with
      | .null => ""
      | v => " " ++ v.shown

/-- The SELECT clause with its compiled items; no items stand for all columns. -/
def selectClause (distinct option : Value) (items : List Fragment) : Fragment :=
  .ofText (selectHead distinct option ++ " ")
    ++ if items.isEmpty then .ofText "*" else .join ", " items

/-- The FROM clause with its compiled sources. -/
def fromClause (sources : List Fragment) : Fragment :=
  if sources.isEmpty then .empty else .ofText "FROM " ++ .join ", " sources

/-- The tests of a hash, joined by AND. A single test stands without parentheses. -/
def conjunction : List Fragment → Fragment
  | [] => .empty
  | [one] => one
  | tests => (Fragment.join ") AND (" tests).parens

/-- The negation of a condition that says something. -/
def negation (f : Fragment) : Fragment := if f.isEmpty then f else .ofText "NOT " ++ f.parens

/-- Columns against the rows of a sub-query. -/
def queryMembership (d : Dialect) (negated : Bool) (column : Value) (rows : Fragment) : Fragment :=
  let names := match column with
    | .list columns | .tuple columns => (Fragment.join ", " (columns.map (columnFragment d))).parens
    | one => columnFragment d one
  names.afterStepsOf (membershipWords negated ++ rows.parens)

/-- A column between two bounds, all of which must be there. -/
def betweenFragment (d : Dialect) (negated : Bool) : List Value → Except Error Fragment
  | [column, low, high] =>
    let words := (Operator.between negated).keyword
    if column.isNull || low.isNull || high.isNull then buildError (.threeOperands words)
    else .ok (columnFragment d column ++ .ofText (" " ++ words ++ " ") ++ boundFragment low
      ++ .ofText " AND " ++ boundFragment high)
  | _ => buildError (.threeOperands (Operator.between negated).keyword)

/-- A column against patterns, with the escape operand if there is one. -/
def patternTest (d : Dialect) (any negated caseless : Bool) : List Value → Except Error Fragment
  | column :: values :: rest =>
    let failure := buildError (.twoOperands (Operator.like any negated caseless).keyword)
    if column.isNull || values.isNull then failure
    else match rest with
      | [] => likeFragment d any negated caseless column values .null
      | [escape] => likeFragment d any negated caseless column values escape
      | _ => failure
  | _ => buildError (.twoOperands (Operator.like any negated caseless).keyword)

/-! ### The recursion -/

mutual

/-- The fragment of a condition in any spelling, without text where the condition says nothing.
`subqueries` tells whether sub-queries can be compiled. -/
def Value.conditionFragment (d : Dialect) (subqueries : Bool) : Value → Except Error Fragment
  | .null => .ok .empty
  | .expr e => .ok (.ofExpression e)
  | .map columns => do return conjunction (← columnTests d subqueries columns)
  | .hash columns => do return conjunction (← columnTests d subqueries columns)
  | .list items => shorthandFragment d subqueries items
  | .tuple items => shorthandFragment d subqueries items
  | .cond op operands => nodeFragment d subqueries op operands
  | v =>
    match v.text? with
    | some s => .ok (.ofText s)
    | none => buildError (.conditionNode v.kindName)

/-- The fragment of a shorthand list. -/
def shorthandFragment (d : Dialect) (subqueries : Bool) : List Value → Except Error Fragment
  | [] => .ok .empty
  | head :: operands => do
    let _ ← nodeOfShorthand (head :: operands)
    nodeFragment d subqueries (← head.headOperator) operands

/-- The test of each column of a hash. -/
def columnTests (d : Dialect) (subqueries : Bool) :
    List (String × Value) → Except Error (List Fragment)
  | [] => .ok []
  | (column, value) :: rest => do
    let name := columnFragment d (.text column)
    let test ← match value with
      | .null => pure (name ++ .ofText " IS NULL")
      | .query q =>
        if subqueries then do pure (queryMembership d false (.text column) (← q.fragment d))
        else buildError .noSubqueries
      | v =>
        if v.isCollection then membershipFragment d false (.text column) v.members
        else pure (name ++ .ofText "=" ++ boundFragment v)
    return test :: (← columnTests d subqueries rest)

/-- The fragment of an operator with its operands. -/
def nodeFragment (d : Dialect) (subqueries : Bool) : Operator → List Value → Except Error Fragment
  | .and, [] => .ok .empty
  | .or, [] => .ok .empty
  | .and, v :: rest => do
    let first ← v.conditionFragment d subqueries
    return .grouped "AND" (first :: (← operandFragments d subqueries rest))
  | .or, v :: rest => do
    let first ← v.conditionFragment d subqueries
    return .grouped "OR" (first :: (← operandFragments d subqueries rest))
  | .not, [operand] => do return negation (← operand.conditionFragment d subqueries)
  | .not, _ => buildError (.oneOperand Operator.not.keyword)
  | .between negated, operands => betweenFragment d negated operands
  | .membership negated, [column, values] =>
    if column.isNull || values.isNull then
      buildError (.twoOperands (Operator.membership negated).keyword)
    else if column.asColumns.isEmpty then .ok (nothingMatches negated)
    else match values with
      | .query q =>
        if subqueries then do return queryMembership d negated column (← q.fragment d)
        else buildError .noSubqueries
      | v => membershipFragment d negated column v.members
  | .membership negated, _ => buildError (.twoOperands (Operator.membership negated).keyword)
  | .like any negated caseless, operands => patternTest d any negated caseless operands
  | .existence negated, [.query q] =>
    if subqueries then do
      return .ofText ((Operator.existence negated).keyword ++ " ") ++ (← q.fragment d).parens
    else buildError .noSubqueries
  | .existence _, _ => buildError .existenceNeedsQuery
  | .compare symbol, [column, value] =>
    let left := columnFragment d column ++ .ofText (" " ++ symbol ++ " ")
    match value with
    | .query q =>
      if subqueries then do return left ++ (← q.fragment d).parens else buildError .noSubqueries
    | v => .ok (left ++ boundOrNull v)
  | .compare symbol, _ => buildError (.twoOperands symbol)

/-- The fragments of the operands of AND and OR. -/
def operandFragments (d : Dialect) (subqueries : Bool) :
    List Value → Except Error (List Fragment)
  | [] => .ok []
  | v :: rest => do
    let first ← v.conditionFragment d subqueries
    return first :: (← operandFragments d subqueries rest)

/-- The fragment of a query. -/
def Query.fragment (d : Dialect) : Query → Except Error Fragment
  | ⟨items, distinct, option, sources, joins, filter, grouping, groupFilter, ordering, limit,
      offset, branches, params⟩ => do
    let select := selectClause distinct option (← itemFragments d items)
    let from_ := fromClause (← sourceFragments d sources)
    let joined := Fragment.join " " (← joinFragments d joins)
    let where_ := (← filter.conditionFragment d true).headed "WHERE"
    let groupBy ← groupByClause d grouping
    let having := (← groupFilter.conditionFragment d true).headed "HAVING"
    let body := Fragment.merging params
      ++ .joinShown " " [select, from_, joined, where_, groupBy, having]
    let paged ← d.paged body ordering limit offset
    let united ← branchFragments d branches
    return if united.isEmpty then paged else paged.parens ++ .ofText " " ++ .join " " united

/-- One select item. -/
def SelectItem.fragment (d : Dialect) : SelectItem → Except Error Fragment
  | ⟨.query q, some alias_⟩ => do
    return (← q.fragment d).parens ++ .ofText (" AS " ++ d.quoteColumn alias_)
  | ⟨.query _, none⟩ => buildError .itemNeedsAlias
  | ⟨.expr e, some alias_⟩ => .ok (.ofExpression e ++ .ofText (" AS " ++ d.quoteColumn alias_))
  | ⟨.expr e, none⟩ => .ok (.ofExpression e)
  | ⟨v, alias?⟩ => .ok (.ofText (namedItem d v.shown alias?))

/-- The items of a select list. -/
def itemFragments (d : Dialect) : List SelectItem → Except Error (List Fragment)
  | [] => .ok []
  | i :: rest => do
    let first ← i.fragment d
    return first :: (← itemFragments d rest)

/-- One source, in the clause of the given name. -/
def TableRef.fragment (d : Dialect) (clause : String) : TableRef → Except Error Fragment
  | ⟨.query q, some alias_⟩ => do
    return (← q.fragment d).parens ++ .ofText (" " ++ d.quoteTable alias_)
  | ⟨.query _, none⟩ => buildError (.sourceNeedsAlias clause)
  | ⟨.expr e, some alias_⟩ => .ok (.ofExpression e ++ .ofText (" " ++ d.quoteTable alias_))
  | ⟨.expr e, none⟩ => .ok (.ofExpression e)
  | ⟨v, alias?⟩ => .ok (.ofText (namedSource d v.shown alias?))

/-- The sources of FROM. -/
def sourceFragments (d : Dialect) : List TableRef → Except Error (List Fragment)
  | [] => .ok []
  | r :: rest => do
    let first ← r.fragment d "FROM"
    return first :: (← sourceFragments d rest)

/-- The joins, each with its condition if that says anything. -/
def joinFragments (d : Dialect) : List Join → Except Error (List Fragment)
  | [] => .ok []
  | ⟨kind, table, on⟩ :: rest => do
    if kind.isEmpty then buildError .joinIncomplete
    let source ← table.fragment d "JOIN"
    let condition ← on.conditionFragment d true
    let first := .ofText (kind ++ " ") ++ source ++ condition.headed " ON"
    return first :: (← joinFragments d rest)

/-- The united queries, each in parentheses after its keyword. -/
def branchFragments (d : Dialect) : List UnionBranch → Except Error (List Fragment)
  | [] => .ok []
  | ⟨query, all⟩ :: rest => do
    let sql ← match query with
      | .query q => q.fragment d
      | v => pure (.ofText v.shown)
    let first := .ofText (if all then "UNION ALL ( " else "UNION ( ") ++ sql ++ .ofText " )"
    return first :: (← branchFragments d rest)

end

end SqlLoom
