import SqlLoom.Proofs.Parts

/-!
# `SqlLoom.Proofs.Masked`: descriptions with their bound scalars blanked

Two descriptions differ in nothing but bound scalars if they become the same once every bound
scalar is blanked. `Statement.masked` blanks them: the scalars among the values of a hash, in lists
of members, in rows, as bounds, as patterns, in comparisons and in the columns of an INSERT or
UPDATE, wherever these stand in conditions, sub-queries, joins and united queries. Nothing else
changes, not even in a nested position that only looks like a value: columns, names, raw SQL,
limits and the parameters that expressions and queries carry stay as they are.
-/

set_option autoImplicit false

namespace SqlLoom

/-! ### Single values -/

/-- The value is a scalar: text, a number, a truth value, octets, or one of these under an
explicit type. -/
def Value.isScalar : Value → Bool
  | .bool _ | .int _ | .float _ | .text _ | .bytes _ | .typed .. | .direction _ | .isolation _
  | .columnType _ => true
  | _ => false

/-- A value without its contents if it is a scalar; any other value stays. -/
def Value.blank (v : Value) : Value := if v.isScalar then .text "" else v

/-- A row, or a member that is no row, with its scalars blanked. -/
def Value.blankRow : Value → Value
  | .list items => .list (items.map Value.blank)
  | .tuple items => .tuple (items.map Value.blank)
  | .map entries => .map (entries.map fun e => (e.1, e.2.blank))
  | v => v.blank

/-- The members of a collection, each of them blanked; a single value is its own only member. -/
def Value.blankMembers (blanked : Value → Value) : Value → Value
  | .list items => .list (items.map blanked)
  | .tuple items => .tuple (items.map blanked)
  | .stream items => .stream (items.map blanked)
  | v => blanked v

/-! ### The recursion -/

mutual

/-- A position that may hold a query; what is no query is blanked as the position asks. -/
def Value.masked (blanked : Value → Value) : Value → Value
  | .query q => .query q.masked
  | v => blanked v

/-- A condition in any spelling with its bound scalars blanked. -/
def Value.conditionMasked : Value → Value
  | .map columns => .map (columnsMasked columns)
  | .hash columns => .hash (columnsMasked columns)
  | .list items => .list (shorthandMasked items)
  | .tuple items => .tuple (shorthandMasked items)
  | .cond op operands => .cond op (nodeMasked op operands)
  | v => v

/-- A shorthand list with its bound scalars blanked. -/
def shorthandMasked : List Value → List Value
  | [] => []
  | head :: operands =>
    match head.headOperator with
    | .ok op => head :: nodeMasked op operands
    -- A list without an operator is no condition, whatever it holds.
    | .error _ => head :: operands

/-- The columns of a hash with their values blanked. -/
def columnsMasked : List (String × Value) → List (String × Value)
  | [] => []
  | (column, value) :: rest =>
    (column, value.masked (Value.blankMembers Value.blankRow)) :: columnsMasked rest

/-- The operands of an operator with their bound scalars blanked. -/
def nodeMasked : Operator → List Value → List Value
  | .and, v :: rest => v.conditionMasked :: operandsMasked rest
  | .or, v :: rest => v.conditionMasked :: operandsMasked rest
  | .not, [operand] => [operand.conditionMasked]
  | .between _, [column, low, high] => [column, low.blank, high.blank]
  | .membership _, [column, values] =>
    [column, values.masked (Value.blankMembers Value.blankRow)]
  | .like .., column :: values :: rest => column :: values.blankMembers Value.blank :: rest
  | .existence _, [value] => [value.masked id]
  | .compare _, [column, value] => [column, value.masked Value.blank]
  -- Raw SQL and operands that are too many or too few.
  | _, operands => operands

/-- The operands of AND and OR with their bound scalars blanked. -/
def operandsMasked : List Value → List Value
  | [] => []
  | v :: rest => v.conditionMasked :: operandsMasked rest

/-- A query with its bound scalars blanked. -/
def Query.masked : Query → Query
  | ⟨items, distinct, option, sources, joins, filter, grouping, groupFilter, ordering, limit,
      offset, branches, params⟩ =>
    ⟨itemsMasked items, distinct, option, sourcesMasked sources, joinsMasked joins,
      filter.conditionMasked, grouping, groupFilter.conditionMasked, ordering, limit, offset,
      branchesMasked branches, params⟩

/-- The items of a select list with the bound scalars of sub-queries blanked. -/
def itemsMasked : List SelectItem → List SelectItem
  | [] => []
  | ⟨expr, alias?⟩ :: rest => ⟨expr.masked id, alias?⟩ :: itemsMasked rest

/-- Sources with the bound scalars of sub-queries blanked. -/
def sourcesMasked : List TableRef → List TableRef
  | [] => []
  | ⟨source, alias?⟩ :: rest => ⟨source.masked id, alias?⟩ :: sourcesMasked rest

/-- Joins with the bound scalars of sub-queries and conditions blanked. -/
def joinsMasked : List Join → List Join
  | [] => []
  | ⟨kind, ⟨source, alias?⟩, on⟩ :: rest =>
    ⟨kind, ⟨source.masked id, alias?⟩, on.conditionMasked⟩ :: joinsMasked rest

/-- United queries with their bound scalars blanked. -/
def branchesMasked : List UnionBranch → List UnionBranch
  | [] => []
  | ⟨query, all⟩ :: rest => ⟨query.masked id, all⟩ :: branchesMasked rest

end

/-! ### Statements -/

/-- A row of columns with each value blanked. -/
def Value.rowMasked (blanked : Value → Value) (v : Value) : Value :=
  match v.toEntries with
  | .ok row => .map (row.map fun e => (e.1, blanked e.2))
  -- What spells no row is refused before any value is looked at.
  | .error _ => v

/-- What an INSERT inserts, with its bound scalars blanked. -/
def Value.insertedMasked : Value → Value
  | .query q => .query q.masked
  | v => v.rowMasked (Value.masked Value.blank)

/-- A statement with its bound scalars blanked. -/
def Statement.masked : Statement → Statement
  | .query q => .query q.masked
  | .condition v => .condition v.conditionMasked
  | .insert table columns => .insert table columns.insertedMasked
  | .insertReturning table columns => .insertReturning table columns.insertedMasked
  | .update table columns filter =>
    .update table (columns.rowMasked Value.blank) filter.conditionMasked
  | .delete table filter => .delete table filter.conditionMasked

end SqlLoom
