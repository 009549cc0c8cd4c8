import SqlLoom.Statement

/-!
# `SqlLoom.Proofs.Parts`: what a description contributes to a statement

`Statement` is any statement that a `Compiler` compiles with parameters, and `Statement.parts`
lists what its description contributes, in the order of compilation: values to bind, raw
expressions, parameters that a query carries, sub-queries. The list is read off the description
alone; no text is made and nothing fails. A part in a position that is never compiled (the column
of a membership test without values, for example) is not listed.

Two positions are listed as `Part.bare`: an expression as LIMIT, OFFSET, select option or branch
of a union is written out, and its parameters are left behind.
-/

set_option autoImplicit false

namespace SqlLoom

/-- What a position of a description contributes. -/
inductive Part where
  /-- A value bound under a fresh name. -/
  | bound (v : Value)
  /-- A raw expression whose parameters are taken over. -/
  | raw (e : Expression)
  /-- A raw expression whose text alone is taken over. -/
  | bare (e : Expression)
  /-- The parameters that a query carries. -/
  | named (params : Entries Value)
  /-- A query; its own parts follow. -/
  | query (q : Query)

/-- The table steps of a part. -/
def Part.steps : Part → List TableStep
  | .bound v => [.add v]
  | .raw e => [.merge e.params]
  | .named params => [.merge params]
  | .bare _ | .query _ => []

/-- The raw expression that a part writes out. -/
def Part.expression? : Part → Option Expression
  | .raw e | .bare e => some e
  | .bound _ | .named _ | .query _ => none

/-! ### Columns and values -/

/-- The part of a position where nothing is bound: a column, a source, a grouping column. -/
def Value.rawParts : Value → List Part
  | .expr e => [.raw e]
  | _ => []

/-- The part of a position whose expression is written out without its parameters. -/
def Value.bareParts : Value → List Part
  | .expr e => [.bare e]
  | _ => []

/-- The part of a value. -/
def Value.boundParts : Value → List Part
  | .expr e => [.raw e]
  | v => [.bound v]

/-- The part of a value that may be absent. -/
def Value.nullableParts : Value → List Part
  | .null => []
  | v => v.boundParts

/-! ### Membership -/

/-- The part of one value in the list for a single column. -/
def memberParts (column v : Value) : List Part :=
  match v with
  | .map row =>
    match entryOf column row with
    | .ok entry => entry.nullableParts
    | .error _ => []
  | v => v.nullableParts

/-- The parts of one column among values. -/
def singleParts (column : Value) : List Value → List Part
  | [] => []
  -- The values are compiled before the column that stands in front of them.
  | v :: rest => (v :: rest).flatMap (memberParts column) ++ column.rawParts

/-- The part of one entry of a row. -/
def entryParts : Value → List Part
  | .null => []
  | v => [.bound v]

/-- The parts of a row for the columns from the `i`-th on. -/
def rowParts (row : Value) (i : Nat) : List Value → List Part
  | [] => []
  | column :: rest =>
    (match rowEntry row i column with
      | .ok entry => entryParts entry
      | .error _ => []) ++ rowParts row (i + 1) rest

/-- The parts of several columns among rows. -/
def rowsParts (columns : List Value) : List Value → List Part
  | [] => []
  | row :: rest =>
    (row :: rest).flatMap (fun row => rowParts row 0 columns) ++ columns.flatMap Value.rawParts

/-- The parts of a membership test over values that fit into one list. -/
def chunkParts (column : Value) (values : List Value) : List Part :=
  match column.asColumns with
  | [one] => singleParts one values
  | columns => rowsParts columns values

/-- The parts of a membership test. A list that is split takes its column anew for each chunk. -/
def membershipParts (d : Dialect) (column : Value) (values : List Value) : List Part :=
  match splitMembers d values with
  | .ok (some chunks) => chunks.flatMap (chunkParts column)
  | _ => chunkParts column values

/-! ### Patterns -/

/-- The value that is bound for a pattern. -/
def patternValue (escape v : Value) : Value :=
  if escape.isTruthy then
    match escapeBy escape v.shown with
    | .ok s => .text ("%" ++ s ++ "%")
    | .error _ => v
  else v

/-- The part of one pattern. -/
def patternParts (escape v : Value) : List Part :=
  match v with
  | .expr e => [.raw e]
  | v => [.bound (patternValue escape v)]

/-- The parts of a column against patterns. -/
def likeParts (d : Dialect) (column values escape : Value) : List Part :=
  if values.members.isEmpty then []
  else column.rawParts ++ values.members.flatMap (patternParts (effectiveEscape d escape))

/-! ### The recursion -/

mutual

/-- The parts of a condition in any spelling. -/
def Value.conditionParts (d : Dialect) : Value → List Part
  | .expr e => [.raw e]
  | .map columns => columnsParts d columns
  | .hash columns => columnsParts d columns
  | .list items => shorthandParts d items
  | .tuple items => shorthandParts d items
  | .cond op operands => nodeParts d op operands
  -- Text is written as it is, and anything else is no condition.
  | _ => []

/-- The parts of a shorthand list. -/
def shorthandParts (d : Dialect) : List Value → List Part
  | [] => []
  | head :: operands =>
    match head.headOperator with
    | .ok op => nodeParts d op operands
    | .error _ => []

/-- The parts of one column of a hash. -/
def columnParts (d : Dialect) (column : String) : Value → List Part
  | .null => []
  | .query q => q.parts d
  | v => if v.isCollection then membershipParts d (.text column) v.members else v.boundParts

/-- The parts of a hash. -/
def columnsParts (d : Dialect) : List (String × Value) → List Part
  | [] => []
  | (column, value) :: rest => columnParts d column value ++ columnsParts d rest

/-- The parts of a column among values or among the rows of a query. -/
def amongParts (d : Dialect) (column : Value) : Value → List Part
  | .query q => q.parts d ++ column.asColumns.flatMap Value.rawParts
  | v => membershipParts d column v.members

/-- The parts of a value that a column is compared with. -/
def comparedParts (d : Dialect) : Value → List Part
  | .query q => q.parts d
  | v => v.nullableParts

/-- The parts of an operator with its operands. -/
def nodeParts (d : Dialect) : Operator → List Value → List Part
  | .and, v :: rest => v.conditionParts d ++ operandsParts d rest
  | .or, v :: rest => v.conditionParts d ++ operandsParts d rest
  | .not, [operand] => operand.conditionParts d
  | .between _, [column, low, high] => column.rawParts ++ low.boundParts ++ high.boundParts
  | .membership _, [column, values] =>
    -- Without a column nothing is asked of the values.
    if column.asColumns.isEmpty then [] else amongParts d column values
  | .like _ _ _, column :: values :: rest => likeParts d column values (rest.headD .null)
  | .existence _, [.query q] => q.parts d
  | .compare _, [column, value] => column.rawParts ++ comparedParts d value
  | _, _ => []

/-- The parts of the operands of AND and OR. -/
def operandsParts (d : Dialect) : List Value → List Part
  | [] => []
  | v :: rest => v.conditionParts d ++ operandsParts d rest

/-- The parts of a query, the query itself first. -/
def Query.parts (d : Dialect) : Query → List Part
  | ⟨items, distinct, option, sources, joins, filter, grouping, groupFilter, ordering, limit,
      offset, branches, params⟩ =>
    .query ⟨items, distinct, option, sources, joins, filter, grouping, groupFilter, ordering,
        limit, offset, branches, params⟩
      :: .named params :: (option.bareParts ++ itemsParts d items ++ sourcesParts d sources
      ++ joinsParts d joins ++ filter.conditionParts d ++ grouping.flatMap Value.rawParts
      ++ groupFilter.conditionParts d ++ ordering.flatMap (fun key => key.expr.rawParts)
      ++ limit.bareParts ++ offset.bareParts ++ branchesParts d branches)

/-- The parts of a select item. -/
def SelectItem.parts (d : Dialect) : SelectItem → List Part
  | ⟨.query q, _⟩ => q.parts d
  | ⟨v, _⟩ => v.rawParts

/-- The parts of a select list. -/
def itemsParts (d : Dialect) : List SelectItem → List Part
  | [] => []
  | i :: rest => i.parts d ++ itemsParts d rest

/-- The parts of a source. -/
def TableRef.parts (d : Dialect) : TableRef → List Part
  | ⟨.query q, _⟩ => q.parts d
  | ⟨v, _⟩ => v.rawParts

/-- The parts of sources. -/
def sourcesParts (d : Dialect) : List TableRef → List Part
  | [] => []
  | r :: rest => r.parts d ++ sourcesParts d rest

/-- The parts of joins. -/
def joinsParts (d : Dialect) : List Join → List Part
  | [] => []
  | ⟨_, table, on⟩ :: rest => table.parts d ++ on.conditionParts d ++ joinsParts d rest

/-- The parts of one united query, which may be given as text. -/
def branchParts (d : Dialect) : Value → List Part
  | .query q => q.parts d
  | v => v.bareParts

/-- The parts of united queries. -/
def branchesParts (d : Dialect) : List UnionBranch → List Part
  | [] => []
  | ⟨query, _⟩ :: rest => branchParts d query ++ branchesParts d rest

end

/-! ### Statements -/

/-- A statement that is compiled with parameters. -/
inductive Statement where
  | query (q : Query)
  | condition (v : Value)
  | insert (table : String) (columns : Value)
  | insertReturning (table : String) (columns : Value)
  | update (table : String) (columns filter : Value)
  | delete (table : String) (filter : Value)

namespace Compiler

/-- Compiles any statement with the parameters of the caller. -/
def compile (c : Compiler) (params : Entries Value) : Statement → Except Error Compiled
  | .query q => c.build q params
  | .condition v => c.buildCondition v params
  | .insert table columns => c.insert table columns params
  | .insertReturning table columns => c.insertReturning table columns params
  | .update table columns filter => c.update table columns filter params
  | .delete table filter => c.delete table filter params

/-- The fragment of any statement. -/
def fragment (c : Compiler) : Statement → Except Error Fragment
  | .query q => q.fragment c.dialect
  | .condition v => v.conditionFragment c.dialect true
  | .insert table columns => c.insertFragment table columns
  | .insertReturning table columns => do
    c.dialect.returning (← c.insertFragment table columns) (c.table? table)
  | .update table columns filter => c.updateFragment table columns filter
  | .delete table filter => c.deleteFragment table filter

/-- Every statement is a fragment bound to the parameters of the caller. -/
theorem compile_eq (c : Compiler) (params : Entries Value) (s : Statement) :
    c.compile params s = (c.fragment s).map (c.finish params) := by
  cases s with
  | query q => exact bind_pure_comp (c.finish params) (q.fragment c.dialect)
  | condition v => exact bind_pure_comp (c.finish params) (v.conditionFragment c.dialect true)
  | insert table columns => exact bind_pure_comp (c.finish params) (c.insertFragment table columns)
  | insertReturning table columns =>
      -- The key is returned before the fragment is bound.
      have hassoc := bind_assoc (c.insertFragment table columns)
        (fun f => c.dialect.returning f (c.table? table)) (fun f => pure (c.finish params f))
      exact hassoc.symm.trans (bind_pure_comp (c.finish params) _)
  | update table columns filter =>
      exact bind_pure_comp (c.finish params) (c.updateFragment table columns filter)
  | delete table filter => exact bind_pure_comp (c.finish params) (c.deleteFragment table filter)

end Compiler

/-- The parts of one column of an INSERT. -/
def insertedParts (d : Dialect) (info : Option Table) (name : String) (v : Value) : List Part :=
  match v with
  | .expr e => [.raw e]
  | .query q => q.parts d
  | v => [.bound (Compiler.castFor info name v)]

/-- The parts of an INSERT. -/
def insertParts (c : Compiler) (table : String) (columns : Value) : List Part :=
  match columns with
  | .query q => q.parts c.dialect
  | v =>
    match v.toEntries with
    | .ok row =>
      (c.dialect.normalizeRow (c.table? table) row).flatMap fun e =>
        insertedParts c.dialect (c.table? table) e.1 e.2
    | .error _ => []

/-- The parts of the return of a primary key. -/
def returningParts (d : Dialect) (info : Option Table) : List Part :=
  match d.backend, info with
  | .oracle, some table =>
    table.primaryKey.flatMap fun name => [.bound (Dialect.outParam table name)]
  | _, _ => []

/-- The part of one assignment. -/
def assignmentParts (info : Option Table) (name : String) (v : Value) : List Part :=
  match v with
  | .expr e => [.raw e]
  | v => [.bound (Compiler.castFor info name v)]

/-- The parts of the assignments of an UPDATE. -/
def updateParts (c : Compiler) (table : String) (columns : Value) : List Part :=
  match columns.toEntries with
  | .ok row =>
    (c.dialect.normalizeRow (c.table? table) row).flatMap fun e =>
      assignmentParts (c.table? table) e.1 e.2
  | .error _ => []

/-- The parts of a statement, in the order of compilation. -/
def Statement.parts (c : Compiler) : Statement → List Part
  | .query q => q.parts c.dialect
  | .condition v => v.conditionParts c.dialect
  | .insert table columns => insertParts c table columns
  | .insertReturning table columns =>
    insertParts c table columns ++ returningParts c.dialect (c.table? table)
  | .update table columns filter => updateParts c table columns ++ filter.conditionParts c.dialect
  | .delete _ filter => filter.conditionParts c.dialect

/-- The table steps of a statement, in order. -/
def Statement.steps (c : Compiler) (s : Statement) : List TableStep :=
  (s.parts c).flatMap Part.steps

end SqlLoom
