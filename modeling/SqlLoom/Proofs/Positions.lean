import SqlLoom.Proofs.Secrecy

/-!
# `SqlLoom.Proofs.Positions`: where a description has values

A value position of a description is one where a value to bind may stand: the value of a column in
a hash, of a comparison, of a column that is inserted or assigned, a member of a list, an entry of
a row, a bound, a pattern. `Statement.positions` lists them all with their `Role`, in the order of
compilation and at any depth of nesting, and between them the positions that hold no values.

* `Statement.partsOf_positions`: the parts of a statement are those of its positions, one after the
  other.
* `Role.binds` and `Role.compiles` say what becomes of a raw expression and of a query in a
  position. `Role.bound_mem_iff`: such a value is stored under a generated name in exactly those
  positions that bind it. `Role.parts_of_expr`: an expression is put into the text in all others.
-/

set_option autoImplicit false

namespace SqlLoom

/-- The use that a statement makes of a value. -/
inductive Role where
  /-- Compared with a column: the value of a hash or of a comparison, or the query whose rows a
  column is among. -/
  | compared
  /-- A member of the list that a single column is among. -/
  | member
  /-- An entry of a row that several columns are among. -/
  | entry
  /-- A bound of an interval. -/
  | between
  /-- A pattern, with the escape operand that counts. -/
  | pattern (escape : Value)
  /-- The value of a column of an INSERT. -/
  | inserted (d : Dialect) (info : Option Table) (column : String)
  /-- The value of a column of an UPDATE. -/
  | assigned (d : Dialect) (info : Option Table) (column : String)

/-- A position of a description. -/
inductive Position where
  | value (role : Role) (v : Value)
  /-- A raw expression as a column, a source or a condition. -/
  | expression (e : Expression)
  /-- A raw expression whose parameters are left behind. -/
  | unmerged (e : Expression)
  /-- The parameters that a query carries. -/
  | carried (params : Entries Value)
  /-- A query; its own positions follow. -/
  | query (q : Query)
  /-- The output parameter for a column that is returned. -/
  | output (info : Table) (column : String)

namespace Role

/-- The parts of a value by itself. Those of a query that is compiled have positions of their
own. -/
def parts : Role → Value → List Part
  | .compared, .query _ | .inserted .., .query _ => []
  | .compared, v | .member, v => v.nullableParts
  | .entry, v => entryParts v
  | .between, v => v.boundParts
  | .pattern escape, v => patternParts escape v
  | .inserted d info column, v => insertedParts d info column (d.normalizeValue info column v)
  | .assigned d info column, v => assignmentParts info column (d.normalizeValue info column v)

/-- A raw expression or a query is bound here like any other value. -/
def binds : Role → Value → Bool
  | .entry, .expr _ => true
  | .entry, .query _ | .member, .query _ | .between, .query _ | .assigned .., .query _ => true
  -- A query that is escaped is bound as well, but as the text that it is shown as.
  | .pattern escape, .query q => !(patternValue escape (.query q)).isBound
  | _, _ => false

/-- A query is compiled here. -/
def compiles : Role → Bool
  | .compared | .inserted .. => true
  | _ => false

end Role

/-- The parts of a position. -/
def Position.parts : Position → List Part
  | .value role v => role.parts v
  | .expression e => [.raw e]
  | .unmerged e => [.bare e]
  | .carried params => [.named params]
  | .query q => [.query q]
  | .output info column => [.bound (Dialect.outParam info column)]

/-! ### Membership and patterns -/

/-- The position of a column, a source or a grouping column. -/
def Value.columnPositions : Value → List Position
  | .expr e => [.expression e]
  | _ => []

/-- The position of what is written out without its parameters. -/
def Value.barePositions : Value → List Position
  | .expr e => [.unmerged e]
  | _ => []

/-- The position of one value in the list for a single column. -/
def memberPositions (column v : Value) : List Position :=
  match v with
  | .map row =>
    match entryOf column row with
    | .ok entry => [.value .member entry]
    | .error _ => []
  | v => [.value .member v]

/-- The positions of one column among values. -/
def singlePositions (column : Value) : List Value → List Position
  | [] => []
  | v :: rest => (v :: rest).flatMap (memberPositions column) ++ column.columnPositions

/-- The positions of a row for the columns from the `i`-th on. -/
def rowPositions (row : Value) (i : Nat) : List Value → List Position
  | [] => []
  | column :: rest =>
    (match rowEntry row i column with
      | .ok entry => [.value .entry entry]
      | .error _ => []) ++ rowPositions row (i + 1) rest

/-- The positions of several columns among rows. -/
def rowsPositions (columns : List Value) : List Value → List Position
  | [] => []
  | row :: rest =>
    (row :: rest).flatMap (fun row => rowPositions row 0 columns)
      ++ columns.flatMap Value.columnPositions

/-- The positions of a membership test over values that fit into one list. -/
def chunkPositions (column : Value) (values : List Value) : List Position :=
  match column.asColumns with
  | [one] => singlePositions one values
  | columns => rowsPositions columns values

/-- The positions of a membership test. -/
def membershipPositions (d : Dialect) (column : Value) (values : List Value) : List Position :=
  match splitMembers d values with
  -- Each chunk becomes a test of its own, with the columns written out again.
  | .ok (some chunks) => chunks.flatMap (chunkPositions column)
  | _ => chunkPositions column values

/-- The positions of a column against patterns. -/
def likePositions (d : Dialect) (column values escape : Value) : List Position :=
  if values.members.isEmpty then []
  else column.columnPositions
    ++ values.members.map (.value (.pattern (effectiveEscape d escape)))

/-! ### The recursion -/

mutual

/-- The positions of a condition in any spelling. -/
def Value.conditionPositions (d : Dialect) : Value → List Position
  | .expr e => [.expression e]
  | .map columns => columnsPositions d columns
  | .hash columns => columnsPositions d columns
  | .list items => shorthandPositions d items
  | .tuple items => shorthandPositions d items
  | .cond op operands => nodePositions d op operands
  | _ => []

/-- The positions of a shorthand list. -/
def shorthandPositions (d : Dialect) : List Value → List Position
  | [] => []
  | head :: operands =>
    match head.headOperator with
    | .ok op => nodePositions d op operands
    | .error _ => []

/-- The positions of a value that a column is compared with. -/
def comparedPositions (d : Dialect) : Value → List Position
  | .query q => .value .compared (.query q) :: q.positions d
  | v => [.value .compared v]

/-- The positions of a hash. -/
def columnsPositions (d : Dialect) : List (String × Value) → List Position
  | [] => []
  | (column, value) :: rest =>
    (if value.isCollection then membershipPositions d (.text column) value.members
      else comparedPositions d value) ++ columnsPositions d rest

/-- The positions of a column among values or among the rows of a query. -/
def amongPositions (d : Dialect) (column : Value) : Value → List Position
  | .query q =>
    -- The rows are compiled first, although the columns stand before them.
    .value .compared (.query q) :: q.positions d ++ column.asColumns.flatMap Value.columnPositions
  | v => membershipPositions d column v.members

/-- The positions of an operator with its operands. -/
def nodePositions (d : Dialect) : Operator → List Value → List Position
  | .and, v :: rest => v.conditionPositions d ++ operandsPositions d rest
  | .or, v :: rest => v.conditionPositions d ++ operandsPositions d rest
  | .not, [operand] => operand.conditionPositions d
  | .between _, [column, low, high] =>
    column.columnPositions ++ [.value .between low, .value .between high]
  | .membership _, [column, values] =>
    if column.asColumns.isEmpty then [] else amongPositions d column values
  | .like _ _ _, column :: values :: rest => likePositions d column values (rest.headD .null)
  | .existence _, [.query q] => q.positions d
  | .compare _, [column, value] => column.columnPositions ++ comparedPositions d value
  -- With other operands the operator does not compile.
  | _, _ => []

/-- The positions of the operands of AND and OR. -/
def operandsPositions (d : Dialect) : List Value → List Position
  | [] => []
  | v :: rest => v.conditionPositions d ++ operandsPositions d rest

/-- The positions of a query. -/
def Query.positions (d : Dialect) : Query → List Position
  | ⟨items, distinct, option, sources, joins, filter, grouping, groupFilter, ordering, limit,
      offset, branches, params⟩ =>
    .query ⟨items, distinct, option, sources, joins, filter, grouping, groupFilter, ordering,
        limit, offset, branches, params⟩
      :: .carried params :: (option.barePositions ++ itemsPositions d items
      ++ sourcesPositions d sources ++ joinsPositions d joins ++ filter.conditionPositions d
      ++ grouping.flatMap Value.columnPositions ++ groupFilter.conditionPositions d
      ++ ordering.flatMap (fun key => key.expr.columnPositions)
      ++ limit.barePositions ++ offset.barePositions ++ branchesPositions d branches)

/-- The positions of a select item or a source. -/
def sourcePositions (d : Dialect) : Value → List Position
  | .query q => q.positions d
  | v => v.columnPositions

/-- The positions of a select list. -/
def itemsPositions (d : Dialect) : List SelectItem → List Position
  | [] => []
  | ⟨expr, _⟩ :: rest => sourcePositions d expr ++ itemsPositions d rest

/-- The positions of sources. -/
def sourcesPositions (d : Dialect) : List TableRef → List Position
  | [] => []
  | ⟨source, _⟩ :: rest => sourcePositions d source ++ sourcesPositions d rest

/-- The positions of joins. -/
def joinsPositions (d : Dialect) : List Join → List Position
  | [] => []
  | ⟨_, ⟨source, _⟩, on⟩ :: rest =>
    sourcePositions d source ++ on.conditionPositions d ++ joinsPositions d rest

/-- The positions of one united query, which may be given as text. -/
def branchPositions (d : Dialect) : Value → List Position
  | .query q => q.positions d
  | v => v.barePositions

/-- The positions of united queries. -/
def branchesPositions (d : Dialect) : List UnionBranch → List Position
  | [] => []
  | ⟨query, _⟩ :: rest => branchPositions d query ++ branchesPositions d rest

end

/-! ### Statements -/

/-- The positions of one column of an INSERT. -/
def insertedPositions (d : Dialect) (info : Option Table) (column : String) (v : Value) :
    List Position :=
  .value (.inserted d info column) v :: match v with
    | .query q => q.positions d
    | _ => []

/-- The positions of an INSERT. -/
def insertPositions (c : Compiler) (table : String) (columns : Value) : List Position :=
  match columns with
  | .query q => q.positions c.dialect
  | v =>
    match v.toEntries with
    | .ok row => row.flatMap fun e => insertedPositions c.dialect (c.table? table) e.1 e.2
    | .error _ => []

/-- The positions of the return of a primary key. -/
def returningPositions (d : Dialect) (info : Option Table) : List Position :=
  match d.backend, info with
  | .oracle, some table => table.primaryKey.map (.output table)
  | _, _ => []

/-- The positions of the assignments of an UPDATE. -/
def updatePositions (c : Compiler) (table : String) (columns : Value) : List Position :=
  match columns.toEntries with
  | .ok row => row.map fun e => .value (.assigned c.dialect (c.table? table) e.1) e.2
  | .error _ => []

/-- The positions of a statement, in the order of compilation. -/
def Statement.positions (c : Compiler) : Statement → List Position
  | .query q => q.positions c.dialect
  | .condition v => v.conditionPositions c.dialect
  | .insert table columns => insertPositions c table columns
  | .insertReturning table columns =>
    insertPositions c table columns ++ returningPositions c.dialect (c.table? table)
  | .update table columns filter =>
    updatePositions c table columns ++ filter.conditionPositions c.dialect
  | .delete _ filter => filter.conditionPositions c.dialect

/-! ### The parts of positions -/

/-- The parts of positions one after the other. -/
def partsOf (ps : List Position) : List Part := ps.flatMap Position.parts

@[simp]
theorem partsOf_nil : partsOf [] = [] := rfl

@[simp]
theorem partsOf_cons (p : Position) (ps : List Position) :
    partsOf (p :: ps) = p.parts ++ partsOf ps := List.flatMap_cons ..

@[simp]
theorem partsOf_append (ps qs : List Position) : partsOf (ps ++ qs) = partsOf ps ++ partsOf qs :=
  List.flatMap_append ..

theorem partsOf_flatMap {α : Type} (as : List α) (f : α → List Position) :
    partsOf (as.flatMap f) = as.flatMap fun a => partsOf (f a) := List.flatMap_assoc ..

@[simp]
theorem partsOf_columnPositions (v : Value) : partsOf v.columnPositions = v.rawParts := by
  cases v <;> rfl

@[simp]
theorem partsOf_barePositions (v : Value) : partsOf v.barePositions = v.bareParts := by
  cases v <;> rfl

@[simp]
theorem value_not_mem_columnPositions (role : Role) (v w : Value) :
    Position.value role v ∉ w.columnPositions := by
  cases w <;> simp [Value.columnPositions]

@[simp]
theorem value_not_mem_barePositions (role : Role) (v w : Value) :
    Position.value role v ∉ w.barePositions := by
  cases w <;> simp [Value.barePositions]

theorem partsOf_columns (columns : List Value) :
    partsOf (columns.flatMap Value.columnPositions) = columns.flatMap Value.rawParts := by
  simp [partsOf_flatMap]

theorem partsOf_memberPositions (column v : Value) :
    partsOf (memberPositions column v) = memberParts column v := by
  cases v with
  | map row =>
      rw [memberPositions, memberParts]
      cases entryOf column row with
      | error e => rfl
      | ok entry => exact List.append_nil _
  | _ => exact List.append_nil _

theorem partsOf_singlePositions (column : Value) (values : List Value) :
    partsOf (singlePositions column values) = singleParts column values := by
  cases values with
  | nil => rfl
  | cons v rest =>
      simp only [singlePositions, singleParts, partsOf_append, partsOf_flatMap,
        partsOf_memberPositions, partsOf_columnPositions]

theorem partsOf_rowPositions (row : Value) (i : Nat) (columns : List Value) :
    partsOf (rowPositions row i columns) = rowParts row i columns := by
  induction columns generalizing i with
  | nil => rfl
  | cons column rest ih =>
      rw [rowPositions, rowParts, partsOf_append, ih]
      cases rowEntry row i column <;> simp [Position.parts, Role.parts]

theorem partsOf_rowsPositions (columns rows : List Value) :
    partsOf (rowsPositions columns rows) = rowsParts columns rows := by
  cases rows with
  | nil => rfl
  | cons row rest =>
      simp only [rowsPositions, rowsParts, partsOf_append, partsOf_flatMap, partsOf_rowPositions,
        partsOf_columnPositions]

theorem partsOf_chunkPositions (column : Value) (values : List Value) :
    partsOf (chunkPositions column values) = chunkParts column values := by
  unfold chunkPositions chunkParts
  rcases column.asColumns with _ | ⟨one, _ | ⟨two, rest⟩⟩
  · exact partsOf_rowsPositions [] values
  · exact partsOf_singlePositions one values
  · exact partsOf_rowsPositions (one :: two :: rest) values

theorem partsOf_membershipPositions (d : Dialect) (column : Value) (values : List Value) :
    partsOf (membershipPositions d column values) = membershipParts d column values := by
  unfold membershipPositions membershipParts
  rcases splitMembers d values with e | _ | chunks
  · exact partsOf_chunkPositions column values
  · exact partsOf_chunkPositions column values
  · simp only [partsOf_flatMap, partsOf_chunkPositions]

theorem partsOf_likePositions (d : Dialect) (column values escape : Value) :
    partsOf (likePositions d column values escape) = likeParts d column values escape := by
  unfold likePositions likeParts
  split
  · rfl
  · rw [partsOf_append, partsOf_columnPositions, partsOf, List.flatMap_map]
    rfl

/-- A value that is no query has its own parts only. -/
theorem partsOf_comparedPositions {d : Dialect} {v : Value}
    (h : ∀ q, v = .query q → partsOf (q.positions d) = q.parts d) :
    partsOf (comparedPositions d v) = comparedParts d v := by
  cases v with
  | query q => simpa [comparedPositions, comparedParts, Position.parts, Role.parts] using h q rfl
  | _ => exact List.append_nil _

theorem partsOf_amongPositions {d : Dialect} (column : Value) {v : Value}
    (h : ∀ q, v = .query q → partsOf (q.positions d) = q.parts d) :
    partsOf (amongPositions d column v) = amongParts d column v := by
  cases v with
  | query q =>
      simp [amongPositions, amongParts, Position.parts, Role.parts, h q rfl, partsOf_columns]
  | _ => exact partsOf_membershipPositions d column _

theorem partsOf_sourcePositions {d : Dialect} {v : Value}
    (h : ∀ q, v = .query q → partsOf (q.positions d) = q.parts d) (alias? : Option String) :
    partsOf (sourcePositions d v) = TableRef.parts d ⟨v, alias?⟩ := by
  cases v with
  | query q => exact h q rfl
  | _ => rfl

theorem partsOf_branchPositions {d : Dialect} {v : Value}
    (h : ∀ q, v = .query q → partsOf (q.positions d) = q.parts d) :
    partsOf (branchPositions d v) = branchParts d v := by
  cases v with
  | query q => exact h q rfl
  | _ => rfl

theorem partsOf_existence {d : Dialect} (negated : Bool) {v : Value}
    (h : ∀ q, v = .query q → partsOf (q.positions d) = q.parts d) :
    partsOf (nodePositions d (.existence negated) [v]) = nodeParts d (.existence negated) [v] := by
  cases v with
  | query q => exact h q rfl
  | _ => rfl

/-- One column of a hash. -/
theorem partsOf_column {d : Dialect} (column : String) {v : Value}
    (h : ∀ q, v = .query q → partsOf (q.positions d) = q.parts d) :
    partsOf (if v.isCollection then membershipPositions d (.text column) v.members
      else comparedPositions d v) = columnParts d column v := by
  cases v with
  | query q => exact partsOf_comparedPositions h
  | list items => exact partsOf_membershipPositions d _ _
  | tuple items => exact partsOf_membershipPositions d _ _
  | stream items => exact partsOf_membershipPositions d _ _
  | _ => exact partsOf_comparedPositions h

mutual

theorem Value.partsOf_condition (d : Dialect) :
    (v : Value) → partsOf (v.conditionPositions d) = v.conditionParts d
  | .expr _ => rfl
  | .map columns => partsOf_columnsPositions d columns
  | .hash columns => partsOf_columnsPositions d columns
  | .list items => partsOf_shorthand d items
  | .tuple items => partsOf_shorthand d items
  | .cond op operands => partsOf_node d op operands
  | .null | .bool _ | .int _ | .float _ | .text _ | .bytes _ | .stream _ | .typed .. | .out ..
  | .query _ | .item _ | .ref _ | .join _ | .order _ | .branch _ | .direction _ | .isolation _
  | .columnType _ => rfl

theorem partsOf_shorthand (d : Dialect) :
    (items : List Value) → partsOf (shorthandPositions d items) = shorthandParts d items
  | [] => rfl
  | head :: operands => by
      rw [shorthandPositions, shorthandParts]
      cases head.headOperator with
      | error e => rfl
      | ok op => exact partsOf_node d op operands

theorem partsOf_columnsPositions (d : Dialect) :
    (columns : List (String × Value)) →
      partsOf (columnsPositions d columns) = columnsParts d columns
  | [] => rfl
  | (column, value) :: rest => by
      rw [columnsPositions, columnsParts, partsOf_append, partsOf_columnsPositions d rest,
        partsOf_column column (value.partsOf_query d)]

/-- A position that may hold a query. -/
theorem Value.partsOf_query (d : Dialect) :
    (v : Value) → ∀ q, v = .query q → partsOf (q.positions d) = q.parts d
  -- The lemmas on single columns and nodes are outside the recursion, so they take this as a
  -- hypothesis instead of calling it on a query of theirs.
  | .query q => fun r hr => by
      cases hr
      exact Query.partsOf_positions d q
  | .null | .bool _ | .int _ | .float _ | .text _ | .bytes _ | .list _ | .tuple _ | .stream _
  | .map _ | .typed .. | .out .. | .expr _ | .hash _ | .cond .. | .item _ | .ref _ | .join _
  | .order _ | .branch _ | .direction _ | .isolation _ | .columnType _ => fun _ hr => by cases hr

theorem partsOf_node (d : Dialect) :
    (op : Operator) → (operands : List Value) →
      partsOf (nodePositions d op operands) = nodeParts d op operands
  | .and, v :: rest | .or, v :: rest => by
      simp only [nodePositions, nodeParts, partsOf_append, v.partsOf_condition d,
        partsOf_operands d rest]
  | .not, [operand] => operand.partsOf_condition d
  | .between _, [column, low, high] => by
      simp [nodePositions, nodeParts, Position.parts, Role.parts]
  | .membership _, [column, values] => by
      rw [nodePositions, nodeParts]
      split
      · rfl
      · exact partsOf_amongPositions column (values.partsOf_query d)
  | .like _ _ _, column :: values :: rest => partsOf_likePositions d column values _
  | .existence negated, [value] => partsOf_existence negated (value.partsOf_query d)
  | .compare _, [column, value] => by
      rw [nodePositions, nodeParts, partsOf_append, partsOf_columnPositions,
        partsOf_comparedPositions (value.partsOf_query d)]
  | .and, [] | .or, [] | .not, [] | .not, _ :: _ :: _ | .between _, [] | .between _, [_]
  | .between _, [_, _] | .between _, _ :: _ :: _ :: _ :: _ | .membership _, []
  | .membership _, [_] | .membership _, _ :: _ :: _ :: _ | .like _ _ _, [] | .like _ _ _, [_]
  | .existence _, [] | .compare _, [] | .compare _, [_] | .compare _, _ :: _ :: _ :: _ => rfl
  | .existence _, value :: _ :: _ => by cases value <;> rfl

theorem partsOf_operands (d : Dialect) :
    (operands : List Value) → partsOf (operandsPositions d operands) = operandsParts d operands
  | [] => rfl
  | v :: rest => by
      rw [operandsPositions, operandsParts, partsOf_append, v.partsOf_condition d,
        partsOf_operands d rest]

theorem Query.partsOf_positions (d : Dialect) :
    (q : Query) → partsOf (q.positions d) = q.parts d
  | ⟨items, distinct, option, sources, joins, filter, grouping, groupFilter, ordering, limit,
      offset, branches, params⟩ => by
      have hitems := partsOf_items d items
      have hsources := partsOf_sources d sources
      have hjoins := partsOf_joins d joins
      have hfilter := filter.partsOf_condition d
      have hgroupFilter := groupFilter.partsOf_condition d
      have hbranches := partsOf_branches d branches
      simp only [Query.positions, Query.parts, partsOf_cons, partsOf_append, partsOf_barePositions,
        partsOf_flatMap, partsOf_columnPositions, hitems, hsources, hjoins, hfilter, hgroupFilter,
        hbranches, Position.parts]
      rfl

theorem partsOf_items (d : Dialect) :
    (items : List SelectItem) → partsOf (itemsPositions d items) = itemsParts d items
  | [] => rfl
  | ⟨expr, alias?⟩ :: rest => by
      have hitem : TableRef.parts d ⟨expr, alias?⟩ = SelectItem.parts d ⟨expr, alias?⟩ := by
        cases expr <;> rfl
      rw [itemsPositions, itemsParts, partsOf_append, partsOf_items d rest,
        partsOf_sourcePositions (expr.partsOf_query d) alias?, hitem]

theorem partsOf_sources (d : Dialect) :
    (sources : List TableRef) → partsOf (sourcesPositions d sources) = sourcesParts d sources
  | [] => rfl
  | ⟨source, alias?⟩ :: rest => by
      rw [sourcesPositions, sourcesParts, partsOf_append, partsOf_sources d rest,
        partsOf_sourcePositions (source.partsOf_query d) alias?]

theorem partsOf_joins (d : Dialect) :
    (joins : List Join) → partsOf (joinsPositions d joins) = joinsParts d joins
  | [] => rfl
  | ⟨_, ⟨source, alias?⟩, on⟩ :: rest => by
      rw [joinsPositions, joinsParts, partsOf_append, partsOf_append, partsOf_joins d rest,
        on.partsOf_condition d, partsOf_sourcePositions (source.partsOf_query d) alias?]

theorem partsOf_branches (d : Dialect) :
    (branches : List UnionBranch) →
      partsOf (branchesPositions d branches) = branchesParts d branches
  | [] => rfl
  | ⟨query, _⟩ :: rest => by
      rw [branchesPositions, branchesParts, partsOf_append, partsOf_branches d rest,
        partsOf_branchPositions (query.partsOf_query d)]

end

/-! ### Statements -/

theorem partsOf_insertedPositions (d : Dialect) (info : Option Table) (column : String)
    (v : Value) :
    partsOf (insertedPositions d info column v)
      = insertedParts d info column (d.normalizeValue info column v) := by
  cases v with
  | query q =>
      rw [normalizeValue_of_not_isBound rfl]
      exact Query.partsOf_positions d q
  | _ => exact List.append_nil _

theorem partsOf_insertPositions (c : Compiler) (table : String) (columns : Value) :
    partsOf (insertPositions c table columns) = insertParts c table columns := by
  rcases columns.query_or_not with ⟨q, rfl⟩ | hquery
  · exact Query.partsOf_positions c.dialect q
  · rw [insertPositions, insertParts]
    · cases columns.toEntries with
      | error e => rfl
      | ok row =>
          simp only [partsOf_flatMap, partsOf_insertedPositions, Dialect.normalizeRow_eq_map,
            List.flatMap_map]
    · exact hquery
    · exact hquery

theorem partsOf_updatePositions (c : Compiler) (table : String) (columns : Value) :
    partsOf (updatePositions c table columns) = updateParts c table columns := by
  rw [updatePositions, updateParts]
  cases columns.toEntries with
  | error e => rfl
  | ok row =>
      simp only [partsOf, Dialect.normalizeRow_eq_map, List.flatMap_map]
      rfl

theorem partsOf_returningPositions (d : Dialect) (info : Option Table) :
    partsOf (returningPositions d info) = returningParts d info := by
  unfold returningPositions returningParts
  cases d.backend with
  | oracle =>
      cases info with
      | none => rfl
      | some table => simp [partsOf, List.flatMap_map, Position.parts]
  | _ => rfl

/-- The parts of a statement are those of its positions. -/
theorem Statement.partsOf_positions (c : Compiler) (s : Statement) :
    partsOf (s.positions c) = s.parts c := by
  cases s with
  | query q => exact Query.partsOf_positions c.dialect q
  | condition v => exact v.partsOf_condition c.dialect
  | insert table columns => exact partsOf_insertPositions c table columns
  | insertReturning table columns =>
      rw [positions, parts, partsOf_append, partsOf_insertPositions, partsOf_returningPositions]
  | update table columns filter =>
      rw [positions, parts, partsOf_append, partsOf_updatePositions,
        filter.partsOf_condition c.dialect]
  | delete table filter => exact filter.partsOf_condition c.dialect

/-! ### What becomes of expressions and queries -/

/-- An expression or a query is none of the values that are bound everywhere. -/
theorem ne_of_isBound {v w : Value} (hv : v.isBound = false) (hw : w.isBound = true) : v ≠ w := by
  rintro rfl
  rw [hv] at hw
  cases hw

theorem isBound_castText {v : Value} (h : v.isBound = true) : (castText v).isBound = true := by
  unfold castText
  split
  · exact h
  · rfl

theorem isBound_castInteger {v : Value} (h : v.isBound = true) :
    (castInteger v).isBound = true := by
  unfold castInteger
  split
  · rfl
  · split
    · split
      · rfl
      · exact h
    · exact h

theorem isBound_castFractional {v : Value} (h : v.isBound = true) :
    (castFractional v).isBound = true := by
  unfold castFractional
  split
  · rfl
  · split
    · rfl
    · exact h

theorem isBound_castBoolean (v : Value) : (castBoolean v).isBound = true := by
  unfold castBoolean
  cases v.text? <;> rfl

/-- A cast gives a value to bind for one. -/
theorem isBound_cast {v : Value} (h : v.isBound = true) (column : Column) :
    (column.cast v).isBound = true := by
  have htext := isBound_castText h
  have hinteger := isBound_castInteger h
  have hfractional := isBound_castFractional h
  have hboolean := isBound_castBoolean v
  have hnull : Value.null.isBound = true := rfl
  unfold Column.cast
  split_ifs <;> assumption

theorem isBound_castFor {v : Value} (h : v.isBound = true) (info : Option Table)
    (column : String) : (Compiler.castFor info column v).isBound = true := by
  unfold Compiler.castFor
  split
  · exact h
  · exact isBound_cast h _
  · exact h

/-- No cast touches a query. -/
theorem castFor_query (info : Option Table) (column : String) (q : Query) :
    Compiler.castFor info column (.query q) = .query q := by
  unfold Compiler.castFor
  cases info.bind (·.column? column) <;> rfl

/-- What is bound for a pattern is the value or a text. -/
theorem patternValue_cases (escape v : Value) :
    patternValue escape v = v ∨ ∃ s, patternValue escape v = .text s := by
  unfold patternValue
  split
  · cases escapeBy escape v.shown with
    | error e => exact .inl rfl
    | ok s => exact .inr ⟨_, rfl⟩
  · exact .inl rfl

theorem insertedParts_of_isBound {v : Value} (h : v.isBound = true) (d : Dialect)
    (info : Option Table) (column : String) :
    insertedParts d info column v = [.bound (Compiler.castFor info column v)] := by
  cases v with
  | expr e => cases h
  | query q => cases h
  | _ => rfl

theorem assignmentParts_of_isBound {v : Value} (h : v.isBound = true) (info : Option Table)
    (column : String) :
    assignmentParts info column v = [.bound (Compiler.castFor info column v)] := by
  cases v with
  | expr e => cases h
  | query q => cases h
  | _ => rfl

theorem patternParts_of_isBound {v : Value} (h : v.isBound = true) (escape : Value) :
    patternParts escape v = [.bound (patternValue escape v)] := by
  cases v with
  | expr e => cases h
  | query q => cases h
  | _ => rfl

namespace Role

/-- Any other value is bound, perhaps in another form, or it is nothing and written as such. -/
theorem parts_of_isBound (role : Role) {v : Value} (h : v.isBound = true) :
    role.parts v = [] ∨ ∃ w, role.parts v = [.bound w] ∧ w.isBound = true := by
  have hnormal (d : Dialect) (info : Option Table) (column : String) :=
    isBound_normalizeValue h d info column
  cases role with
  | compared | member | entry =>
      cases v with
      | null => exact .inl rfl
      | expr e => cases h
      | query q => cases h
      | _ => exact .inr ⟨_, rfl, rfl⟩
  | between =>
      cases v with
      | expr e => cases h
      | query q => cases h
      | _ => exact .inr ⟨_, rfl, rfl⟩
  | pattern escape =>
      refine .inr ⟨_, patternParts_of_isBound h escape, ?_⟩
      rcases patternValue_cases escape v with hsame | ⟨s, htext⟩
      · rwa [hsame]
      · rw [htext]
        rfl
  | inserted d info column =>
      have hparts : (Role.inserted d info column).parts v
          = insertedParts d info column (d.normalizeValue info column v) := by
        cases v with
        | query q => cases h
        | _ => rfl
      rw [hparts, insertedParts_of_isBound (hnormal d info column)]
      exact .inr ⟨_, rfl, isBound_castFor (hnormal d info column) info column⟩
  | assigned d info column =>
      have hparts := assignmentParts_of_isBound (hnormal d info column) info column
      exact .inr ⟨_, hparts, isBound_castFor (hnormal d info column) info column⟩

/-- A raw expression is put into the text in each position that does not bind it. -/
theorem parts_of_expr (role : Role) (e : Expression) :
    role.parts (.expr e) = if role.binds (.expr e) then [.bound (.expr e)] else [.raw e] := by
  cases role with
  | inserted d info column =>
      show insertedParts d info column (d.normalizeValue info column (.expr e)) = _
      rw [normalizeValue_of_not_isBound rfl]
      rfl
  | assigned d info column =>
      show assignmentParts info column (d.normalizeValue info column (.expr e)) = _
      rw [normalizeValue_of_not_isBound rfl]
      rfl
  | _ => rfl

/-- A query is bound as it is in each position that binds it. Elsewhere it is compiled, or it is
bound as text. -/
theorem parts_of_query (role : Role) (q : Query) :
    if role.binds (.query q) then role.parts (.query q) = [.bound (.query q)]
    else role.parts (.query q) = [] ∨
      ∃ w, role.parts (.query q) = [.bound w] ∧ w.isBound = true := by
  cases role with
  | compared => exact .inl rfl
  | inserted d info column => exact .inl rfl
  | member | entry | between => exact rfl
  | assigned d info column =>
      show assignmentParts info column (d.normalizeValue info column (.query q)) = _
      rw [normalizeValue_of_not_isBound rfl]
      show [Part.bound (Compiler.castFor info column (.query q))] = _
      rw [castFor_query]
  | pattern escape =>
      rcases patternValue_cases escape (.query q) with hsame | ⟨s, htext⟩
      · simp [binds, parts, patternParts, hsame, Value.isBound]
      · simp [binds, parts, patternParts, htext, Value.isBound]

/-- A raw expression or a query is stored in exactly those positions that bind it. -/
theorem bound_mem_iff (role : Role) {v w : Value} (hw : w.isBound = false) :
    Part.bound w ∈ role.parts v ↔ v = w ∧ role.binds v = true := by
  rcases v.expr_or_query_or_bound with ⟨e, rfl⟩ | ⟨q, rfl⟩ | hbound
  -- An expression is bound or put into the text, and the latter stores nothing.
  · rw [parts_of_expr]
    cases role.binds (.expr e) <;> simp [eq_comm]
  · have hparts := role.parts_of_query q
    cases hbinds : role.binds (.query q) with
    | true =>
        rw [hbinds, if_pos rfl] at hparts
        simp [hparts, eq_comm]
    | false =>
        rw [hbinds, if_neg Bool.false_ne_true] at hparts
        rcases hparts with hparts | ⟨w', hparts, hw'⟩
        · simp [hparts]
        · -- What is bound in place of the query is another value.
          have hne : w ≠ w' := ne_of_isBound hw hw'
          simp [hparts, hne]
  · -- Any other value is stored as one that is no expression and no query either.
    have hv : w ≠ v := ne_of_isBound hw hbound
    rcases role.parts_of_isBound hbound with hparts | ⟨w', hparts, hw'⟩
    · simp [hparts, hv.symm]
    · have hne : w ≠ w' := ne_of_isBound hw hw'
      simp [hparts, hne, hv.symm]

end Role

end SqlLoom
