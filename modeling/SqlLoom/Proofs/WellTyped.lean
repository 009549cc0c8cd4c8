import SqlLoom.Proofs.Shorthand

/-!
# `SqlLoom.Proofs.WellTyped`: errors that are the compiler's own

The compiler checks how many operands an operator has and which of them are there. It does not
check of what kind they are: a column to look up in a mapping that is no text, an escape operand
that is no mapping, or a grouping column that is a number fail with whatever error they run into.
`Value.isTyped` says that a condition has no such operand, at any depth and in the sub-queries that
are compiled with it.

* `Succeeds` and `Blames` say of a computation that it gives something, and that it gives something
  or fails with an error of building. Both go through a sequence of steps.
* `membershipFragment_succeeds`, `likeFragment_succeeds`, `paged_succeeds`: on typed operands the
  parts of a statement that check nothing do not fail.
* `Value.conditionFragment_blames`: so a typed condition fails with errors of building only, by
  recursion over conditions and queries.
-/

set_option autoImplicit false

namespace SqlLoom

open Fragment

variable {α β : Type}

/-! ### How a computation may fail -/

/-- The computation gives something. -/
def Succeeds (x : Except Error α) : Prop := ∃ a, x = .ok a

/-- The computation fails with errors of building only. -/
def Blames (x : Except Error α) : Prop := ∀ e, x = .error e → e.IsBuild

namespace Succeeds

theorem ok (a : α) : Succeeds (.ok a) := ⟨a, rfl⟩

theorem pure (a : α) : Succeeds (Pure.pure a) := ⟨a, rfl⟩

theorem bind {x : Except Error α} {k : α → Except Error β} (hx : Succeeds x)
    (hk : ∀ a, Succeeds (k a)) : Succeeds (x >>= k) := by
  obtain ⟨a, rfl⟩ := hx
  exact hk a

theorem mapM {f : α → Except Error β} {as : List α} (h : ∀ a ∈ as, Succeeds (f a)) :
    Succeeds (as.mapM f) := by
  induction as with
  | nil => exact .pure []
  | cons a as ih =>
      rw [List.mapM_cons]
      refine (h a List.mem_cons_self).bind fun b => ?_
      exact (ih fun c hc => h c (List.mem_cons_of_mem _ hc)).bind fun bs => .pure (b :: bs)

theorem blames {x : Except Error α} (h : Succeeds x) : Blames x := by
  obtain ⟨a, rfl⟩ := h
  intro e he
  cases he

end Succeeds

namespace Blames

theorem ok (a : α) : Blames (.ok a) := (Succeeds.ok a).blames

theorem pure (a : α) : Blames (Pure.pure a) := ok a

theorem build (cause : BuildError) : Blames (buildError cause : Except Error α) := by
  intro e he
  cases he
  exact ⟨cause, rfl⟩

theorem bind {x : Except Error α} {k : α → Except Error β} (hx : Blames x)
    (hk : ∀ a, Blames (k a)) : Blames (x >>= k) := by
  cases x with
  | ok a => exact hk a
  | error e =>
      intro e' he
      cases he
      exact hx e rfl

end Blames

/-! ### Typed operands -/

/-- The value names a column or is an expression in the place of one. -/
def Value.isColumn : Value → Bool
  | .expr _ => true
  | v => v.text?.isSome

/-- The value is an escape operand: nothing, something that counts as false, or a mapping to
text. -/
def Value.isEscape : Value → Bool
  | .null => true
  | .map entries => entries.all fun e => e.2.text?.isSome
  | v => !v.isTruthy

mutual

/-- The condition has typed operands throughout. -/
def Value.isTyped : Value → Bool
  | .map columns => columnsTyped columns
  | .hash columns => columnsTyped columns
  | .list items => shorthandTyped items
  | .tuple items => shorthandTyped items
  | .cond op operands => nodeTyped op operands
  | _ => true

/-- The operands of a shorthand list are typed. -/
def shorthandTyped : List Value → Bool
  | [] => true
  | head :: operands =>
    match head.headOperator with
    | .ok op => nodeTyped op operands
    | .error _ => true

/-- The values of a hash are typed. -/
def columnsTyped : List (String × Value) → Bool
  | [] => true
  | (_, value) :: rest => value.isTypedQuery && columnsTyped rest

/-- The value is a typed query, or no query at all. -/
def Value.isTypedQuery : Value → Bool
  | .query q => q.isTyped
  | _ => true

/-- The operands of an operator are typed. The columns of a membership test are looked up in
mappings, and have to be text. -/
def nodeTyped : Operator → List Value → Bool
  | .not, v :: rest => v.isTyped && operandsTyped rest
  | .and, v :: rest => v.isTyped && operandsTyped rest
  | .or, v :: rest => v.isTyped && operandsTyped rest
  | .membership _, [column, values] =>
    column.asColumns.all (·.text?.isSome) && values.isTypedQuery
  | .like _ _ _, [_, _, escape] => escape.isEscape
  | .existence _, [value] => value.isTypedQuery
  | .compare _, [_, value] => value.isTypedQuery
  | _, _ => true

/-- The conditions are typed. -/
def operandsTyped : List Value → Bool
  | [] => true
  | v :: rest => v.isTyped && operandsTyped rest

/-- The query has typed conditions, and columns to group and to order by. -/
def Query.isTyped : Query → Bool
  | ⟨items, _, _, sources, joins, filter, grouping, groupFilter, ordering, _, _, branches, _⟩ =>
    itemsTyped items && sourcesTyped sources && joinsTyped joins && filter.isTyped
      && grouping.all Value.isColumn && groupFilter.isTyped
      && ordering.all (fun key => key.expr.isColumn) && branchesTyped branches

/-- The queries in a select list are typed. -/
def itemsTyped : List SelectItem → Bool
  | [] => true
  | ⟨expr, _⟩ :: rest => expr.isTypedQuery && itemsTyped rest

/-- The queries among sources are typed. -/
def sourcesTyped : List TableRef → Bool
  | [] => true
  | ⟨source, _⟩ :: rest => source.isTypedQuery && sourcesTyped rest

/-- The queries and the conditions of joins are typed. -/
def joinsTyped : List Join → Bool
  | [] => true
  | ⟨_, ⟨source, _⟩, on⟩ :: rest => source.isTypedQuery && on.isTyped && joinsTyped rest

/-- The united queries are typed. -/
def branchesTyped : List UnionBranch → Bool
  | [] => true
  | ⟨query, _⟩ :: rest => query.isTypedQuery && branchesTyped rest

end

variable {d : Dialect}

/-! ### Membership -/

theorem entryOf_succeeds {column : Value} (hcolumn : column.text?.isSome = true)
    (row : Entries Value) : Succeeds (entryOf column row) := by
  obtain ⟨name, hname⟩ := Option.isSome_iff_exists.mp hcolumn
  rw [entryOf, hname]
  exact .ok _

theorem memberFragment_succeeds {column : Value} (hcolumn : column.text?.isSome = true)
    (v : Value) : Succeeds (memberFragment column v) := by
  cases v with
  | map row => exact (entryOf_succeeds hcolumn row).bind fun _ => .pure _
  | _ => exact .ok _

theorem singleMembership_succeeds (d : Dialect) (negated : Bool) {column : Value}
    (hcolumn : column.text?.isSome = true) (values : List Value) :
    Succeeds (singleMembership d negated column values) := by
  have hmembers : Succeeds (values.mapM (memberFragment column)) :=
    .mapM fun v _ => memberFragment_succeeds hcolumn v
  refine hmembers.bind fun members => ?_
  match members with
  | [] | [_] | _ :: _ :: _ => exact .pure _

theorem rowEntry_succeeds (row : Value) (i : Nat) {column : Value}
    (hcolumn : column.text?.isSome = true) : Succeeds (rowEntry row i column) := by
  cases row with
  | map entries => exact entryOf_succeeds hcolumn entries
  | _ => exact .ok _

theorem rowFragments_succeeds (row : Value) {columns : List Value}
    (hcolumns : ∀ c ∈ columns, c.text?.isSome = true) (i : Nat) :
    Succeeds (rowFragments row i columns) := by
  induction columns generalizing i with
  | nil => exact .ok []
  | cons column rest ih =>
      rw [rowFragments]
      refine (rowEntry_succeeds row i (hcolumns _ List.mem_cons_self)).bind fun _ => ?_
      refine (ih (fun c hc => hcolumns c (List.mem_cons_of_mem _ hc)) (i + 1)).bind fun _ => ?_
      exact .pure _

theorem rowMembership_succeeds (d : Dialect) (negated : Bool) {columns : List Value}
    (hcolumns : ∀ c ∈ columns, c.text?.isSome = true) (rows : List Value) :
    Succeeds (rowMembership d negated columns rows) := by
  refine Succeeds.bind (.mapM fun row _ => ?_) fun groups => ?_
  · exact (rowFragments_succeeds row hcolumns 0).bind fun _ => .pure _
  · split
    · exact .pure _
    · exact .pure _

/-- A membership test on named columns does not fail, however long the list is. Only lists of which
no part may hold a value cannot be split. -/
theorem membershipFragment_succeeds (hd : d.maxInList? ≠ some 0) (negated : Bool) {column : Value}
    (hcolumns : ∀ c ∈ column.asColumns, c.text?.isSome = true) (values : List Value) :
    Succeeds (membershipFragment d negated column values) := by
  have hchunk (values : List Value) : Succeeds (chunkMembership d negated column values) := by
    rw [chunkMembership]
    split
    · rename_i one hone
      exact singleMembership_succeeds d negated (hcolumns one (hone ▸ List.mem_singleton_self one))
        values
    · exact rowMembership_succeeds d negated hcolumns values
  have hsplit : Succeeds (splitMembers d values) := by
    rw [splitMembers]
    split
    · exact .ok _
    · rename_i ceiling hceiling
      split
      · exact .ok _
      · split
        · -- A step of zero is the one by which a list cannot be gone through.
          rename_i hzero
          rw [hzero] at hceiling
          exact absurd hceiling hd
        · exact .ok _
  refine hsplit.bind fun parts? => ?_
  cases parts? with
  | none => exact hchunk values
  | some parts => exact (Succeeds.mapM fun part _ => hchunk part).bind fun _ => .pure _

/-! ### Patterns -/

/-- A typed escape operand that counts as true is a mapping to text, which escapes any text. -/
theorem escapeBy_succeeds {escape : Value} (hescape : escape.isEscape = true)
    (htruthy : escape.isTruthy = true) (s : String) : Succeeds (escapeBy escape s) := by
  cases escape with
  | map entries =>
      have htexts : (entries.all fun e => (escapeText? e.2).isSome
          || !Text.occurs e.1.toList s.toList) = true := by
        refine List.all_eq_true.mpr fun e he => ?_
        have htext : e.2.text?.isSome = true := List.all_eq_true.mp hescape e he
        rw [Bool.or_eq_true]
        left
        cases hvalue : e.2 with
        | null => rfl
        | _ => rwa [hvalue] at htext
      rw [escapeBy, if_pos htexts]
      exact .ok _
  | null => cases htruthy
  | _ => simp [Value.isEscape, htruthy] at hescape

theorem patternFragment_succeeds {escape : Value} (hescape : escape.isEscape = true) (v : Value) :
    Succeeds (patternFragment escape v) := by
  cases v with
  | expr e => exact .ok _
  | _ =>
      simp only [patternFragment]
      split
      · rename_i htruthy
        exact (escapeBy_succeeds hescape htruthy _).bind fun _ => .pure _
      · exact .ok _

/-- The mapping of a dialect is an escape operand. -/
theorem isEscape_effectiveEscape (d : Dialect) {escape : Value} (hescape : escape.isEscape = true) :
    (effectiveEscape d escape).isEscape = true := by
  cases escape with
  | null =>
      show ((d.likeEscapes.map fun e => (e.1, Value.text e.2)).all fun e => e.2.text?.isSome) = true
      rw [List.all_map]
      exact List.all_eq_true.mpr fun _ _ => rfl
  | _ => exact hescape

/-- A pattern test with a typed escape operand does not fail. -/
theorem likeFragment_succeeds (d : Dialect) (any negated caseless : Bool) (column values : Value)
    {escape : Value} (hescape : escape.isEscape = true) :
    Succeeds (likeFragment d any negated caseless column values escape) := by
  have heffective := isEscape_effectiveEscape d hescape
  rw [likeFragment]
  split
  · exact .pure _
  · -- What can be gone through only once is no escape operand.
    have hserves : servesAll (effectiveEscape d escape) values.members = true := by
      cases hvalue : effectiveEscape d escape with
      | stream _ =>
          rw [hvalue] at heffective
          cases heffective
      | _ => rfl
    simp only [hserves]
    exact (Succeeds.mapM fun v _ => patternFragment_succeeds heffective v).bind fun _ => .pure _

/-! ### Grouping, ordering and paging -/

/-- A column that is no expression is named. -/
theorem columnNamed_succeeds (d : Dialect) {v : Value} (h : v.isColumn = true)
    (hexpr : ∀ e, v = .expr e → False) : Succeeds (d.columnNamed v) := by
  rw [Value.isColumn] at h
  · obtain ⟨s, hs⟩ := Option.isSome_iff_exists.mp h
    rw [Dialect.columnNamed, Dialect.named, hs]
    exact .ok _
  · exact hexpr

theorem groupByClause_succeeds (d : Dialect) {columns : List Value}
    (h : columns.all Value.isColumn = true) : Succeeds (groupByClause d columns) := by
  rw [groupByClause]
  split
  · exact .pure _
  · refine Succeeds.bind (.mapM fun v hv => ?_) fun _ => .pure _
    have hcolumn : v.isColumn = true := List.all_eq_true.mp h v hv
    fun_cases groupingFragment d v with
    | case1 e => exact .ok _
    | case2 v hexpr => exact (columnNamed_succeeds d hcolumn hexpr).bind fun _ => .pure _

theorem paged_succeeds (d : Dialect) (sql : Fragment) {keys : List OrderKey}
    (h : (keys.all fun key => key.expr.isColumn) = true) (limit offset : Value) :
    Succeeds (d.paged sql keys limit offset) := by
  have horder : Succeeds (d.orderClause keys) := by
    rw [Dialect.orderClause]
    split
    · exact .pure _
    · refine Succeeds.bind (.mapM fun key hkey => ?_) fun _ => .pure _
      have hcolumn : key.expr.isColumn = true := List.all_eq_true.mp h key hkey
      rw [Dialect.orderKeyFragment]
      split
      · exact .ok _
      · rename_i hexpr
        exact (columnNamed_succeeds d hcolumn hexpr).bind fun _ => .pure _
  refine horder.bind fun order => ?_
  dsimp only
  split
  · split
    · exact .pure _
    · exact .pure _
  · exact .pure _

/-! ### Operators -/

/-- A query that stands as this value blames the description only. -/
def QueryBlames (d : Dialect) (v : Value) : Prop := ∀ q, v = .query q → Blames (q.fragment d)

theorem columnTest_blames (hd : d.maxInList? ≠ some 0) (subqueries : Bool) (column : String)
    {value : Value} (h : QueryBlames d value) : Blames (columnTest d subqueries column value) := by
  fun_cases columnTest d subqueries column value with
  | case1 => exact .pure _
  | case2 q hsub => exact (h q rfl).bind fun _ => .pure _
  | case3 q hsub => exact .build _
  | case4 v hnull hquery hcollection =>
      have hcolumn : ∀ c ∈ (Value.text column).asColumns, c.text?.isSome = true := by
        intro c hc
        obtain rfl := List.mem_singleton.mp hc
        rfl
      exact (membershipFragment_succeeds hd false hcolumn _).blames
  | case5 => exact .pure _

theorem betweenFragment_blames (d : Dialect) (negated : Bool) (operands : List Value) :
    Blames (betweenFragment d negated operands) := by
  fun_cases betweenFragment d negated operands with
  | case1 => exact .build _
  | case2 => exact .ok _
  | case3 => exact .build _

theorem patternTest_blames (d : Dialect) (any negated caseless : Bool) {operands : List Value}
    (h : nodeTyped (.like any negated caseless) operands = true) :
    Blames (patternTest d any negated caseless operands) := by
  fun_cases patternTest d any negated caseless operands with
  | case1 => exact .build _
  | case2 column values hnull =>
      exact (likeFragment_succeeds d any negated caseless column values rfl).blames
  | case3 column values hnull escape =>
      have hescape : escape.isEscape = true := by rwa [nodeTyped] at h
      exact (likeFragment_succeeds d any negated caseless column values hescape).blames
  | case4 => exact .build _
  | case5 => exact .build _

theorem membershipNode_blames (hd : d.maxInList? ≠ some 0) (subqueries negated : Bool)
    {column values : Value} (hcolumns : ∀ c ∈ column.asColumns, c.text?.isSome = true)
    (h : QueryBlames d values) :
    Blames (nodeFragment d subqueries (.membership negated) [column, values]) := by
  rcases values.query_or_not with ⟨q, rfl⟩ | hquery
  · rw [nodeFragment]
    split
    · exact .build _
    · split
      · exact .ok _
      · split
        · exact (h q rfl).bind fun _ => .pure _
        · exact .build _
  · rw [nodeFragment]
    · split
      · exact .build _
      · split
        · exact .ok _
        · exact (membershipFragment_succeeds hd negated hcolumns values.members).blames
    · exact hquery

theorem existenceNode_blames (subqueries negated : Bool) {value : Value} (h : QueryBlames d value) :
    Blames (nodeFragment d subqueries (.existence negated) [value]) := by
  cases value with
  | query q =>
      rw [nodeFragment]
      split
      · exact (h q rfl).bind fun _ => .pure _
      · exact .build _
  | _ => exact .build _

theorem compareNode_blames (subqueries : Bool) (symbol : String) (column : Value) {value : Value}
    (h : QueryBlames d value) :
    Blames (nodeFragment d subqueries (.compare symbol) [column, value]) := by
  rcases value.query_or_not with ⟨q, rfl⟩ | hquery
  · rw [nodeFragment]
    split
    · exact (h q rfl).bind fun _ => .pure _
    · exact .build _
  · rw [nodeFragment]
    · exact .ok _
    · exact hquery

theorem SelectItem.fragment_blames (item : SelectItem) (h : QueryBlames d item.expr) :
    Blames (item.fragment d) := by
  obtain ⟨expr, alias?⟩ := item
  cases expr with
  | query q =>
      cases alias? with
      | none => exact .build _
      | some _ => exact (h q rfl).bind fun _ => .pure _
  | expr e => cases alias? <;> exact .ok _
  | _ => exact .ok _

theorem TableRef.fragment_blames (clause : String) (ref : TableRef)
    (h : QueryBlames d ref.source) : Blames (ref.fragment d clause) := by
  obtain ⟨source, alias?⟩ := ref
  cases source with
  | query q =>
      cases alias? with
      | none => exact .build _
      | some _ => exact (h q rfl).bind fun _ => .pure _
  | expr e => cases alias? <;> exact .ok _
  | _ => exact .ok _

theorem branchFragment_blames {query : Value} (h : QueryBlames d query) :
    Blames (branchFragment d query) := by
  fun_cases branchFragment d query with
  | case1 q => exact h q rfl
  | case2 => exact .pure _

/-! ### The recursion -/

mutual

/-- A typed condition fails with errors of building only. -/
theorem Value.conditionFragment_blames (hd : d.maxInList? ≠ some 0) (subqueries : Bool) :
    (v : Value) → v.isTyped = true → Blames (v.conditionFragment d subqueries)
  | .null, _ | .expr _, _ => .ok _
  | .map columns, h | .hash columns, h => by
      rw [Value.isTyped] at h
      exact (columnTests_blames hd subqueries columns h).bind fun _ => .pure _
  | .list items, h | .tuple items, h => by
      rw [Value.isTyped] at h
      exact shorthandFragment_blames hd subqueries items h
  | .cond op operands, h => by
      rw [Value.isTyped] at h
      exact nodeFragment_blames hd subqueries op operands h
  | .text _, _ | .direction _, _ | .isolation _, _ | .columnType _, _ => .ok _
  | .bool _, _ | .int _, _ | .float _, _ | .bytes _, _ | .stream _, _ | .typed .., _ | .out .., _
  | .query _, _ | .item _, _ | .ref _, _ | .join _, _ | .order _, _ | .branch _, _ => .build _

theorem shorthandFragment_blames (hd : d.maxInList? ≠ some 0) (subqueries : Bool) :
    (items : List Value) → shorthandTyped items = true →
      Blames (shorthandFragment d subqueries items)
  | [], _ => .ok _
  | head :: operands, h => by
      -- The list is read as a whole first, and then its head once more.
      have hread : Blames (nodeOfShorthand (head :: operands)) := fun e he =>
        (@nodeOfShorthand_fails d subqueries _ e he).1
      rw [shorthandFragment]
      refine hread.bind fun _ => ?_
      rw [shorthandTyped] at h
      cases hhead : head.headOperator with
      | error e =>
          intro e' he
          cases he
          exact headOperator_isBuild hhead
      | ok op =>
          rw [hhead] at h
          exact nodeFragment_blames hd subqueries op operands h

theorem columnTests_blames (hd : d.maxInList? ≠ some 0) (subqueries : Bool) :
    (columns : List (String × Value)) → columnsTyped columns = true →
      Blames (columnTests d subqueries columns)
  | [], _ => .ok _
  | (column, value) :: rest, h => by
      rw [columnsTyped, Bool.and_eq_true] at h
      rw [columnTests_cons]
      refine (columnTest_blames hd subqueries column (value.queryBlames hd h.1)).bind fun _ => ?_
      exact (columnTests_blames hd subqueries rest h.2).bind fun _ => .pure _

theorem Value.queryBlames (hd : d.maxInList? ≠ some 0) :
    (v : Value) → v.isTypedQuery = true → QueryBlames d v
  | .query q, h => fun r hr => by
      cases hr
      rw [Value.isTypedQuery] at h
      exact Query.fragment_blames hd q h
  | .null, _ | .bool _, _ | .int _, _ | .float _, _ | .text _, _ | .bytes _, _ | .list _, _
  | .tuple _, _ | .stream _, _ | .map _, _ | .typed .., _ | .out .., _ | .expr _, _ | .hash _, _
  | .cond .., _ | .item _, _ | .ref _, _ | .join _, _ | .order _, _ | .branch _, _
  | .direction _, _ | .isolation _, _ | .columnType _, _ => fun _ hr => by cases hr

theorem nodeFragment_blames (hd : d.maxInList? ≠ some 0) (subqueries : Bool) :
    (op : Operator) → (operands : List Value) → nodeTyped op operands = true →
      Blames (nodeFragment d subqueries op operands)
  | .and, [], _ | .or, [], _ => .ok _
  | .and, v :: rest, h | .or, v :: rest, h => by
      rw [nodeTyped, Bool.and_eq_true] at h
      rw [nodeFragment]
      refine (v.conditionFragment_blames hd subqueries h.1).bind fun _ => ?_
      exact (operandFragments_blames hd subqueries rest h.2).bind fun _ => .pure _
  | .not, [operand], h => by
      rw [nodeTyped, Bool.and_eq_true] at h
      rw [nodeFragment]
      exact (operand.conditionFragment_blames hd subqueries h.1).bind fun _ => .pure _
  | .between negated, operands, _ => by
      rw [nodeFragment]
      exact betweenFragment_blames d negated operands
  | .membership negated, [column, values], h => by
      rw [nodeTyped, Bool.and_eq_true] at h
      exact membershipNode_blames hd subqueries negated (List.all_eq_true.mp h.1)
        (values.queryBlames hd h.2)
  | .like any negated caseless, operands, h => by
      rw [nodeFragment]
      exact patternTest_blames d any negated caseless h
  | .existence negated, [value], h => by
      rw [nodeTyped] at h
      exact existenceNode_blames subqueries negated (value.queryBlames hd h)
  | .existence _, _ :: _ :: _, _ => by
      rw [nodeFragment]
      · exact .build _
      · exact fun q h => by cases h
  | .compare symbol, [column, value], h => by
      rw [nodeTyped] at h
      exact compareNode_blames subqueries symbol column (value.queryBlames hd h)
  | .not, [], _ | .not, _ :: _ :: _, _ | .membership _, [], _ | .membership _, [_], _
  | .membership _, _ :: _ :: _ :: _, _ | .existence _, [], _
  | .compare _, [], _ | .compare _, [_], _ | .compare _, _ :: _ :: _ :: _, _ => .build _

theorem operandFragments_blames (hd : d.maxInList? ≠ some 0) (subqueries : Bool) :
    (operands : List Value) → operandsTyped operands = true →
      Blames (operandFragments d subqueries operands)
  | [], _ => .ok _
  | v :: rest, h => by
      rw [operandsTyped, Bool.and_eq_true] at h
      refine (v.conditionFragment_blames hd subqueries h.1).bind fun _ => ?_
      exact (operandFragments_blames hd subqueries rest h.2).bind fun _ => .pure _

theorem Query.fragment_blames (hd : d.maxInList? ≠ some 0) :
    (q : Query) → q.isTyped = true → Blames (q.fragment d)
  | ⟨items, distinct, option, sources, joins, filter, grouping, groupFilter, ordering, limit,
      offset, branches, params⟩, h => by
      rw [Query.isTyped] at h
      simp only [Bool.and_eq_true] at h
      obtain ⟨⟨⟨⟨⟨⟨⟨hitems, hsources⟩, hjoins⟩, hfilter⟩, hgrouping⟩, hgroupFilter⟩, hordering⟩,
        hbranches⟩ := h
      rw [Query.fragment]
      refine (itemFragments_blames hd items hitems).bind fun _ => ?_
      refine (sourceFragments_blames hd sources hsources).bind fun _ => ?_
      refine (joinFragments_blames hd joins hjoins).bind fun _ => ?_
      refine (filter.conditionFragment_blames hd true hfilter).bind fun _ => ?_
      refine (groupByClause_succeeds d hgrouping).blames.bind fun _ => ?_
      refine (groupFilter.conditionFragment_blames hd true hgroupFilter).bind fun _ => ?_
      refine (paged_succeeds d _ hordering limit offset).blames.bind fun _ => ?_
      exact (branchFragments_blames hd branches hbranches).bind fun _ => .pure _

theorem itemFragments_blames (hd : d.maxInList? ≠ some 0) :
    (items : List SelectItem) → itemsTyped items = true → Blames (itemFragments d items)
  | [], _ => .ok _
  | ⟨expr, alias?⟩ :: rest, h => by
      rw [itemsTyped, Bool.and_eq_true] at h
      rw [itemFragments]
      refine (SelectItem.fragment_blames ⟨expr, alias?⟩ (expr.queryBlames hd h.1)).bind fun _ => ?_
      exact (itemFragments_blames hd rest h.2).bind fun _ => .pure _

theorem sourceFragments_blames (hd : d.maxInList? ≠ some 0) :
    (sources : List TableRef) → sourcesTyped sources = true → Blames (sourceFragments d sources)
  | [], _ => .ok _
  | ⟨source, alias?⟩ :: rest, h => by
      rw [sourcesTyped, Bool.and_eq_true] at h
      rw [sourceFragments]
      refine (TableRef.fragment_blames "FROM" ⟨source, alias?⟩
        (source.queryBlames hd h.1)).bind fun _ => ?_
      exact (sourceFragments_blames hd rest h.2).bind fun _ => .pure _

theorem joinFragments_blames (hd : d.maxInList? ≠ some 0) :
    (joins : List Join) → joinsTyped joins = true → Blames (joinFragments d joins)
  | [], _ => .ok _
  | ⟨kind, ⟨source, alias?⟩, on⟩ :: rest, h => by
      rw [joinsTyped, Bool.and_eq_true, Bool.and_eq_true] at h
      rw [joinFragments]
      split
      · exact .build _
      · refine (TableRef.fragment_blames "JOIN" ⟨source, alias?⟩
          (source.queryBlames hd h.1.1)).bind fun _ => ?_
        refine (on.conditionFragment_blames hd true h.1.2).bind fun _ => ?_
        exact (joinFragments_blames hd rest h.2).bind fun _ => .pure _

theorem branchFragments_blames (hd : d.maxInList? ≠ some 0) :
    (branches : List UnionBranch) → branchesTyped branches = true →
      Blames (branchFragments d branches)
  | [], _ => .ok _
  | ⟨query, all⟩ :: rest, h => by
      rw [branchesTyped, Bool.and_eq_true] at h
      rw [branchFragments_cons]
      refine (branchFragment_blames (query.queryBlames hd h.1)).bind fun _ => ?_
      exact (branchFragments_blames hd rest h.2).bind fun _ => .pure _

end

end SqlLoom
