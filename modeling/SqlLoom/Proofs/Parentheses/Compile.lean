import SqlLoom.Proofs.Compile
import SqlLoom.Proofs.Fragment.Paired
import SqlLoom.Proofs.Texts

/-!
# `SqlLoom.Proofs.Parentheses.Compile`: balanced descriptions compile to balanced text

Where every text of a condition or a query is balanced, so are the characters of its fragment. There
is one theorem for each function of the compiler, as in `SqlLoom.Proofs.Compile`; those of the
functions that call each other are one mutual induction.

* `Value.conditionFragment_paired`: conditions in any spelling.
* `Query.fragment_paired`: queries, with their paging and the queries united with them.
-/

set_option autoImplicit false

namespace SqlLoom

open Fragment

variable {d : Dialect}

/-- What `x` gives for each member of a list is paired. -/
theorem Gives.mapM_paired {α : Type} {x : α → Except Error Fragment} {as : List α}
    (h : ∀ a ∈ as, Gives (x a) Paired) : Gives (as.mapM x) fun fs => ∀ f ∈ fs, f.Paired := by
  refine (Gives.mapM h).imp fun fs hfs => ?_
  clear h
  induction hfs with
  | nil => exact fun f hf => absurd hf List.not_mem_nil
  | cons hf _ ih => exact List.forall_mem_cons.mpr ⟨hf, ih⟩

theorem balanced_comma : Text.Balanced ", ".toList := by decide

theorem balanced_space : Text.Balanced " ".toList := by decide

/-- A text between spaces. -/
theorem paired_words {words : String} (h : Text.Balanced words.toList) :
    (ofText (" " ++ words ++ " ")).Paired := by
  refine paired_ofText ?_
  rw [String.toList_append, String.toList_append]
  exact (balanced_space.append h).append balanced_space

/-! ### Columns and values -/

theorem columnFragment_paired (hd : d.Level) {v : Value} (h : Text.Balanced v.shown.toList) :
    (columnFragment d v).Paired := by
  cases v with
  | expr e => exact paired_ofExpression h
  | _ => exact paired_ofText (hd.quoteColumn h)

/-- The names of several columns in parentheses. -/
theorem columnNames_paired (hd : d.Level) {columns : List Value}
    (h : AllBalanced (columns.map Value.shown)) :
    (Fragment.join ", " (columns.map (columnFragment d))).parens.Paired := by
  refine (Paired.join balanced_comma fun f hf => ?_).parens
  obtain ⟨v, hv, rfl⟩ := List.mem_map.mp hf
  exact columnFragment_paired hd (h _ (List.mem_map_of_mem hv))

theorem boundFragment_paired {v : Value} (h : AllBalanced v.expressionTexts) :
    (boundFragment v).Paired := by
  cases v with
  | expr e => exact paired_ofExpression (h e.text (List.mem_singleton_self _))
  | _ => exact paired_bound _

theorem boundOrNull_paired {v : Value} (h : AllBalanced v.expressionTexts) :
    (boundOrNull v).Paired := by
  cases v with
  | null => exact paired_ofText (by decide)
  | expr e => exact paired_ofExpression (h e.text (List.mem_singleton_self _))
  | _ => exact paired_bound _

/-- A value by itself has no more texts than as the member of a list. -/
theorem Value.allBalanced_expressionTexts {v : Value} (h : AllBalanced (memberTexts v)) :
    AllBalanced v.expressionTexts := by
  cases v with
  | map row => exact allBalanced_nil
  | _ => exact h

theorem AllBalanced.member {values : List Value} (h : AllBalanced (values.flatMap memberTexts))
    {v : Value} (hv : v ∈ values) : AllBalanced (memberTexts v) :=
  fun s hs => h s (List.mem_flatMap.mpr ⟨v, hv, hs⟩)

/-! ### Membership -/

theorem nothingMatches_paired (negated : Bool) : (nothingMatches negated).Paired := by
  cases negated with
  | true => exact paired_empty
  | false => exact paired_ofText (by decide)

theorem membershipWords_paired (negated : Bool) : (membershipWords negated).Paired := by
  cases negated <;> exact paired_words (by decide)

/-- The entry of a row is one of its values, or null. -/
theorem entryOf_expressionTexts {column entry : Value} {row : Entries Value}
    (hentry : entryOf column row = .ok entry) (h : AllBalanced (memberTexts (.map row))) :
    AllBalanced entry.expressionTexts := by
  have hnull : AllBalanced Value.null.expressionTexts := allBalanced_nil
  rw [entryOf] at hentry
  split at hentry
  · rename_i name _
    cases hentry
    cases hvalue : row.get? name with
    | none => exact hnull
    | some v =>
        have hentry := Entries.mem_of_get? hvalue
        exact fun s hs => h s (List.mem_flatMap.mpr ⟨_, hentry, hs⟩)
  · split at hentry
    · cases hentry
      exact hnull
    · cases hentry

theorem memberFragment_paired {column v : Value} (h : AllBalanced (memberTexts v)) :
    Gives (memberFragment column v) Paired := by
  fun_cases memberFragment column v with
  | case1 row =>
      exact Gives.andThen fun entry hentry =>
        Gives.pure (boundOrNull_paired (entryOf_expressionTexts hentry h))
  | case2 v hmap => exact Gives.ok (boundOrNull_paired (Value.allBalanced_expressionTexts h))

theorem singleMembership_paired (hd : d.Level) (negated : Bool) {column : Value}
    {values : List Value} (hcolumn : Text.Balanced column.shown.toList)
    (hvalues : AllBalanced (values.flatMap memberTexts)) :
    Gives (singleMembership d negated column values) Paired := by
  have hname := columnFragment_paired hd hcolumn
  rw [singleMembership]
  refine Gives.bind (Gives.mapM_paired fun v hv => memberFragment_paired (hvalues.member hv))
    fun members hmembers => ?_
  dsimp only
  split
  · exact Gives.pure (nothingMatches_paired negated)
  · rename_i one
    refine Gives.pure (hname.afterStepsOf ((paired_ofText ?_).append ?_))
    · cases negated <;> decide
    · exact hmembers one List.mem_cons_self
  · exact Gives.pure (hname.afterStepsOf
      ((membershipWords_paired negated).append (Paired.join balanced_comma hmembers).parens))

theorem rowFragments_paired (row : Value) (i : Nat) (columns : List Value) :
    Gives (rowFragments row i columns) fun fs => ∀ f ∈ fs, f.Paired := by
  induction columns generalizing i with
  | nil => exact Gives.ok fun f hf => absurd hf List.not_mem_nil
  | cons column rest ih =>
      rw [rowFragments]
      refine Gives.andThen fun entry _ => Gives.bind (ih (i + 1)) fun others hothers => ?_
      refine Gives.pure (List.forall_mem_cons.mpr ⟨?_, hothers⟩)
      cases entry with
      | null => exact paired_ofText (by decide)
      | _ => exact paired_bound _

theorem rowMembership_paired (hd : d.Level) (negated : Bool) {columns : List Value}
    (rows : List Value) (hcolumns : AllBalanced (columns.map Value.shown)) :
    Gives (rowMembership d negated columns rows) Paired := by
  rw [rowMembership]
  refine Gives.bind (Gives.mapM_paired fun row _ => ?_) fun groups hgroups => ?_
  · exact Gives.bind (rowFragments_paired row 0 columns) fun entries hentries =>
      Gives.pure (Paired.join balanced_comma hentries).parens
  · split
    · exact Gives.pure (nothingMatches_paired negated)
    · exact Gives.pure ((columnNames_paired hd hcolumns).afterStepsOf
        ((membershipWords_paired negated).append (Paired.join balanced_comma hgroups).parens))

theorem chunkMembership_paired (hd : d.Level) (negated : Bool) {column : Value}
    {values : List Value} (hcolumn : AllBalanced (column.asColumns.map Value.shown))
    (hvalues : AllBalanced (values.flatMap memberTexts)) :
    Gives (chunkMembership d negated column values) Paired := by
  rw [chunkMembership]
  split
  · rename_i one hone
    rw [hone] at hcolumn
    exact singleMembership_paired hd negated (hcolumn _ List.mem_cons_self) hvalues
  · exact rowMembership_paired hd negated values hcolumn

/-- The chunks of a list hold members of the list. -/
theorem mem_of_mem_chunks {α : Type} {size : Nat} {values chunk : List α}
    (hchunk : chunk ∈ chunks size values) {v : α} (hv : v ∈ chunk) : v ∈ values := by
  obtain ⟨i, -, rfl⟩ := List.mem_map.mp hchunk
  exact List.mem_of_mem_drop (List.mem_of_mem_take hv)

theorem membershipFragment_paired (hd : d.Level) (negated : Bool) {column : Value}
    {values : List Value} (hcolumn : AllBalanced (column.asColumns.map Value.shown))
    (hvalues : AllBalanced (values.flatMap memberTexts)) :
    Gives (membershipFragment d negated column values) Paired := by
  rw [membershipFragment]
  refine Gives.andThen fun split hsplit => ?_
  cases split with
  | none => exact chunkMembership_paired hd negated hcolumn hvalues
  | some parts =>
      -- Every chunk is a part of the list.
      have hparts : ∀ chunk ∈ parts, ∀ v ∈ chunk, v ∈ values := by
        rw [splitMembers] at hsplit
        split at hsplit
        · cases hsplit
        · split at hsplit
          · cases hsplit
          · split at hsplit
            · cases hsplit
            · cases hsplit
              exact fun chunk hchunk v hv => mem_of_mem_chunks hchunk hv
      refine Gives.bind (Gives.mapM_paired fun chunk hchunk => ?_) fun tests htests =>
        Gives.pure (Paired.grouped ?_ htests)
      · refine chunkMembership_paired hd negated hcolumn fun s hs => ?_
        obtain ⟨v, hv, hs⟩ := List.mem_flatMap.mp hs
        exact hvalues.member (hparts chunk hchunk v hv) s hs
      · cases negated <;> decide

/-! ### Patterns -/

theorem patternFragment_paired {escape v : Value} (h : AllBalanced (memberTexts v)) :
    Gives (patternFragment escape v) Paired := by
  rcases v.expr_or_not with ⟨e, rfl⟩ | hexpr
  · exact Gives.ok (paired_ofExpression (h e.text (List.mem_singleton_self _)))
  · rw [patternFragment_eq escape hexpr]
    split
    · exact Gives.andThen fun s _ => Gives.pure (paired_bound _)
    · exact Gives.ok (paired_bound _)

/-- The words of a pattern test have no parentheses, whatever the dialect knows. -/
theorem balanced_likeOperator (d : Dialect) (negated caseless : Bool) :
    Text.Balanced (d.likeOperator (likeWords negated caseless)).toList := by
  rw [Dialect.likeOperator]
  split <;> cases negated <;> cases caseless <;> decide

theorem likeFragment_paired (hd : d.Level) (any negated caseless : Bool) {column values : Value}
    (escape : Value) (hcolumn : Text.Balanced column.shown.toList)
    (hvalues : AllBalanced (values.members.flatMap memberTexts)) :
    Gives (likeFragment d any negated caseless column values escape) Paired := by
  have hname := columnFragment_paired hd hcolumn
  rw [likeFragment]
  split
  · exact Gives.pure (nothingMatches_paired negated)
  · dsimp only
    split
    · exact Gives.error _ _
    · refine Gives.bind (Gives.mapM_paired fun v hv => patternFragment_paired (hvalues.member hv))
        fun patterns hpatterns => Gives.pure ?_
      refine (Paired.withoutText (columnFragment d column)).append (Paired.join ?_ fun f hf => ?_)
      · cases any <;> decide
      · -- Each test repeats the name before its pattern.
        obtain ⟨p, hp, rfl⟩ := List.mem_map.mp hf
        have hwords := paired_words (balanced_likeOperator d negated caseless)
        exact ((hname.textOnly.append hwords).append
          (hpatterns p hp)).append (paired_ofText hd.escape)

/-! ### Tests -/

theorem queryMembership_paired (hd : d.Level) (negated : Bool) {column : Value} {rows : Fragment}
    (hcolumn : AllBalanced (column.asColumns.map Value.shown)) (hrows : rows.Paired) :
    (queryMembership d negated column rows).Paired := by
  have hwords := (membershipWords_paired negated).append hrows.parens
  have hone : column.asColumns = [column] → (columnFragment d column).Paired := by
    intro heq
    rw [heq] at hcolumn
    exact columnFragment_paired hd (hcolumn _ List.mem_cons_self)
  cases column with
  | list columns => exact (columnNames_paired hd hcolumn).afterStepsOf hwords
  | tuple columns => exact (columnNames_paired hd hcolumn).afterStepsOf hwords
  | _ => exact (hone rfl).afterStepsOf hwords

theorem betweenFragment_paired (hd : d.Level) (negated : Bool) {operands : List Value}
    (h : AllBalanced (nodeTexts (.between negated) operands)) :
    Gives (betweenFragment d negated operands) Paired := by
  fun_cases betweenFragment d negated operands with
  | case1 column low high words hnull => exact Gives.error _ _
  | case2 column low high words hnull =>
      rw [nodeTexts, allBalanced_append, allBalanced_cons] at h
      obtain ⟨⟨hcolumn, hlow⟩, hhigh⟩ := h
      have hwords : (ofText (" " ++ words ++ " ")).Paired :=
        paired_words (by cases negated <;> decide)
      have hand : (ofText " AND ").Paired := paired_ofText (by decide)
      exact Gives.ok (((((columnFragment_paired hd hcolumn).append hwords).append
        (boundFragment_paired hlow)).append hand).append (boundFragment_paired hhigh))
  | case3 operands hshape => exact Gives.error _ _

theorem patternTest_paired (hd : d.Level) (any negated caseless : Bool) {operands : List Value}
    (h : AllBalanced (nodeTexts (.like any negated caseless) operands)) :
    Gives (patternTest d any negated caseless operands) Paired := by
  fun_cases patternTest d any negated caseless operands with
  | case1 column values rest failure hnull => exact Gives.error _ _
  | case2 column values hnull =>
      rw [nodeTexts, allBalanced_cons] at h
      exact likeFragment_paired hd any negated caseless .null h.1 h.2
  | case3 column values hnull escape =>
      rw [nodeTexts, allBalanced_cons] at h
      exact likeFragment_paired hd any negated caseless escape h.1 h.2
  | case4 column values rest failure hnull hnone hone => exact Gives.error _ _
  | case5 operands hshape => exact Gives.error _ _

/-! ### Clauses -/

theorem groupByClause_paired (hd : d.Level) {columns : List Value}
    (h : AllBalanced (columns.map Value.nameText)) : Gives (groupByClause d columns) Paired := by
  rw [groupByClause]
  split
  · exact Gives.pure paired_empty
  · refine Gives.bind (Gives.mapM_paired fun v hv => ?_) fun names hnames => Gives.pure ?_
    · have hname := h _ (List.mem_map_of_mem hv)
      fun_cases groupingFragment d v with
      | case1 e => exact Gives.ok (paired_ofExpression hname)
      | case2 v hexpr =>
          exact Gives.andThen fun name hquoted =>
            Gives.pure (paired_ofText (hd.named (fun s => hd.quoteColumn) hname hquoted))
    · exact (paired_ofText (by decide)).append (Paired.join balanced_comma hnames)

theorem orderKeyFragment_paired (hd : d.Level) {key : OrderKey}
    (h : Text.Balanced key.expr.nameText.toList) : Gives (d.orderKeyFragment key) Paired := by
  rw [Dialect.orderKeyFragment]
  split
  · rename_i e he
    rw [he] at h
    exact Gives.ok (paired_ofExpression h)
  · refine Gives.andThen fun name hquoted => Gives.pure (paired_ofText ?_)
    rw [String.toList_append]
    refine (hd.named (fun s => hd.quoteColumn) h hquoted).append ?_
    cases key.direction <;> decide

theorem orderClause_paired (hd : d.Level) {keys : List OrderKey}
    (h : AllBalanced (keys.map fun key => key.expr.nameText)) :
    Gives (d.orderClause keys) Paired := by
  rw [Dialect.orderClause]
  split
  · exact Gives.pure paired_empty
  · refine Gives.bind (Gives.mapM_paired fun key hkey =>
      orderKeyFragment_paired hd (h _ (List.mem_map_of_mem hkey))) fun names hnames => ?_
    exact Gives.pure ((paired_ofText (by decide)).append (Paired.join balanced_comma hnames))

/-- A limit that counts is an expression or a number. -/
theorem balanced_limit {v : Value} (h : AllBalanced v.expressionTexts) (hv : v.hasLimit = true) :
    Text.Balanced v.shown.toList := by
  cases v with
  | expr e => exact h e.text (List.mem_singleton_self _)
  | int n => exact (flat_toString_int n).balanced
  | _ => cases hv

theorem balanced_offset {v : Value} (h : AllBalanced v.expressionTexts)
    (hv : v.hasOffset = true) : Text.Balanced v.shown.toList := by
  cases v with
  | expr e => exact h e.text (List.mem_singleton_self _)
  | int n => exact (flat_toString_int n).balanced
  | _ => cases hv

theorem balanced_limitClause (d : Dialect) {limit offset : Value}
    (hlimit : AllBalanced limit.expressionTexts) (hoffset : AllBalanced offset.expressionTexts) :
    Text.Balanced (d.limitClause limit offset).toList := by
  have hl : Text.Balanced "LIMIT ".toList := by decide
  have ho : Text.Balanced " OFFSET ".toList := by decide
  have hbare : Text.Balanced "OFFSET ".toList := by decide
  have hgreatest : Text.Balanced Dialect.greatestLimit.toList := by decide
  rw [Dialect.limitClause]
  split
  · rename_i hlimits hskips
    rw [String.toList_append, String.toList_append, String.toList_append]
    exact ((hl.append (balanced_limit hlimit hlimits)).append ho).append
      (balanced_offset hoffset hskips)
  · rename_i hlimits _
    rw [String.toList_append]
    exact hl.append (balanced_limit hlimit hlimits)
  · rename_i _ hskips
    rw [String.toList_append, String.toList_append, String.toList_append]
    exact ((hl.append hgreatest).append ho).append (balanced_offset hoffset hskips)
  · rename_i hskips _
    rw [String.toList_append]
    exact hbare.append (balanced_offset hoffset hskips)
  · exact .nil

theorem balanced_rowFilters {limit offset : Value} (hlimit : AllBalanced limit.expressionTexts)
    (hoffset : AllBalanced offset.expressionTexts) :
    AllBalanced (Dialect.rowFilters limit offset) := by
  rw [Dialect.rowFilters, allBalanced_append]
  constructor
  · split
    · rename_i hskips
      rw [allBalanced_cons, String.toList_append]
      exact ⟨.append (by decide) (balanced_offset hoffset hskips), allBalanced_nil⟩
    · exact allBalanced_nil
  · split
    · rename_i hlimits
      rw [allBalanced_cons, String.toList_append]
      exact ⟨.append (by decide) (balanced_limit hlimit hlimits), allBalanced_nil⟩
    · exact allBalanced_nil

/-- What Oracle writes after a query closes the parenthesis that stands before it. -/
theorem depthAfter_pagination :
    Text.depthAfter 1
      ("), PAGINATION AS (SELECT USER_SQL.*, ROWNUM AS ROWNUMID FROM USER_SQL) "
        ++ "SELECT * FROM PAGINATION WHERE ").toList = some 0 := by
  decide

/-- Oracle's wrapper opens one parenthesis before the query and closes it after the query. -/
theorem paged_paired (hd : d.Level) {sql : Fragment} (hsql : sql.Paired) {keys : List OrderKey}
    {limit offset : Value} (hkeys : AllBalanced (keys.map fun key => key.expr.nameText))
    (hlimit : AllBalanced limit.expressionTexts) (hoffset : AllBalanced offset.expressionTexts) :
    Gives (d.paged sql keys limit offset) Paired := by
  rw [Dialect.paged]
  refine Gives.bind (orderClause_paired hd hkeys) fun order horder => ?_
  have hordered : (if order.isEmpty then sql ++ order else sql ++ ofText " " ++ order).Paired := by
    split
    · exact hsql.append horder
    · exact (hsql.append (paired_ofText balanced_space)).append horder
  dsimp only
  split
  · split
    · exact Gives.pure hordered
    · have hfilters :
          Text.Balanced (" AND ".intercalate (Dialect.rowFilters limit offset)).toList := by
        rw [String.toList_intercalate]
        refine Text.Balanced.intercalate (by decide) fun s hs => ?_
        obtain ⟨filter, hfilter, rfl⟩ := List.mem_map.mp hs
        exact balanced_rowFilters hlimit hoffset filter hfilter
      refine Gives.pure (Paired.between (by decide) hordered ?_)
      rw [String.toList_append, Text.depthAfter_append, depthAfter_pagination]
      exact hfilters.depthAfter 0
  · split
    · exact Gives.pure hordered
    · refine Gives.pure (hordered.append (paired_ofText ?_))
      rw [String.toList_append]
      exact balanced_space.append (balanced_limitClause d hlimit hoffset)

theorem selectClause_paired {distinct option : Value} {items : List Fragment}
    (hoption : Text.Balanced option.shown.toList) (h : ∀ f ∈ items, f.Paired) :
    (selectClause distinct option items).Paired := by
  have hword : Text.Balanced
      (if distinct.isTruthy then "SELECT DISTINCT" else "SELECT").toList := by
    split <;> decide
  rw [selectClause]
  refine (paired_ofText ?_).append ?_
  · rw [String.toList_append]
    refine Text.Balanced.append ?_ balanced_space
    unfold selectHead
    rw [String.toList_append]
    refine hword.append ?_
    split
    · exact .nil
    · rw [String.toList_append]
      exact balanced_space.append hoption
  · split
    · exact paired_ofText (by decide)
    · exact Paired.join balanced_comma h

theorem fromClause_paired {sources : List Fragment} (h : ∀ f ∈ sources, f.Paired) :
    (fromClause sources).Paired := by
  rw [fromClause]
  split
  · exact paired_empty
  · exact (paired_ofText (by decide)).append (Paired.join balanced_comma h)

/-- The clauses of a query up to HAVING. -/
theorem clauses_paired (distinct : Value) {option : Value} (params : Entries Value)
    {items sources joins : List Fragment} {where_ groupBy having : Fragment}
    (hoption : Text.Balanced option.shown.toList) (hitems : ∀ f ∈ items, f.Paired)
    (hsources : ∀ f ∈ sources, f.Paired) (hjoins : ∀ f ∈ joins, f.Paired)
    (hwhere : where_.Paired) (hgroupBy : groupBy.Paired) (hhaving : having.Paired) :
    (Fragment.merging params ++ .joinShown " " [selectClause distinct option items,
      fromClause sources, Fragment.join " " joins, where_, groupBy, having]).Paired := by
  refine (paired_merging params).append (Paired.joinShown balanced_space ?_)
  simp only [List.forall_mem_cons]
  exact ⟨selectClause_paired hoption hitems, fromClause_paired hsources,
    Paired.join balanced_space hjoins, hwhere, hgroupBy, hhaving,
    fun _ hf => absurd hf List.not_mem_nil⟩

/-! ### Positions that may hold a query -/

/-- What a position that may hold a query needs to know of it. -/
def QueryPaired (d : Dialect) (value : Value) : Prop :=
  ∀ q, value = .query q → Gives (q.fragment d) Paired

/-- The texts of a value other than a query that a column is compared with. -/
theorem Value.comparedTexts_of_not_query {v : Value} (hquery : ∀ q, v = .query q → False) :
    v.comparedTexts = v.members.flatMap memberTexts := by
  rw [Value.comparedTexts]
  exact hquery

theorem Value.expressionTexts_of_compared {v : Value} (h : AllBalanced v.comparedTexts) :
    AllBalanced v.expressionTexts := by
  cases v with
  | expr e =>
      rw [Value.comparedTexts_of_not_query (fun q hq => by cases hq)] at h
      exact fun s hs => h s (List.mem_append_left _ hs)
  | _ => exact allBalanced_nil

theorem columnTest_paired (hd : d.Level) (subqueries : Bool) {column : String} {value : Value}
    (hcolumn : Text.Balanced column.toList) (hvalue : AllBalanced value.comparedTexts)
    (h : QueryPaired d value) : Gives (columnTest d subqueries column value) Paired := by
  have hname : (columnFragment d (.text column)).Paired := columnFragment_paired hd hcolumn
  have hnames : AllBalanced ((Value.text column).asColumns.map Value.shown) :=
    (allBalanced_cons _ _).mpr ⟨hcolumn, allBalanced_nil⟩
  fun_cases columnTest d subqueries column value with
  | case1 => exact Gives.pure (hname.append (paired_ofText (by decide)))
  | case2 q hsub =>
      exact Gives.bind (h q rfl) fun rows hrows =>
        Gives.pure (queryMembership_paired hd false hnames hrows)
  | case3 q hsub => exact Gives.error _ _
  | case4 v hnull hquery hcollection =>
      rw [Value.comparedTexts_of_not_query hquery] at hvalue
      exact membershipFragment_paired hd false hnames hvalue
  | case5 name v hnull hquery hcollection =>
      have hbound := boundFragment_paired (Value.expressionTexts_of_compared hvalue)
      exact Gives.pure ((hname.append (paired_ofText (by decide))).append hbound)

theorem membershipNode_paired (hd : d.Level) (subqueries negated : Bool) {column values : Value}
    (hcolumn : AllBalanced (column.asColumns.map Value.shown))
    (hvalues : AllBalanced values.comparedTexts) (h : QueryPaired d values) :
    Gives (nodeFragment d subqueries (.membership negated) [column, values]) Paired := by
  rcases values.query_or_not with ⟨q, rfl⟩ | hquery
  · rw [nodeFragment]
    split
    · exact Gives.error _ _
    · split
      · exact Gives.ok (nothingMatches_paired negated)
      · split
        · exact Gives.bind (h q rfl) fun rows hrows =>
            Gives.pure (queryMembership_paired hd negated hcolumn hrows)
        · exact Gives.error _ _
  · rw [Value.comparedTexts_of_not_query hquery] at hvalues
    rw [nodeFragment]
    · split
      · exact Gives.error _ _
      · split
        · exact Gives.ok (nothingMatches_paired negated)
        · exact membershipFragment_paired hd negated hcolumn hvalues
    · exact hquery

theorem existenceNode_paired (subqueries negated : Bool) {value : Value} (h : QueryPaired d value) :
    Gives (nodeFragment d subqueries (.existence negated) [value]) Paired := by
  cases value with
  | query q =>
      rw [nodeFragment]
      split
      · refine Gives.bind (h q rfl) fun rows hrows => Gives.pure ?_
        refine (paired_ofText ?_).append hrows.parens
        cases negated <;> decide
      · exact Gives.error _ _
  | _ => exact Gives.error _ _

theorem compareNode_paired (hd : d.Level) (subqueries : Bool) {symbol : String}
    {column value : Value} (hsymbol : Text.Balanced symbol.toList)
    (hcolumn : Text.Balanced column.shown.toList) (hvalue : AllBalanced value.comparedTexts)
    (h : QueryPaired d value) :
    Gives (nodeFragment d subqueries (.compare symbol) [column, value]) Paired := by
  have hleft := (columnFragment_paired hd hcolumn).append (paired_words hsymbol)
  rcases value.query_or_not with ⟨q, rfl⟩ | hquery
  · rw [nodeFragment]
    split
    · exact Gives.bind (h q rfl) fun rows hrows => Gives.pure (hleft.append hrows.parens)
    · exact Gives.error _ _
  · rw [nodeFragment]
    · exact Gives.ok (hleft.append (boundOrNull_paired (Value.expressionTexts_of_compared hvalue)))
    · exact hquery

/-- The alias of a value and the value itself are balanced. -/
theorem AllBalanced.aliased {alias? : Option String} {v : Value}
    (h : AllBalanced (v.aliasedTexts alias?)) : ∀ s ∈ alias?, Text.Balanced s.toList := by
  intro s hs
  rw [Option.mem_def] at hs
  rw [hs] at h
  cases v with
  | query q =>
      rw [Value.aliasedTexts] at h
      exact h s (List.mem_append_right _ (List.mem_singleton_self s))
  | _ => exact h s (List.mem_cons_of_mem _ (List.mem_singleton_self s))

theorem SelectItem.fragment_paired (hd : d.Level) {expr : Value} {alias? : Option String}
    (htexts : AllBalanced (expr.aliasedTexts alias?)) (h : QueryPaired d expr) :
    Gives (SelectItem.fragment d ⟨expr, alias?⟩) Paired := by
  have halias : ∀ s ∈ alias?, (ofText (" AS " ++ d.quoteColumn s)).Paired := by
    intro s hs
    refine paired_ofText ?_
    rw [String.toList_append]
    exact Text.Balanced.append (by decide) (hd.quoteColumn (htexts.aliased s hs))
  cases expr with
  | query q =>
      cases alias? with
      | none => exact Gives.error _ _
      | some alias_ =>
          exact Gives.bind (h q rfl) fun rows hrows =>
            Gives.pure (hrows.parens.append (halias alias_ rfl))
  | expr e =>
      have he : (ofExpression e).Paired := paired_ofExpression (htexts _ List.mem_cons_self)
      cases alias? with
      | none => exact Gives.ok he
      | some alias_ => exact Gives.ok (he.append (halias alias_ rfl))
  | _ =>
      exact Gives.ok (paired_ofText
        (hd.namedItem (htexts _ List.mem_cons_self) fun s hs => htexts.aliased s hs))

theorem TableRef.fragment_paired (hd : d.Level) (clause : String) {source : Value}
    {alias? : Option String} (htexts : AllBalanced (source.aliasedTexts alias?))
    (h : QueryPaired d source) : Gives (TableRef.fragment d clause ⟨source, alias?⟩) Paired := by
  have halias : ∀ s ∈ alias?, (ofText (" " ++ d.quoteTable s)).Paired := by
    intro s hs
    refine paired_ofText ?_
    rw [String.toList_append]
    exact balanced_space.append (hd.quoteTable (htexts.aliased s hs))
  cases source with
  | query q =>
      cases alias? with
      | none => exact Gives.error _ _
      | some alias_ =>
          exact Gives.bind (h q rfl) fun rows hrows =>
            Gives.pure (hrows.parens.append (halias alias_ rfl))
  | expr e =>
      have he : (ofExpression e).Paired := paired_ofExpression (htexts _ List.mem_cons_self)
      cases alias? with
      | none => exact Gives.ok he
      | some alias_ => exact Gives.ok (he.append (halias alias_ rfl))
  | _ =>
      exact Gives.ok (paired_ofText
        (hd.namedSource (htexts _ List.mem_cons_self) fun s hs => htexts.aliased s hs))

theorem branchFragment_paired {query : Value} (htexts : AllBalanced (query.aliasedTexts none))
    (h : QueryPaired d query) : Gives (branchFragment d query) Paired := by
  fun_cases branchFragment d query with
  | case1 q => exact h q rfl
  | case2 v hquery =>
      rw [Value.aliasedTexts] at htexts
      · exact Gives.pure (paired_ofText (htexts _ List.mem_cons_self))
      · exact hquery

/-! ### The recursion -/

mutual

theorem Value.conditionFragment_paired (hd : d.Level) (subqueries : Bool) :
    (v : Value) → AllBalanced v.conditionTexts → Gives (v.conditionFragment d subqueries) Paired
  | .null, _ => Gives.ok paired_empty
  | .expr e, h => Gives.ok (paired_ofExpression (h e.text (List.mem_singleton_self _)))
  | .map columns, h =>
      Gives.bind (columnTests_paired hd subqueries columns h) fun _ htests =>
        Gives.pure (Paired.conjunction htests)
  | .hash columns, h =>
      Gives.bind (columnTests_paired hd subqueries columns h) fun _ htests =>
        Gives.pure (Paired.conjunction htests)
  | .list items, h => shorthandFragment_paired hd subqueries items h
  | .tuple items, h => shorthandFragment_paired hd subqueries items h
  | .cond op operands, h => by
      rw [Value.conditionTexts, allBalanced_append] at h
      exact nodeFragment_paired hd subqueries op operands
        (fun s hs => h.1 s (Option.mem_toList.mpr hs)) h.2
  | .text _, h | .direction _, h | .isolation _, h | .columnType _, h =>
      Gives.ok (paired_ofText (h _ (List.mem_singleton_self _)))
  | .bool _, _ | .int _, _ | .float _, _ | .bytes _, _ | .stream _, _ | .typed .., _ | .out .., _
  | .query _, _ | .item _, _ | .ref _, _ | .join _, _ | .order _, _ | .branch _, _ =>
      Gives.error _ _

theorem shorthandFragment_paired (hd : d.Level) (subqueries : Bool) :
    (items : List Value) → AllBalanced (shorthandTexts items) →
      Gives (shorthandFragment d subqueries items) Paired
  | [], _ => Gives.ok paired_empty
  | head :: operands, h => by
      rw [shorthandFragment]
      refine Gives.andThen fun _ _ => Gives.andThen fun op hop => ?_
      rw [shorthandTexts, hop, allBalanced_append] at h
      refine nodeFragment_paired hd subqueries op operands (fun symbol hsymbol => ?_) h.2
      -- The operator is the one that the head spells.
      rw [Value.headOperator] at hop
      split at hop
      · rename_i s hs
        cases hop
        have hword : Text.Balanced s.toList :=
          h.1 s (by rw [hs]; exact List.mem_singleton_self s)
        exact Operator.ofWords_balanced hword hsymbol
      · cases hop

theorem columnTests_paired (hd : d.Level) (subqueries : Bool) :
    (columns : List (String × Value)) → AllBalanced (columnsTexts columns) →
      Gives (columnTests d subqueries columns) fun fs => ∀ f ∈ fs, f.Paired
  | [], _ => Gives.ok fun _ hf => absurd hf List.not_mem_nil
  | (column, value) :: rest, h => by
      rw [columnsTexts, List.cons_append, allBalanced_cons, allBalanced_append] at h
      rw [columnTests_cons]
      refine Gives.bind (columnTest_paired hd subqueries h.1 h.2.1
        (value.queryPaired hd h.2.1)) fun test htest => ?_
      exact Gives.bind (columnTests_paired hd subqueries rest h.2.2) fun tests htests =>
        Gives.pure (List.forall_mem_cons.mpr ⟨htest, htests⟩)

theorem Value.queryPaired (hd : d.Level) :
    (v : Value) → AllBalanced v.comparedTexts → QueryPaired d v
  | .query q, h => fun r hr => by
      cases hr
      rw [Value.comparedTexts] at h
      exact Query.fragment_paired hd q h
  | .null, _ | .bool _, _ | .int _, _ | .float _, _ | .text _, _ | .bytes _, _ | .list _, _
  | .tuple _, _ | .stream _, _ | .map _, _ | .typed .., _ | .out .., _ | .expr _, _ | .hash _, _
  | .cond .., _ | .item _, _ | .ref _, _ | .join _, _ | .order _, _ | .branch _, _
  | .direction _, _ | .isolation _, _ | .columnType _, _ => fun _ hr => by cases hr

theorem nodeFragment_paired (hd : d.Level) (subqueries : Bool) :
    (op : Operator) → (operands : List Value) →
      (∀ s, op.symbol? = some s → Text.Balanced s.toList) →
      AllBalanced (nodeTexts op operands) → Gives (nodeFragment d subqueries op operands) Paired
  | .and, [], _, _ | .or, [], _, _ => Gives.ok paired_empty
  | .and, v :: rest, _, h => by
      rw [nodeTexts, allBalanced_append] at h
      rw [nodeFragment]
      refine Gives.bind (v.conditionFragment_paired hd subqueries h.1) fun _ hfirst => ?_
      exact Gives.bind (operandFragments_paired hd subqueries rest h.2) fun _ hrest =>
        Gives.pure (Paired.grouped (by decide) (List.forall_mem_cons.mpr ⟨hfirst, hrest⟩))
  | .or, v :: rest, _, h => by
      rw [nodeTexts, allBalanced_append] at h
      rw [nodeFragment]
      refine Gives.bind (v.conditionFragment_paired hd subqueries h.1) fun _ hfirst => ?_
      exact Gives.bind (operandFragments_paired hd subqueries rest h.2) fun _ hrest =>
        Gives.pure (Paired.grouped (by decide) (List.forall_mem_cons.mpr ⟨hfirst, hrest⟩))
  | .not, [operand], _, h => by
      rw [nodeFragment]
      exact Gives.bind (operand.conditionFragment_paired hd subqueries h) fun _ hf =>
        Gives.pure hf.negation
  | .between negated, operands, _, h => by
      rw [nodeFragment]
      exact betweenFragment_paired hd negated h
  | .membership negated, [column, values], _, h => by
      rw [nodeTexts, allBalanced_append] at h
      exact membershipNode_paired hd subqueries negated h.1 h.2 (values.queryPaired hd h.2)
  | .like any negated caseless, operands, _, h => by
      rw [nodeFragment]
      exact patternTest_paired hd any negated caseless h
  | .existence negated, [value], _, h => by
      rw [nodeTexts] at h
      exact existenceNode_paired subqueries negated (value.queryPaired hd h)
  | .existence _, _ :: _ :: _, _, _ => by
      rw [nodeFragment]
      · exact Gives.error _ _
      · exact fun q h => by cases h
  | .compare symbol, [column, value], hsymbol, h => by
      rw [nodeTexts, allBalanced_cons] at h
      exact compareNode_paired hd subqueries (hsymbol symbol rfl) h.1 h.2
        (value.queryPaired hd h.2)
  | .not, [], _, _ | .not, _ :: _ :: _, _, _ | .membership _, [], _, _ | .membership _, [_], _, _
  | .membership _, _ :: _ :: _ :: _, _, _ | .existence _, [], _, _
  | .compare _, [], _, _ | .compare _, [_], _, _ | .compare _, _ :: _ :: _ :: _, _, _ =>
      Gives.error _ _

theorem operandFragments_paired (hd : d.Level) (subqueries : Bool) :
    (operands : List Value) → AllBalanced (operandsTexts operands) →
      Gives (operandFragments d subqueries operands) fun fs => ∀ f ∈ fs, f.Paired
  | [], _ => Gives.ok fun _ hf => absurd hf List.not_mem_nil
  | v :: rest, h => by
      rw [operandsTexts, allBalanced_append] at h
      rw [operandFragments]
      refine Gives.bind (v.conditionFragment_paired hd subqueries h.1) fun _ hfirst => ?_
      exact Gives.bind (operandFragments_paired hd subqueries rest h.2) fun _ hrest =>
        Gives.pure (List.forall_mem_cons.mpr ⟨hfirst, hrest⟩)

theorem Query.fragment_paired (hd : d.Level) :
    (q : Query) → AllBalanced q.texts → Gives (q.fragment d) Paired
  | ⟨items, distinct, option, sources, joins, filter, grouping, groupFilter, ordering, limit,
      offset, branches, params⟩, h => by
      rw [Query.texts] at h
      simp only [allBalanced_append, allBalanced_cons, List.cons_append] at h
      obtain ⟨hoption, ⟨⟨⟨⟨⟨⟨⟨⟨hitems, hsources⟩, hjoins⟩, hfilter⟩, hgrouping⟩, hgroupFilter⟩,
        hordering⟩, hlimit⟩, hoffset⟩, hbranches⟩ := h
      rw [Query.fragment]
      refine Gives.bind (itemFragments_paired hd items hitems) fun _ hitems => ?_
      refine Gives.bind (sourceFragments_paired hd sources hsources) fun _ hsources => ?_
      refine Gives.bind (joinFragments_paired hd joins hjoins) fun _ hjoins => ?_
      refine Gives.bind (filter.conditionFragment_paired hd true hfilter) fun _ hwhere => ?_
      refine Gives.bind (groupByClause_paired hd hgrouping) fun _ hgroupBy => ?_
      refine Gives.bind (groupFilter.conditionFragment_paired hd true hgroupFilter)
        fun _ hhaving => ?_
      -- Paging goes around the clauses, and united queries come behind.
      have hwhere' : (headed "WHERE" _).Paired := hwhere.headed (by decide)
      have hhaving' : (headed "HAVING" _).Paired := hhaving.headed (by decide)
      have hbody := clauses_paired distinct params hoption hitems hsources hjoins
        hwhere' hgroupBy hhaving'
      refine Gives.bind (paged_paired hd hbody hordering hlimit hoffset) fun _ hpaged => ?_
      refine Gives.bind (branchFragments_paired hd branches hbranches) fun _ hunited => ?_
      refine Gives.pure ?_
      split
      · exact hpaged
      · exact (hpaged.parens.append (paired_ofText balanced_space)).append
          (Paired.join balanced_space hunited)

theorem itemFragments_paired (hd : d.Level) :
    (items : List SelectItem) → AllBalanced (itemsTexts items) →
      Gives (itemFragments d items) fun fs => ∀ f ∈ fs, f.Paired
  | [], _ => Gives.ok fun _ hf => absurd hf List.not_mem_nil
  | ⟨expr, alias?⟩ :: rest, h => by
      rw [itemsTexts, allBalanced_append] at h
      rw [itemFragments]
      refine Gives.bind (SelectItem.fragment_paired hd h.1 (expr.aliasedPaired hd alias? h.1))
        fun _ hfirst => ?_
      exact Gives.bind (itemFragments_paired hd rest h.2) fun _ hrest =>
        Gives.pure (List.forall_mem_cons.mpr ⟨hfirst, hrest⟩)

theorem Value.aliasedPaired (hd : d.Level) (alias? : Option String) :
    (v : Value) → AllBalanced (v.aliasedTexts alias?) → QueryPaired d v
  | .query q, h => fun r hr => by
      cases hr
      rw [Value.aliasedTexts, allBalanced_append] at h
      exact Query.fragment_paired hd q h.1
  | .null, _ | .bool _, _ | .int _, _ | .float _, _ | .text _, _ | .bytes _, _ | .list _, _
  | .tuple _, _ | .stream _, _ | .map _, _ | .typed .., _ | .out .., _ | .expr _, _ | .hash _, _
  | .cond .., _ | .item _, _ | .ref _, _ | .join _, _ | .order _, _ | .branch _, _
  | .direction _, _ | .isolation _, _ | .columnType _, _ => fun _ hr => by cases hr

theorem sourceFragments_paired (hd : d.Level) :
    (sources : List TableRef) → AllBalanced (sourcesTexts sources) →
      Gives (sourceFragments d sources) fun fs => ∀ f ∈ fs, f.Paired
  | [], _ => Gives.ok fun _ hf => absurd hf List.not_mem_nil
  | ⟨source, alias?⟩ :: rest, h => by
      rw [sourcesTexts, allBalanced_append] at h
      rw [sourceFragments]
      refine Gives.bind (TableRef.fragment_paired hd "FROM" h.1
        (source.aliasedPaired hd alias? h.1)) fun _ hfirst => ?_
      exact Gives.bind (sourceFragments_paired hd rest h.2) fun _ hrest =>
        Gives.pure (List.forall_mem_cons.mpr ⟨hfirst, hrest⟩)

theorem joinFragments_paired (hd : d.Level) :
    (joins : List Join) → AllBalanced (joinsTexts joins) →
      Gives (joinFragments d joins) fun fs => ∀ f ∈ fs, f.Paired
  | [], _ => Gives.ok fun _ hf => absurd hf List.not_mem_nil
  | ⟨kind, ⟨source, alias?⟩, on⟩ :: rest, h => by
      rw [joinsTexts] at h
      simp only [List.cons_append, allBalanced_cons, allBalanced_append] at h
      obtain ⟨hkind, ⟨hsource, hon⟩, hrest⟩ := h
      rw [joinFragments]
      split
      · exact Gives.error _ _
      · refine Gives.bind (TableRef.fragment_paired hd "JOIN" hsource
          (source.aliasedPaired hd alias? hsource)) fun _ htable => ?_
        refine Gives.bind (on.conditionFragment_paired hd true hon) fun _ hcondition => ?_
        refine Gives.bind (joinFragments_paired hd rest hrest) fun _ hothers => Gives.pure ?_
        have hword : (ofText (kind ++ " ")).Paired := by
          refine paired_ofText ?_
          rw [String.toList_append]
          exact hkind.append balanced_space
        exact List.forall_mem_cons.mpr
          ⟨(hword.append htable).append (hcondition.headed (by decide)), hothers⟩

theorem branchFragments_paired (hd : d.Level) :
    (branches : List UnionBranch) → AllBalanced (branchesTexts branches) →
      Gives (branchFragments d branches) fun fs => ∀ f ∈ fs, f.Paired
  | [], _ => Gives.ok fun _ hf => absurd hf List.not_mem_nil
  | ⟨query, all⟩ :: rest, h => by
      rw [branchesTexts, allBalanced_append] at h
      rw [branchFragments_cons]
      refine Gives.bind (branchFragment_paired h.1 (query.aliasedPaired hd none h.1))
        fun _ hsql => ?_
      refine Gives.bind (branchFragments_paired hd rest h.2) fun _ hothers => Gives.pure ?_
      refine List.forall_mem_cons.mpr ⟨Paired.between ?_ hsql (by decide), hothers⟩
      cases all <;> decide

end

end SqlLoom
