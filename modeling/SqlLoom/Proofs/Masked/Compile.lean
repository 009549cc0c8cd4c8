import SqlLoom.Proofs.Compile
import SqlLoom.Proofs.Fragment.Alike
import SqlLoom.Proofs.Masked

/-!
# `SqlLoom.Proofs.Masked.Compile`: what masked conditions and queries compile to

Compilation asks of a value what kind it is and never what it holds. So a condition or a query whose
bound scalars are blanked compiles wherever it does itself, to a fragment that differs in the
values that are added only (`Alike`). The proof goes through the compiler function by function, as
that of `SqlLoom.Proofs.Compile` does.

* `Value.conditionFragment_masked`: conditions in any spelling.
* `Query.fragment_masked`: queries, with every query inside them.
-/

set_option autoImplicit false

namespace SqlLoom

open Fragment

/-! ### Single values -/

theorem boundFragment_blank (v : Value) : Alike (boundFragment v) (boundFragment v.blank) := by
  cases v with
  | expr e => exact .refl _
  | _ => exact .bound _ _

theorem boundOrNull_blank (v : Value) : Alike (boundOrNull v) (boundOrNull v.blank) := by
  cases v with
  | null => exact .refl _
  | expr e => exact .refl _
  | _ => exact .bound _ _

theorem rowEntryFragment_blank (v : Value) :
    Alike (rowEntryFragment v) (rowEntryFragment v.blank) := by
  cases v with
  | null => exact .refl _
  | _ => exact .bound _ _

theorem isNull_blank (v : Value) : v.blank.isNull = v.isNull := by
  cases v <;> rfl

/-! ### Membership -/

theorem get?_blank (name : String) (row : Entries Value) :
    Entries.get? name (row.map fun e => (e.1, e.2.blank)) = (row.get? name).map Value.blank := by
  induction row with
  | nil => rfl
  | cons e rest ih =>
      rw [List.map_cons, Entries.get?, Entries.get?, ih]
      split <;> rfl

theorem entryOf_blank (column : Value) (row : Entries Value) :
    Follows (entryOf column row) (entryOf column (row.map fun e => (e.1, e.2.blank)))
      fun entry entry' => entry' = entry.blank := by
  rw [entryOf, entryOf]
  cases column.text? with
  | some name =>
      refine Follows.ok ?_
      rw [get?_blank]
      cases row.get? name <;> rfl
  | none =>
      dsimp only
      split
      · exact Follows.ok rfl
      · exact Follows.error _ _ _

theorem memberFragment_blank (column v : Value) :
    Follows (memberFragment column v) (memberFragment column v.blankRow) Alike := by
  cases v with
  | map row =>
      refine Follows.bind (entryOf_blank column row) fun entry entry' h => Follows.pure ?_
      rw [h]
      exact boundOrNull_blank entry
  | null => exact Follows.ok (.refl _)
  | expr e => exact Follows.ok (.refl _)
  | _ => exact Follows.ok (.bound _ _)

theorem singleMembership_blank (d : Dialect) (negated : Bool) (column : Value)
    (values : List Value) :
    Follows (singleMembership d negated column values)
      (singleMembership d negated column (values.map Value.blankRow)) Alike := by
  rw [singleMembership, singleMembership]
  -- The form of the test depends on the number of members, which stays.
  refine Follows.bind (Follows.mapM_map _ (memberFragment_blank column) values)
    fun members members' h => ?_
  cases h with
  | nil => exact Follows.pure (.refl _)
  | cons hfirst hrest =>
      cases hrest with
      | nil => exact Follows.pure (.afterStepsOf _ ((Alike.refl _).append hfirst))
      | cons hsecond hmore =>
          have hjoin := Alike.join ", " (List.Forall₂.cons hfirst (.cons hsecond hmore))
          exact Follows.pure (.afterStepsOf _ ((Alike.refl _).append hjoin.parens))

theorem rowEntry_blank (row : Value) (i : Nat) (column : Value) :
    Follows (rowEntry row i column) (rowEntry row.blankRow i column)
      fun entry entry' => entry' = entry.blank := by
  -- An entry that the row does not have is null on both sides.
  have hitem : ∀ items : List Value,
      ((items.map Value.blank)[i]?).getD .null = ((items[i]?).getD .null).blank := by
    intro items
    rw [List.getElem?_map]
    cases items[i]? <;> rfl
  cases row with
  | map entries => exact entryOf_blank column entries
  | list items => exact Follows.ok (hitem items)
  | tuple items => exact Follows.ok (hitem items)
  | _ => exact Follows.ok rfl

theorem rowFragments_blank (row : Value) (i : Nat) (columns : List Value) :
    Follows (rowFragments row i columns) (rowFragments row.blankRow i columns)
      (List.Forall₂ Alike) := by
  induction columns generalizing i with
  | nil => exact Follows.ok .nil
  | cons column rest ih =>
      rw [rowFragments, rowFragments]
      refine Follows.bind (rowEntry_blank row i column) fun entry entry' h => ?_
      refine Follows.bind (ih (i + 1)) fun others others' hothers => Follows.pure ?_
      rw [h]
      exact .cons (rowEntryFragment_blank entry) hothers

theorem rowMembership_blank (d : Dialect) (negated : Bool) (columns rows : List Value) :
    Follows (rowMembership d negated columns rows)
      (rowMembership d negated columns (rows.map Value.blankRow)) Alike := by
  have hrow : ∀ row : Value,
      Follows (do return (Fragment.join ", " (← rowFragments row 0 columns)).parens)
        (do return (Fragment.join ", " (← rowFragments row.blankRow 0 columns)).parens) Alike := by
    intro row
    exact Follows.bind (rowFragments_blank row 0 columns) fun entries entries' hentries =>
      Follows.pure (Alike.join ", " hentries).parens
  rw [rowMembership, rowMembership]
  refine Follows.bind (Follows.mapM_map _ hrow rows) fun groups groups' h => ?_
  cases h with
  | nil => exact Follows.pure (.refl _)
  | cons hfirst hrest =>
      have hjoin := Alike.join ", " (List.Forall₂.cons hfirst hrest)
      exact Follows.pure (.afterStepsOf _ ((Alike.refl _).append hjoin.parens))

theorem chunkMembership_blank (d : Dialect) (negated : Bool) (column : Value)
    (values : List Value) :
    Follows (chunkMembership d negated column values)
      (chunkMembership d negated column (values.map Value.blankRow)) Alike := by
  rw [chunkMembership, chunkMembership]
  rcases column.asColumns with _ | ⟨one, _ | ⟨two, rest⟩⟩
  · exact rowMembership_blank d negated [] values
  · exact singleMembership_blank d negated one values
  · exact rowMembership_blank d negated (one :: two :: rest) values

/-- How a list is split depends on its length only. -/
theorem splitMembers_map (d : Dialect) (f : Value → Value) (values : List Value) :
    Follows (splitMembers d values) (splitMembers d (values.map f))
      fun parts parts' => parts' = parts.map fun chunks => chunks.map (List.map f) := by
  rw [splitMembers, splitMembers, List.length_map]
  split
  · exact Follows.ok rfl
  · split
    · exact Follows.ok rfl
    · split
      · exact Follows.error _ _ _
      · refine Follows.ok ?_
        simp [chunks, List.map_drop, List.map_take, Function.comp_def]

theorem membershipFragment_blank (d : Dialect) (negated : Bool) (column : Value)
    (values : List Value) :
    Follows (membershipFragment d negated column values)
      (membershipFragment d negated column (values.map Value.blankRow)) Alike := by
  rw [membershipFragment, membershipFragment]
  refine Follows.bind (splitMembers_map d Value.blankRow values) fun parts parts' h => ?_
  rw [h]
  cases parts with
  | none => exact chunkMembership_blank d negated column values
  | some chunks =>
      exact Follows.bind (Follows.mapM_map _ (chunkMembership_blank d negated column) chunks)
        fun tests tests' htests => Follows.pure (.grouped _ htests)

/-! ### Patterns -/

/-- A key that stands in the empty text stands in every text. -/
theorem occurs_of_occurs_nil (key s : List Char) (h : Text.occurs key [] = true) :
    Text.occurs key s = true := by
  have hkey : key = [] := List.isEmpty_iff.mp h
  rw [hkey]
  cases s <;> rfl

/-- Where a value can be escaped, the empty text can. -/
theorem escapeBy_blank (escape : Value) (s : String) :
    Follows (escapeBy escape s) (escapeBy escape "") Anything := by
  fun_cases escapeBy escape s with
  | case1 entries hall =>
      -- A replacement may be missing if its key does not occur; then it does not occur in nothing.
      have hblank : (entries.all fun e => (escapeText? e.2).isSome
          || !Text.occurs e.1.toList "".toList) = true := by
        rw [List.all_eq_true] at hall ⊢
        intro e he
        have hentry := hall e he
        rw [Bool.or_eq_true] at hentry ⊢
        rcases hentry with hsome | hnot
        · exact .inl hsome
        · refine .inr ?_
          rw [Bool.not_eq_true'] at hnot ⊢
          rw [← Bool.not_eq_true] at hnot ⊢
          exact fun hnil => hnot (occurs_of_occurs_nil _ _ hnil)
      rw [escapeBy, if_pos hblank]
      exact Follows.ok trivial
  | case2 entries hall => exact Follows.error _ _ _
  | case3 v hmap keys hkeys hany => exact Follows.error _ _ _
  | case4 v hmap keys hkeys hany =>
      -- The keys other than those of a mapping must not occur, and occur in nothing even less.
      have hblank : ¬(keys.any fun k => Text.occurs k.toList "".toList) = true := by
        intro hsome
        obtain ⟨k, hk, hoccurs⟩ := List.any_eq_true.mp hsome
        exact hany (List.any_eq_true.mpr ⟨k, hk, occurs_of_occurs_nil _ _ hoccurs⟩)
      rw [escapeBy, hkeys]
      · dsimp only
        rw [if_neg hblank]
        exact Follows.ok trivial
      · exact hmap
  | case5 v hmap hnone => exact Follows.error _ _ _

/-- The shown text of a value, or the empty text where the value is blanked. -/
theorem escapeBy_shown (escape v : Value) :
    Follows (escapeBy escape v.shown) (escapeBy escape v.blank.shown) Anything := by
  rw [Value.blank]
  split
  · exact escapeBy_blank escape v.shown
  · exact Follows.same (fun _ => trivial) _

theorem patternFragment_blank (escape v : Value) :
    Follows (patternFragment escape v) (patternFragment escape v.blank) Alike := by
  rcases v.expr_or_not with ⟨e, rfl⟩ | hexpr
  · exact Follows.ok (.refl _)
  · have hblank : ∀ e, v.blank = .expr e → False := by
      cases v with
      | expr e => exact (hexpr e rfl).elim
      | _ => exact fun e h => by cases h
    rw [patternFragment_eq escape hexpr, patternFragment_eq escape hblank]
    split
    · exact Follows.bind (escapeBy_shown escape v) fun s s' _ => Follows.pure (.bound _ _)
    · exact Follows.ok (.bound _ _)

/-- Expressions stay expressions, so the escape operand is asked for as often. -/
theorem servesAll_blank (escape : Value) (values : List Value) :
    servesAll escape (values.map Value.blank) = servesAll escape values := by
  cases escape with
  | stream keys =>
      -- Only raw expressions need no escaping, and they stay what they are.
      rw [servesAll, servesAll, List.filter_map, List.length_map]
      refine congrArg (fun asked : List Value => decide (asked.length ≤ 1))
        (List.filter_congr fun v _ => ?_)
      cases v <;> rfl
  | _ => rfl

theorem members_blank (v : Value) :
    (v.blankMembers Value.blank).members = v.members.map Value.blank := by
  cases v <;> rfl

theorem members_blankRow (v : Value) :
    (v.blankMembers Value.blankRow).members = v.members.map Value.blankRow := by
  cases v <;> rfl

theorem likeFragment_blank (d : Dialect) (any negated caseless : Bool)
    (column values escape : Value) :
    Follows (likeFragment d any negated caseless column values escape)
      (likeFragment d any negated caseless column (values.blankMembers Value.blank) escape)
      Alike := by
  rw [likeFragment, likeFragment]
  dsimp only
  rw [members_blank, servesAll_blank, List.isEmpty_map]
  split
  · exact Follows.same .refl _
  · split
    · exact Follows.error _ _ _
    · refine Follows.bind (Follows.mapM_map _ (patternFragment_blank _) values.members)
        fun patterns patterns' h => Follows.pure ?_
      refine (Alike.refl _).append (.join _ ?_)
      rw [List.forall₂_map_left_iff, List.forall₂_map_right_iff]
      exact h.imp fun p p' hp => ((Alike.refl _).append hp).append (.refl _)

theorem isNull_blankMembers (v : Value) :
    (v.blankMembers Value.blank).isNull = v.isNull := by
  cases v <;> rfl

theorem betweenFragment_blank (d : Dialect) (negated : Bool) (column low high : Value) :
    Follows (betweenFragment d negated [column, low, high])
      (betweenFragment d negated [column, low.blank, high.blank]) Alike := by
  rw [betweenFragment, betweenFragment, isNull_blank, isNull_blank]
  split
  · exact Follows.error _ _ _
  · exact Follows.ok ((((Alike.refl _).append (boundFragment_blank low)).append
      (.refl _)).append (boundFragment_blank high))

theorem patternTest_blank (d : Dialect) (any negated caseless : Bool) (column values : Value)
    (rest : List Value) :
    Follows (patternTest d any negated caseless (column :: values :: rest))
      (patternTest d any negated caseless
        (column :: values.blankMembers Value.blank :: rest)) Alike := by
  rcases rest with _ | ⟨escape, _ | ⟨extra, more⟩⟩
  · rw [patternTest, patternTest, isNull_blankMembers]
    split
    · exact Follows.error _ _ _
    · exact likeFragment_blank d any negated caseless column values .null
  · rw [patternTest, patternTest, isNull_blankMembers]
    split
    · exact Follows.error _ _ _
    · exact likeFragment_blank d any negated caseless column values escape
  · have htoomany : ∀ v, patternTest d any negated caseless (column :: v :: escape :: extra :: more)
        = buildError (.twoOperands (Operator.like any negated caseless).keyword) := fun v =>
      ite_self _
    rw [htoomany]
    exact Follows.error _ _ _

/-! ### Tests -/

theorem conjunction_alike {fs gs : List Fragment} (h : List.Forall₂ Alike fs gs) :
    Alike (conjunction fs) (conjunction gs) := by
  cases h with
  | nil => exact .refl _
  | cons hfirst hrest =>
      cases hrest with
      | nil => exact hfirst
      | cons hsecond hmore =>
          exact (Alike.join _ (List.Forall₂.cons hfirst (.cons hsecond hmore))).parens

theorem negation_alike {f g : Fragment} (h : Alike f g) : Alike (negation f) (negation g) := by
  rw [negation, negation, h.isEmpty_eq]
  split
  · exact h
  · exact (Alike.refl _).append h.parens

theorem queryMembership_alike (d : Dialect) (negated : Bool) (column : Value)
    {rows rows' : Fragment} (h : Alike rows rows') :
    Alike (queryMembership d negated column rows) (queryMembership d negated column rows') :=
  .afterStepsOf _ ((Alike.refl _).append h.parens)

/-! ### Clauses -/

theorem selectClause_alike (distinct option : Value) {fs gs : List Fragment}
    (h : List.Forall₂ Alike fs gs) :
    Alike (selectClause distinct option fs) (selectClause distinct option gs) := by
  refine (Alike.refl _).append ?_
  cases h with
  | nil => exact .refl _
  | cons hfirst hrest => exact .join ", " (.cons hfirst hrest)

theorem fromClause_alike {fs gs : List Fragment} (h : List.Forall₂ Alike fs gs) :
    Alike (fromClause fs) (fromClause gs) := by
  cases h with
  | nil => exact .refl _
  | cons hfirst hrest => exact (Alike.refl _).append (.join ", " (.cons hfirst hrest))

theorem paged_alike (d : Dialect) {sql sql' : Fragment} (h : Alike sql sql')
    (keys : List OrderKey) (limit offset : Value) :
    Follows (d.paged sql keys limit offset) (d.paged sql' keys limit offset) Alike := by
  rw [Dialect.paged, Dialect.paged]
  refine Follows.bind (Follows.same (R := Eq) (fun _ => rfl) _) fun order order' heq => ?_
  -- The ordering is the same on both sides.
  rw [← heq]
  have hordered : Alike (if order.isEmpty then sql ++ order else sql ++ ofText " " ++ order)
      (if order.isEmpty then sql' ++ order else sql' ++ ofText " " ++ order) := by
    split
    · exact h.append (.refl _)
    · exact (h.append (.refl _)).append (.refl _)
  revert hordered
  generalize (if order.isEmpty then sql ++ order else sql ++ ofText " " ++ order) = ordered
  generalize (if order.isEmpty then sql' ++ order else sql' ++ ofText " " ++ order) = ordered'
  intro hordered
  dsimp only
  split
  · split
    · exact Follows.pure hordered
    · exact Follows.pure (((Alike.refl _).append hordered).append (.refl _))
  · refine Follows.pure ?_
    split
    · exact hordered
    · exact hordered.append (.refl _)

/-- The clauses of a query up to HAVING. -/
theorem clauses_alike (distinct option : Value) (params : Entries Value) (groupBy : Fragment)
    {items items' sources sources' joins joins' : List Fragment}
    {where_ where_' having having' : Fragment} (hitems : List.Forall₂ Alike items items')
    (hsources : List.Forall₂ Alike sources sources') (hjoins : List.Forall₂ Alike joins joins')
    (hwhere : Alike where_ where_') (hhaving : Alike having having') :
    Alike (Fragment.merging params ++ .joinShown " " [selectClause distinct option items,
        fromClause sources, Fragment.join " " joins, where_, groupBy, having])
      (Fragment.merging params ++ .joinShown " " [selectClause distinct option items',
        fromClause sources', Fragment.join " " joins', where_', groupBy, having']) := by
  have hselect := selectClause_alike distinct option hitems
  exact (Alike.refl _).append (.joinShown " " (.cons hselect (.cons (fromClause_alike hsources)
    (.cons (.join " " hjoins) (.cons hwhere (.cons (.refl _) (.cons hhaving .nil)))))))

theorem united_alike {paged paged' : Fragment} {united united' : List Fragment}
    (hpaged : Alike paged paged') (hunited : List.Forall₂ Alike united united') :
    Alike (if united.isEmpty then paged else paged.parens ++ ofText " " ++ .join " " united)
      (if united'.isEmpty then paged'
        else paged'.parens ++ ofText " " ++ .join " " united') := by
  cases hunited with
  | nil => exact hpaged
  | cons hfirst hrest =>
      exact (hpaged.parens.append (.refl _)).append (.join " " (.cons hfirst hrest))

/-! ### Positions that may hold a query -/

/-- What a position that may hold a query needs to know of it. -/
def QueryFollows (d : Dialect) (value : Value) : Prop :=
  ∀ q, value = .query q → Follows (q.fragment d) (q.masked.fragment d) Alike

theorem columnTest_masked {d : Dialect} (subqueries : Bool) (column : String) {value : Value}
    (h : QueryFollows d value) :
    Follows (columnTest d subqueries column value) (columnTest d subqueries column
      (value.masked (Value.blankMembers Value.blankRow))) Alike := by
  cases value with
  | null => exact Follows.pure (.refl _)
  | query q =>
      show Follows (columnTest d subqueries column (.query q))
        (columnTest d subqueries column (.query q.masked)) Alike
      rw [columnTest, columnTest]
      split
      · exact Follows.bind (h q rfl) fun rows rows' hrows =>
          Follows.pure (queryMembership_alike d false _ hrows)
      · exact Follows.error _ _ _
  | expr e => exact Follows.pure (.refl _)
  | list items => exact membershipFragment_blank d false (.text column) items
  | tuple items => exact membershipFragment_blank d false (.text column) items
  | stream items => exact membershipFragment_blank d false (.text column) items
  | _ => exact Follows.pure ((Alike.refl _).append (.bound _ _))

/-- A position that may hold a query still holds one, or still holds none. -/
theorem masked_query_or_not {blanked : Value → Value} (v : Value)
    (h : (∀ q, v = .query q → False) → ∀ q, blanked v = .query q → False) :
    (∃ q, v = .query q ∧ v.masked blanked = .query q.masked) ∨
      (∀ q, v = .query q → False) ∧ v.masked blanked = blanked v ∧
        ∀ q, blanked v = .query q → False := by
  cases v with
  | query q => exact .inl ⟨q, rfl, rfl⟩
  | _ =>
      refine .inr ⟨?_, rfl, h ?_⟩
      · exact fun q hq => by cases hq
      · exact fun q hq => by cases hq

theorem membershipNode_masked {d : Dialect} (subqueries negated : Bool) (column : Value)
    {values : Value} (h : QueryFollows d values) :
    Follows (nodeFragment d subqueries (.membership negated) [column, values])
      (nodeFragment d subqueries (.membership negated)
        [column, values.masked (Value.blankMembers Value.blankRow)]) Alike := by
  have hblank : (∀ q, values = .query q → False) →
      ∀ q, values.blankMembers Value.blankRow = .query q → False := by
    intro hquery q hq
    cases values with
    | query r => exact hquery r rfl
    | _ => cases hq
  have hnull : (values.blankMembers Value.blankRow).isNull = values.isNull := by
    cases values <;> rfl
  -- A query is compiled; of anything else the members count.
  rcases masked_query_or_not values hblank with ⟨q, rfl, hmasked⟩ | ⟨hquery, hmasked, hnot⟩
  · rw [hmasked, nodeFragment, nodeFragment,
      show (Value.query q.masked).isNull = (Value.query q).isNull from rfl]
    split
    · exact Follows.error _ _ _
    · split
      · exact Follows.ok (.refl _)
      · split
        · exact Follows.bind (h q rfl) fun rows rows' hrows =>
            Follows.pure (queryMembership_alike d negated column hrows)
        · exact Follows.error _ _ _
  · rw [hmasked, nodeFragment, nodeFragment, hnull, members_blankRow]
    · split
      · exact Follows.error _ _ _
      · split
        · exact Follows.ok (.refl _)
        · exact membershipFragment_blank d negated column values.members
    · exact hnot
    · exact hquery

theorem existenceNode_masked {d : Dialect} (subqueries negated : Bool) {value : Value}
    (h : QueryFollows d value) :
    Follows (nodeFragment d subqueries (.existence negated) [value])
      (nodeFragment d subqueries (.existence negated) [value.masked id]) Alike := by
  cases value with
  | query q =>
      show Follows (nodeFragment d subqueries (.existence negated) [.query q])
        (nodeFragment d subqueries (.existence negated) [.query q.masked]) Alike
      rw [nodeFragment, nodeFragment]
      split
      · exact Follows.bind (h q rfl) fun rows rows' hrows =>
          Follows.pure ((Alike.refl _).append hrows.parens)
      · exact Follows.error _ _ _
  | _ => exact Follows.error _ _ _

theorem compareNode_masked {d : Dialect} (subqueries : Bool) (symbol : String) (column : Value)
    {value : Value} (h : QueryFollows d value) :
    Follows (nodeFragment d subqueries (.compare symbol) [column, value])
      (nodeFragment d subqueries (.compare symbol) [column, value.masked Value.blank]) Alike := by
  cases value with
  | query q =>
      show Follows (nodeFragment d subqueries (.compare symbol) [column, .query q])
        (nodeFragment d subqueries (.compare symbol) [column, .query q.masked]) Alike
      rw [nodeFragment, nodeFragment]
      split
      · exact Follows.bind (h q rfl) fun rows rows' hrows =>
          Follows.pure ((Alike.refl _).append hrows.parens)
      · exact Follows.error _ _ _
  | null => exact Follows.ok (.refl _)
  | expr e => exact Follows.ok (.refl _)
  | _ => exact Follows.ok ((Alike.refl _).append (.bound _ _))

theorem SelectItem.fragment_masked {d : Dialect} (expr : Value) (alias? : Option String)
    (h : QueryFollows d expr) :
    Follows (SelectItem.fragment d ⟨expr, alias?⟩)
      (SelectItem.fragment d ⟨expr.masked id, alias?⟩) Alike := by
  cases expr with
  | query q =>
      cases alias? with
      | none => exact Follows.error _ _ _
      | some alias_ =>
          exact Follows.bind (h q rfl) fun rows rows' hrows =>
            Follows.pure (hrows.parens.append (.refl _))
  | _ => exact Follows.same .refl _

theorem TableRef.fragment_masked {d : Dialect} (clause : String) (source : Value)
    (alias? : Option String) (h : QueryFollows d source) :
    Follows (TableRef.fragment d clause ⟨source, alias?⟩)
      (TableRef.fragment d clause ⟨source.masked id, alias?⟩) Alike := by
  cases source with
  | query q =>
      cases alias? with
      | none => exact Follows.error _ _ _
      | some alias_ =>
          exact Follows.bind (h q rfl) fun rows rows' hrows =>
            Follows.pure (hrows.parens.append (.refl _))
  | _ => exact Follows.same .refl _

theorem branchFragment_masked {d : Dialect} {query : Value} (h : QueryFollows d query) :
    Follows (branchFragment d query) (branchFragment d (query.masked id)) Alike := by
  cases query with
  | query q => exact h q rfl
  | _ => exact Follows.same .refl _

/-! ### Spelling -/

/-- The operands of a logical operator are conditions, unless there are too many or too few. -/
theorem nodeMasked_logical {op : Operator} (h : op.isLogical = true) (operands : List Value) :
    nodeMasked op operands = operandsMasked operands ∨ nodeMasked op operands = operands := by
  cases op with
  | and => cases operands <;> exact .inl rfl
  | or => cases operands <;> exact .inl rfl
  | not =>
      rcases operands with _ | ⟨v, _ | ⟨w, rest⟩⟩
      · exact .inr rfl
      · exact .inl rfl
      · exact .inr rfl
  | _ => cases h

mutual

/-- A shorthand list is spelled well after its scalars are blanked. -/
theorem nodeOfShorthand_masked : (items : List Value) →
    Follows (nodeOfShorthand items) (nodeOfShorthand (shorthandMasked items)) Anything
  | [] => Follows.same (fun _ => trivial) _
  | head :: operands => by
      have hoperands := logicalOperands_masked operands
      rw [shorthandMasked]
      cases hop : head.headOperator with
      | error e => exact Follows.same (fun _ => trivial) _
      | ok op =>
          dsimp only
          rw [nodeOfShorthand, nodeOfShorthand, hop]
          refine Follows.bind (Follows.ok (R := fun a b => a = op ∧ b = op) ⟨rfl, rfl⟩)
            fun a b hab => ?_
          rw [hab.1, hab.2]
          -- Only the operands of a logical operator are spelled out.
          by_cases hlogical : op.isLogical = true
          · rw [if_pos hlogical, if_pos hlogical]
            rcases nodeMasked_logical hlogical operands with hmasked | hmasked
            · rw [hmasked]
              exact Follows.bind hoperands fun _ _ _ => Follows.pure trivial
            · rw [hmasked]
              exact Follows.same (fun _ => trivial) _
          · rw [if_neg hlogical, if_neg hlogical]
            exact Follows.pure trivial

theorem logicalOperands_masked : (operands : List Value) →
    Follows (logicalOperands operands) (logicalOperands (operandsMasked operands)) Anything
  | [] => Follows.same (fun _ => trivial) _
  | .list items :: rest => by
      rw [operandsMasked, Value.conditionMasked, logicalOperands, logicalOperands]
      refine Follows.bind (nodeOfShorthand_masked items) fun _ _ _ => ?_
      exact Follows.bind (logicalOperands_masked rest) fun _ _ _ => Follows.pure trivial
  | .tuple items :: rest => by
      rw [operandsMasked, Value.conditionMasked, logicalOperands, logicalOperands]
      refine Follows.bind (nodeOfShorthand_masked items) fun _ _ _ => ?_
      exact Follows.bind (logicalOperands_masked rest) fun _ _ _ => Follows.pure trivial
  | .map _ :: rest => by
      rw [operandsMasked, Value.conditionMasked, logicalOperands, logicalOperands]
      exact Follows.bind (logicalOperands_masked rest) fun _ _ _ => Follows.pure trivial
  | .null :: rest | .bool _ :: rest | .int _ :: rest | .float _ :: rest | .text _ :: rest
  | .bytes _ :: rest | .stream _ :: rest | .typed .. :: rest | .out .. :: rest
  | .expr _ :: rest | .hash _ :: rest | .cond .. :: rest | .query _ :: rest | .item _ :: rest
  | .ref _ :: rest | .join _ :: rest | .order _ :: rest | .branch _ :: rest
  | .direction _ :: rest | .isolation _ :: rest | .columnType _ :: rest => by
      simp only [operandsMasked, Value.conditionMasked, logicalOperands]
      exact Follows.bind (logicalOperands_masked rest) fun _ _ _ => Follows.pure trivial

end

/-! ### The recursion -/

mutual

theorem Value.conditionFragment_masked (d : Dialect) (subqueries : Bool) : (v : Value) →
    Follows (v.conditionFragment d subqueries) (v.conditionMasked.conditionFragment d subqueries)
      Alike
  | .map columns =>
      Follows.bind (columnTests_masked d subqueries columns) fun _ _ h =>
        Follows.pure (conjunction_alike h)
  | .hash columns =>
      Follows.bind (columnTests_masked d subqueries columns) fun _ _ h =>
        Follows.pure (conjunction_alike h)
  | .list items => shorthandFragment_masked d subqueries items
  | .tuple items => shorthandFragment_masked d subqueries items
  | .cond op operands => nodeFragment_masked d subqueries op operands
  | .null | .expr _ | .text _ | .direction _ | .isolation _ | .columnType _ | .bool _ | .int _
  | .float _ | .bytes _ | .stream _ | .typed .. | .out .. | .query _ | .item _ | .ref _ | .join _
  | .order _ | .branch _ => Follows.same .refl _

theorem shorthandFragment_masked (d : Dialect) (subqueries : Bool) : (items : List Value) →
    Follows (shorthandFragment d subqueries items)
      (shorthandFragment d subqueries (shorthandMasked items)) Alike
  | [] => Follows.same .refl _
  | head :: operands => by
      have hnode := fun op => nodeFragment_masked d subqueries op operands
      have hspelling := nodeOfShorthand_masked (head :: operands)
      rw [shorthandMasked] at hspelling ⊢
      cases hop : head.headOperator with
      | error e => exact Follows.same .refl _
      | ok op =>
          rw [hop] at hspelling
          dsimp only at hspelling ⊢
          -- The whole list has to be spelled well before its node is compiled.
          rw [shorthandFragment, shorthandFragment, hop]
          refine Follows.bind hspelling fun _ _ _ => ?_
          exact hnode op

theorem columnTests_masked (d : Dialect) (subqueries : Bool) :
    (columns : List (String × Value)) →
      Follows (columnTests d subqueries columns)
        (columnTests d subqueries (columnsMasked columns)) (List.Forall₂ Alike)
  | [] => Follows.ok .nil
  | (column, value) :: rest => by
      rw [columnsMasked, columnTests_cons, columnTests_cons]
      refine Follows.bind (columnTest_masked subqueries column (value.queryFollows d))
        fun test test' htest => ?_
      exact Follows.bind (columnTests_masked d subqueries rest) fun tests tests' htests =>
        Follows.pure (.cons htest htests)

theorem Value.queryFollows (d : Dialect) : (v : Value) → QueryFollows d v
  | .query q => fun r hr => by
      cases hr
      exact Query.fragment_masked d q
  | .null | .bool _ | .int _ | .float _ | .text _ | .bytes _ | .list _ | .tuple _ | .stream _
  | .map _ | .typed .. | .out .. | .expr _ | .hash _ | .cond .. | .item _ | .ref _ | .join _
  | .order _ | .branch _ | .direction _ | .isolation _ | .columnType _ => fun _ hr => by cases hr

theorem nodeFragment_masked (d : Dialect) (subqueries : Bool) :
    (op : Operator) → (operands : List Value) →
      Follows (nodeFragment d subqueries op operands)
        (nodeFragment d subqueries op (nodeMasked op operands)) Alike
  | .and, v :: rest =>
      Follows.bind (v.conditionFragment_masked d subqueries) fun _ _ hfirst =>
        Follows.bind (operandFragments_masked d subqueries rest) fun _ _ hrest =>
          Follows.pure (.grouped _ (.cons hfirst hrest))
  | .or, v :: rest =>
      Follows.bind (v.conditionFragment_masked d subqueries) fun _ _ hfirst =>
        Follows.bind (operandFragments_masked d subqueries rest) fun _ _ hrest =>
          Follows.pure (.grouped _ (.cons hfirst hrest))
  | .not, [operand] =>
      Follows.bind (operand.conditionFragment_masked d subqueries) fun _ _ h =>
        Follows.pure (negation_alike h)
  | .between negated, [column, low, high] => by
      rw [nodeMasked, nodeFragment, nodeFragment]
      exact betweenFragment_blank d negated column low high
  | .membership negated, [column, values] =>
      membershipNode_masked subqueries negated column (values.queryFollows d)
  | .like any negated caseless, column :: values :: rest => by
      rw [nodeMasked, nodeFragment, nodeFragment]
      exact patternTest_blank d any negated caseless column values rest
  | .existence negated, [value] =>
      existenceNode_masked subqueries negated (value.queryFollows d)
  | .compare symbol, [column, value] =>
      compareNode_masked subqueries symbol column (value.queryFollows d)
  | .and, [] | .or, [] | .not, [] | .not, _ :: _ :: _ | .between _, [] | .between _, [_]
  | .between _, [_, _] | .between _, _ :: _ :: _ :: _ :: _ | .membership _, []
  | .membership _, [_] | .membership _, _ :: _ :: _ :: _ | .like .., [] | .like .., [_]
  | .existence _, [] | .existence _, _ :: _ :: _ | .compare _, [] | .compare _, [_]
  | .compare _, _ :: _ :: _ :: _ => Follows.same .refl _

theorem operandFragments_masked (d : Dialect) (subqueries : Bool) : (operands : List Value) →
    Follows (operandFragments d subqueries operands)
      (operandFragments d subqueries (operandsMasked operands)) (List.Forall₂ Alike)
  | [] => Follows.ok .nil
  | v :: rest =>
      Follows.bind (v.conditionFragment_masked d subqueries) fun _ _ hfirst =>
        Follows.bind (operandFragments_masked d subqueries rest) fun _ _ hrest =>
          Follows.pure (.cons hfirst hrest)

theorem Query.fragment_masked (d : Dialect) : (q : Query) →
    Follows (q.fragment d) (q.masked.fragment d) Alike
  | ⟨items, distinct, option, sources, joins, filter, grouping, groupFilter, ordering, limit,
      offset, branches, params⟩ => by
      rw [Query.masked, Query.fragment, Query.fragment]
      refine Follows.bind (itemFragments_masked d items) fun _ _ hitems => ?_
      refine Follows.bind (sourceFragments_masked d sources) fun _ _ hsources => ?_
      refine Follows.bind (joinFragments_masked d joins) fun _ _ hjoins => ?_
      refine Follows.bind (filter.conditionFragment_masked d true) fun _ _ hwhere => ?_
      refine Follows.bind (Follows.same (R := Eq) (fun _ => rfl) (groupByClause d grouping))
        fun groupBy groupBy' hgroupBy => ?_
      -- No value is bound in GROUP BY.
      rw [← hgroupBy]
      refine Follows.bind (groupFilter.conditionFragment_masked d true) fun _ _ hhaving => ?_
      have hclauses := clauses_alike distinct option params groupBy hitems hsources hjoins
        (hwhere.headed "WHERE") (hhaving.headed "HAVING")
      refine Follows.bind (paged_alike d hclauses ordering limit offset) fun _ _ hpaged => ?_
      refine Follows.bind (branchFragments_masked d branches) fun _ _ hunited => ?_
      exact Follows.pure (united_alike hpaged hunited)

theorem itemFragments_masked (d : Dialect) : (items : List SelectItem) →
    Follows (itemFragments d items) (itemFragments d (itemsMasked items)) (List.Forall₂ Alike)
  | [] => Follows.ok .nil
  | ⟨expr, alias?⟩ :: rest =>
      Follows.bind (SelectItem.fragment_masked expr alias? (expr.queryFollows d)) fun _ _ hfirst =>
        Follows.bind (itemFragments_masked d rest) fun _ _ hrest =>
          Follows.pure (.cons hfirst hrest)

theorem sourceFragments_masked (d : Dialect) : (sources : List TableRef) →
    Follows (sourceFragments d sources) (sourceFragments d (sourcesMasked sources))
      (List.Forall₂ Alike)
  | [] => Follows.ok .nil
  | ⟨source, alias?⟩ :: rest =>
      Follows.bind (TableRef.fragment_masked "FROM" source alias? (source.queryFollows d))
        fun _ _ hfirst => Follows.bind (sourceFragments_masked d rest) fun _ _ hrest =>
          Follows.pure (.cons hfirst hrest)

theorem joinFragments_masked (d : Dialect) : (joins : List Join) →
    Follows (joinFragments d joins) (joinFragments d (joinsMasked joins)) (List.Forall₂ Alike)
  | [] => Follows.ok .nil
  | ⟨kind, ⟨source, alias?⟩, on⟩ :: rest => by
      rw [joinsMasked, joinFragments, joinFragments]
      split
      · exact Follows.error _ _ _
      · refine Follows.bind (TableRef.fragment_masked "JOIN" source alias?
          (source.queryFollows d)) fun _ _ htable => ?_
        refine Follows.bind (on.conditionFragment_masked d true) fun _ _ hcondition => ?_
        refine Follows.bind (joinFragments_masked d rest) fun _ _ hrest => Follows.pure ?_
        exact .cons (((Alike.refl _).append htable).append (hcondition.headed " ON")) hrest

theorem branchFragments_masked (d : Dialect) : (branches : List UnionBranch) →
    Follows (branchFragments d branches) (branchFragments d (branchesMasked branches))
      (List.Forall₂ Alike)
  | [] => Follows.ok .nil
  | ⟨query, all⟩ :: rest => by
      rw [branchesMasked, branchFragments_cons, branchFragments_cons]
      refine Follows.bind (branchFragment_masked (query.queryFollows d)) fun _ _ hsql => ?_
      refine Follows.bind (branchFragments_masked d rest) fun _ _ hrest => Follows.pure ?_
      exact .cons (((Alike.refl _).append hsql).append (.refl _)) hrest

end

end SqlLoom
