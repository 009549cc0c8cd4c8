import SqlLoom.Proofs.Fragment.Fits

/-!
# `SqlLoom.Proofs.Compile`: what conditions and queries compile to

Whatever a description compiles to stands for its parts (`Stands`): the steps are those of the
parts, in their order, and every slot has its name and its neighbours. There is one theorem for
each function of the compiler. Those of the functions that call each other are one mutual
induction, which follows the recursion of the compiler case by case.

* `Value.conditionFragment_stands`: conditions in any spelling.
* `Query.fragment_stands`: queries.
-/

set_option autoImplicit false

namespace SqlLoom

open Fragment

/-! ### Columns and values -/

theorem Value.raw_rawParts (v : Value) : Raw v.rawParts := by
  intro p hp
  cases v with
  | expr e => exact ⟨e, List.mem_singleton.mp hp⟩
  | _ => cases hp

theorem raw_columns (columns : List Value) : Raw (columns.flatMap Value.rawParts) := by
  intro p hp
  obtain ⟨v, -, hv⟩ := List.mem_flatMap.mp hp
  exact v.raw_rawParts p hv

theorem columnFragment_stands (d : Dialect) (v : Value) :
    Stands d v.rawParts (columnFragment d v) := by
  cases v with
  | expr e => exact .ofExpression d e
  | _ => exact .ofText d _

theorem boundFragment_fits (d : Dialect) (v : Value) : Fits d v.boundParts (boundFragment v) := by
  cases v with
  | expr e => exact (Stands.ofExpression d e).toFits
  | _ => exact .bound d _

theorem boundOrNull_fits (d : Dialect) (v : Value) : Fits d v.nullableParts (boundOrNull v) := by
  cases v with
  | null => exact .ofText d _
  | expr e => exact (Stands.ofExpression d e).toFits
  | _ => exact .bound d _

/-- The members of a list with commas between them. -/
theorem commas_fits {d : Dialect} {ps : List Part} {fs : List Fragment} (h : Each (Fits d) ps fs) :
    Fits d ps (Fragment.join ", " fs) :=
  h.join (opens_of_space rfl) (closes_ofText ',' (by decide) rfl)

/-- An operator in words between a column and what is compared with it. -/
theorem Stands.operator {d : Dialect} {cs ps : List Part} {name f : Fragment}
    (hname : Stands d cs name) (words : String) (hf : Fits d ps f) :
    Stands d (cs ++ ps) (name ++ Fragment.ofText (" " ++ words ++ " ") ++ f) := by
  rw [Fragment.append_assoc]
  refine hname.append (Stands.text_append (opens_space _) hf) (.of_closes name (Closes.append ?_ f))
  rw [String.append_assoc]
  exact closes_space _

/-- The names of several columns in parentheses. -/
theorem columnNames_stands (d : Dialect) (columns : List Value) :
    Stands d (columns.flatMap Value.rawParts)
      (Fragment.join ", " (columns.map (columnFragment d))).parens := by
  exact (commas_fits (Each.map columns fun v => (columnFragment_stands d v).toFits)).parens_stands

/-! ### Membership -/

theorem nothingMatches_stands (d : Dialect) (negated : Bool) :
    Stands d [] (nothingMatches negated) := by
  cases negated with
  | true => exact .empty d
  | false => exact .ofText d _

/-- The words of a membership test open what follows them. -/
theorem membershipWords_opens (negated : Bool) : (membershipWords negated).Opens :=
  opens_space _

/-- A membership test in words, before what is in parentheses. -/
theorem membershipWords_stands {d : Dialect} (negated : Bool) {ps : List Part} {f : Fragment}
    (hf : Fits d ps f) : Stands d ps (membershipWords negated ++ f.parens) :=
  Stands.text_append (membershipWords_opens negated) hf.parens

theorem memberFragment_fits (d : Dialect) (column v : Value) :
    Gives (memberFragment column v) (Fits d (memberParts column v)) := by
  fun_cases memberFragment column v with
  | case1 row =>
      rw [memberParts]
      refine Gives.andThen fun entry hentry => Gives.pure ?_
      rw [hentry]
      exact boundOrNull_fits d entry
  | case2 v hmap =>
      rw [memberParts]
      · exact Gives.ok (boundOrNull_fits d v)
      · exact hmap

theorem singleMembership_stands (d : Dialect) (negated : Bool) (column : Value)
    (values : List Value) :
    Gives (singleMembership d negated column values) (Stands d (singleParts column values)) := by
  have hname := columnFragment_stands d column
  have hraw := column.raw_rawParts
  cases values with
  | nil => exact Gives.ok (nothingMatches_stands d negated)
  | cons v rest =>
      rw [singleMembership, singleParts]
      refine Gives.bind (Each.mapM (v :: rest) (memberFragment_fits d column)) fun members h => ?_
      obtain ⟨hmembers, hlength⟩ := h
      dsimp only
      split
      · -- There are as many members as values.
        cases hlength
      · -- A single value is compared with the column.
        rename_i one
        have hone : Fits d ((v :: rest).flatMap (memberParts column)) one := by
          rw [← join_singleton ", " one]
          exact commas_fits hmembers
        refine Gives.pure (hname.afterStepsOf hraw (Stands.text_append ?_ hone))
        cases negated with
        | true => exact opens_ofText '>' (by decide) rfl
        | false => exact opens_ofText '=' (by decide) rfl
      · exact Gives.pure (hname.afterStepsOf hraw
          (membershipWords_stands negated (commas_fits hmembers)))

/-! ### Rows -/

theorem rowEntryFragment_fits (d : Dialect) (v : Value) :
    Fits d (entryParts v) (rowEntryFragment v) := by
  cases v with
  | null => exact .ofText d _
  | _ => exact .bound d _

theorem rowFragments_fits (d : Dialect) (row : Value) (i : Nat) (columns : List Value) :
    Gives (rowFragments row i columns) (Each (Fits d) (rowParts row i columns)) := by
  induction columns generalizing i with
  | nil => exact Gives.ok .nil
  | cons column rest ih =>
      rw [rowFragments, rowParts]
      refine Gives.andThen fun entry hentry => ?_
      rw [hentry]
      refine Gives.bind (ih (i + 1)) fun others hothers => Gives.pure ?_
      exact .cons (rowEntryFragment_fits d entry) hothers

theorem rowMembership_stands (d : Dialect) (negated : Bool) (columns rows : List Value) :
    Gives (rowMembership d negated columns rows) (Stands d (rowsParts columns rows)) := by
  have hrow : ∀ row, Gives (do return (Fragment.join ", " (← rowFragments row 0 columns)).parens)
      (Fits d (rowParts row 0 columns)) := by
    intro row
    refine Gives.bind (rowFragments_fits d row 0 columns) fun entries hentries => ?_
    exact Gives.pure (commas_fits hentries).parens
  cases rows with
  | nil => exact Gives.ok (nothingMatches_stands d negated)
  | cons row rest =>
      rw [rowMembership, rowsParts]
      refine Gives.bind (Each.mapM (row :: rest) hrow) fun groups h => ?_
      obtain ⟨hgroups, hlength⟩ := h
      cases groups with
      | nil => cases hlength
      | cons group others =>
          refine Gives.pure ((columnNames_stands d columns).afterStepsOf (raw_columns columns) ?_)
          exact membershipWords_stands negated (commas_fits hgroups)

/-! ### Lists up to the ceiling and beyond -/

theorem chunkMembership_stands (d : Dialect) (negated : Bool) (column : Value)
    (values : List Value) :
    Gives (chunkMembership d negated column values) (Stands d (chunkParts column values)) := by
  rw [chunkMembership, chunkParts]
  rcases column.asColumns with _ | ⟨one, _ | ⟨two, rest⟩⟩
  · exact rowMembership_stands d negated [] values
  · exact singleMembership_stands d negated one values
  · exact rowMembership_stands d negated (one :: two :: rest) values

theorem membershipFragment_stands (d : Dialect) (negated : Bool) (column : Value)
    (values : List Value) :
    Gives (membershipFragment d negated column values)
      (Stands d (membershipParts d column values)) := by
  rw [membershipFragment, membershipParts]
  refine Gives.andThen fun split hsplit => ?_
  rw [hsplit]
  cases split with
  | none => exact chunkMembership_stands d negated column values
  | some chunks =>
      -- A list that is split becomes a group of tests, each for one chunk.
      have hchunk := fun chunk => (chunkMembership_stands d negated column chunk).imp
        fun _ h => h.toFits
      refine Gives.bind (Each.mapM chunks hchunk) fun tests htests => Gives.pure ?_
      exact htests.1.grouped _

/-! ### Patterns -/

theorem Value.expr_or_not (v : Value) : (∃ e, v = .expr e) ∨ ∀ e, v = .expr e → False := by
  cases v with
  | expr e => exact .inl ⟨e, rfl⟩
  | _ => exact .inr fun e h => by cases h

/-- A pattern value other than a raw expression is bound, escaped or as it is. -/
theorem patternFragment_eq (escape : Value) {v : Value} (hexpr : ∀ e, v = .expr e → False) :
    patternFragment escape v = if escape.isTruthy then do
        return .bound (.text ("%" ++ (← escapeBy escape v.shown) ++ "%"))
      else .ok (.bound v) := by
  rw [patternFragment]
  exact hexpr

theorem patternFragment_fits (d : Dialect) (escape v : Value) :
    Gives (patternFragment escape v) (Fits d (patternParts escape v)) := by
  rcases v.expr_or_not with ⟨e, rfl⟩ | hexpr
  · exact Gives.ok (Stands.ofExpression d e).toFits
  · have hparts : patternParts escape v = [.bound (patternValue escape v)] := by
      rw [patternParts]
      exact hexpr
    rw [patternFragment_eq escape hexpr, hparts, patternValue]
    split
    · refine Gives.andThen fun s hs => Gives.pure ?_
      rw [hs]
      exact .bound d _
    · exact Gives.ok (.bound d v)

/-- The declaration of the escape character starts with a space, where there is one. -/
theorem meets_escapeClause (d : Dialect) (f : Fragment) : f.Meets (ofText d.escapeClause) := by
  rw [Dialect.escapeClause]
  split
  · split
    · exact .of_nil_right f rfl
    · rw [String.append_assoc]
      exact .of_closes f (closes_ofText_append ' ' (by decide) rfl _)
  · exact .of_nil_right f rfl

/-- The steps of a name before tests of which the first one repeats its text: that test might as
well start with the name. -/
theorem join_textOnly (sep : String) (name f : Fragment) (fs : List Fragment) :
    ⟨name.steps, []⟩ ++ Fragment.join sep ((name.textOnly ++ f) :: fs)
      = Fragment.join sep ((name ++ f) :: fs) := by
  have hfirst : ⟨name.steps, []⟩ ++ (name.textOnly ++ f) = name ++ f := by
    show Fragment.mk _ _ = Fragment.mk _ _
    simp [textOnly]
  cases fs with
  | nil => rw [join_singleton, join_singleton, hfirst]
  | cons g rest => rw [join_cons_cons, join_cons_cons, ← hfirst]; simp only [append_assoc]

theorem likeFragment_stands (d : Dialect) (any negated caseless : Bool)
    (column values escape : Value) :
    Gives (likeFragment d any negated caseless column values escape)
      (Stands d (likeParts d column values escape)) := by
  have hname := columnFragment_stands d column
  have hraw := column.raw_rawParts
  rw [likeFragment, likeParts]
  split
  · exact Gives.pure (nothingMatches_stands d negated)
  · dsimp only
    split
    · exact Gives.error _ _
    · rename_i hmembers _
      refine Gives.bind (Each.mapM values.members (patternFragment_fits d _)) fun patterns h => ?_
      obtain ⟨hpatterns, hlength⟩ := h
      generalize values.members.flatMap _ = ps at hpatterns
      have hjoin : (ofText (if any then " OR " else " AND ")).Opens ∧
          (ofText (if any then " OR " else " AND ")).Closes := by
        cases any with
        | true => exact ⟨opens_of_space rfl, closes_of_space rfl⟩
        | false => exact ⟨opens_of_space rfl, closes_of_space rfl⟩
      -- One test has the parts of its pattern, and of the name before it.
      have htest : ∀ {cs ps name p}, Stands d cs name → Fits d ps p → Stands d (cs ++ ps) (name
          ++ ofText (" " ++ d.likeOperator (likeWords negated caseless) ++ " ") ++ p
          ++ ofText d.escapeClause) := by
        intro cs ps name p hname hp
        rw [append_assoc]
        exact hname.operator _ (hp.append_right (.ofText d _) (meets_escapeClause d p))
      cases hpatterns with
      | nil =>
          have hnil := List.eq_nil_of_length_eq_zero hlength.symm
          exact absurd (List.isEmpty_iff.mpr hnil) hmembers
      | @cons ps qs p rest hp hrest =>
          -- The first test takes over the steps of the name, and the others repeat its text only.
          have hothers := hrest.mapFragments fun ps p hp =>
            htest ⟨hname.toFits.textOnly hraw, hname.apart⟩ hp
          have hjoined := (Each.cons (htest hname hp) hothers).join_stands hjoin.1 hjoin.2
          rw [List.append_assoc, append_assoc, append_assoc] at hjoined
          refine Gives.pure ?_
          rw [List.map_cons, append_assoc, append_assoc, join_textOnly]
          exact hjoined

/-! ### Tests -/

theorem conjunction_stands {d : Dialect} {ps : List Part} {fs : List Fragment}
    (h : Each (Stands d) ps fs) : Stands d ps (conjunction fs) := by
  cases h with
  | nil => exact .empty d
  | @cons ps qs f rest hf hrest =>
      cases hrest with
      | nil =>
          rw [List.append_nil]
          exact hf
      | cons hg hmore =>
          have hfits := (Each.cons hf (Each.cons hg hmore)).imp fun _ _ h => h.toFits
          refine (hfits.join ?_ ?_).parens_stands
          · exact opens_ofText '(' (by decide) rfl
          · exact closes_ofText ')' (by decide) rfl

theorem negation_stands {d : Dialect} {ps : List Part} {f : Fragment} (hf : Stands d ps f) :
    Stands d ps (negation f) := by
  rw [negation]
  split
  · exact hf
  · exact Stands.text_append (opens_of_space rfl) hf.toFits.parens

theorem headed_stands {d : Dialect} {ps : List Part} {f : Fragment} (keyword : String)
    (hf : Stands d ps f) : Stands d ps (f.headed keyword) := by
  rw [headed]
  split
  · exact hf
  · exact Stands.text_append (opens_space keyword) hf.toFits

theorem queryMembership_stands {d : Dialect} (negated : Bool) (column : Value) {ps : List Part}
    {rows : Fragment} (hrows : Fits d ps rows) :
    Stands d (ps ++ column.asColumns.flatMap Value.rawParts)
      (queryMembership d negated column rows) := by
  have hwords := membershipWords_stands negated hrows
  have hraw := raw_columns column.asColumns
  -- A column by itself has no parentheses.
  have hone : column.asColumns = [column] →
      Stands d (column.asColumns.flatMap Value.rawParts) (columnFragment d column) := by
    intro hcolumn
    rw [hcolumn, List.flatMap_singleton]
    exact columnFragment_stands d column
  cases column with
  | list columns => exact (columnNames_stands d columns).afterStepsOf hraw hwords
  | tuple columns => exact (columnNames_stands d columns).afterStepsOf hraw hwords
  | _ => exact (hone rfl).afterStepsOf hraw hwords

/-- The test of one column of a hash. -/
def columnTest (d : Dialect) (subqueries : Bool) (column : String) (value : Value) :
    Except Error Fragment :=
  let name := columnFragment d (.text column)
  match value with
  | .null => pure (name ++ ofText " IS NULL")
  | .query q =>
    if subqueries then do return queryMembership d false (.text column) (← q.fragment d)
    else buildError .noSubqueries
  | v =>
    if v.isCollection then membershipFragment d false (.text column) v.members
    else pure (name ++ ofText "=" ++ boundFragment v)

/-- The tests of a hash are those of its columns. -/
theorem columnTests_cons (d : Dialect) (subqueries : Bool) (column : String) (value : Value)
    (rest : List (String × Value)) :
    columnTests d subqueries ((column, value) :: rest) = do
      return (← columnTest d subqueries column value) :: (← columnTests d subqueries rest) := by
  cases value with
  | query q => cases subqueries <;> simp [columnTests, columnTest, buildError]
  | _ => rfl

theorem betweenFragment_stands (d : Dialect) (negated : Bool) (operands : List Value) :
    Gives (betweenFragment d negated operands)
      (Stands d (nodeParts d (.between negated) operands)) := by
  fun_cases betweenFragment d negated operands with
  | case1 column low high words hnull => exact Gives.error _ _
  | case2 column low high words hnull =>
      have hlow := boundFragment_fits d low
      have hhigh := boundFragment_fits d high
      -- The AND between the bounds closes the first one and opens the second.
      have hbounds : Fits d (low.boundParts ++ high.boundParts)
          (boundFragment low ++ (ofText " AND " ++ boundFragment high)) := by
        refine hlow.append ((Fits.ofText d _).append_left hhigh (.of_opens ?_ _)) ?_
        · exact opens_of_space rfl
        · exact .of_closes _ (Closes.append (closes_of_space rfl) _)
      have hassoc : columnFragment d column ++ ofText (" " ++ words ++ " ") ++ boundFragment low
          ++ ofText " AND " ++ boundFragment high = columnFragment d column
          ++ ofText (" " ++ words ++ " ")
          ++ (boundFragment low ++ (ofText " AND " ++ boundFragment high)) := by
        simp only [append_assoc]
      rw [nodeParts, List.append_assoc, hassoc]
      exact Gives.ok ((columnFragment_stands d column).operator words hbounds)
  | case3 operands h => exact Gives.error _ _

/-- Without an escape operand the one of the dialect counts, as for a null one. -/
theorem patternTest_stands (d : Dialect) (any negated caseless : Bool) (operands : List Value) :
    Gives (patternTest d any negated caseless operands)
      (Stands d (nodeParts d (.like any negated caseless) operands)) := by
  fun_cases patternTest d any negated caseless operands with
  | case1 column values rest failure hnull => exact Gives.error _ _
  | case2 column values hnull =>
      rw [nodeParts]
      exact likeFragment_stands d any negated caseless column values .null
  | case3 column values hnull escape =>
      rw [nodeParts]
      exact likeFragment_stands d any negated caseless column values escape
  | case4 column values rest failure hnull hnone hone => exact Gives.error _ _
  | case5 operands h => exact Gives.error _ _

/-! ### Clauses -/

theorem groupingFragment_stands (d : Dialect) (v : Value) :
    Gives (groupingFragment d v) (Stands d v.rawParts) := by
  fun_cases groupingFragment d v with
  | case1 e => exact Gives.ok (.ofExpression d e)
  | case2 v hexpr =>
      rw [Value.rawParts]
      · exact Gives.andThen fun name _ => Gives.pure (.ofText d name)
      · exact hexpr

theorem groupByClause_stands (d : Dialect) (columns : List Value) :
    Gives (groupByClause d columns) (Stands d (columns.flatMap Value.rawParts)) := by
  rw [groupByClause]
  split
  · rename_i hempty
    rw [List.isEmpty_iff.mp hempty]
    exact Gives.pure (.empty d)
  · refine Gives.bind (Each.mapM columns fun v => (groupingFragment_stands d v).imp
      fun _ h => h.toFits) fun names hnames => Gives.pure ?_
    exact Stands.text_append (opens_of_space rfl) (commas_fits hnames.1)

theorem orderKeyFragment_stands (d : Dialect) (key : OrderKey) :
    Gives (d.orderKeyFragment key) (Stands d key.expr.rawParts) := by
  rw [Dialect.orderKeyFragment]
  split
  · rename_i e he
    rw [he]
    exact Gives.ok (.ofExpression d e)
  · rename_i hexpr
    rw [Value.rawParts]
    · exact Gives.andThen fun name _ => Gives.pure (.ofText d _)
    · exact hexpr

theorem orderClause_stands (d : Dialect) (keys : List OrderKey) :
    Gives (d.orderClause keys) (Stands d (keys.flatMap fun key => key.expr.rawParts)) := by
  rw [Dialect.orderClause]
  split
  · rename_i hempty
    rw [List.isEmpty_iff.mp hempty]
    exact Gives.pure (.empty d)
  · refine Gives.bind (Each.mapM keys fun key => (orderKeyFragment_stands d key).imp
      fun _ h => h.toFits) fun names hnames => Gives.pure ?_
    exact Stands.text_append (opens_of_space rfl) (commas_fits hnames.1)

theorem paged_stands {d : Dialect} {ps : List Part} {sql : Fragment} (hsql : Stands d ps sql)
    (keys : List OrderKey) (limit offset : Value) :
    Gives (d.paged sql keys limit offset)
      (Stands d (ps ++ keys.flatMap (fun key => key.expr.rawParts) ++ limit.bareParts
        ++ offset.bareParts)) := by
  refine (gives_paged d sql keys limit offset).imp fun f hf => ?_
  obtain ⟨⟨order, horder, hframed⟩, hshown⟩ := hf
  have hkeys := orderClause_stands d keys order horder
  have hlimit : ∀ e, limit = .expr e → f.Shows e.text := fun e he => hshown e (.inl he)
  have hoffset : ∀ e, offset = .expr e → f.Shows e.text := fun e he => hshown e (.inr he)
  refine Stands.bare (Stands.bare (Stands.framed ?_ hframed) limit hlimit) offset hoffset
  -- An ordering follows after a space.
  split
  · rename_i hempty
    exact hsql.append hkeys (.of_nil_right sql ((isEmpty_iff_tokens order).mp hempty))
  · have hspace : (ofText " ").Opens := opens_of_space rfl
    rw [append_assoc]
    exact hsql.append (Stands.text_append hspace hkeys.toFits)
      (.of_closes sql ((closes_of_space rfl).append order))

theorem selectClause_stands {d : Dialect} (distinct option : Value) {ps : List Part}
    {items : List Fragment} (h : Each (Fits d) ps items) :
    Stands d (option.bareParts ++ ps) (selectClause distinct option items) := by
  have hhead : Stands d option.bareParts (ofText (selectHead distinct option ++ " ")) := by
    refine (Stands.ofText d _).bare option fun e he => shows_ofText ?_
    rw [he]
    exact selectHead_shows distinct e
  have hitems : Fits d ps (if items.isEmpty then ofText "*" else Fragment.join ", " items) := by
    split
    · rename_i hempty
      rw [List.isEmpty_iff.mp hempty] at h
      cases h
      exact .ofText d "*"
    · exact commas_fits h
  exact hhead.of_append (isEmpty_selectHead distinct option)
    (hhead.toFits.append hitems (.of_opens (opens_space _) _))

theorem fromClause_stands {d : Dialect} {ps : List Part} {sources : List Fragment}
    (h : Each (Fits d) ps sources) : Stands d ps (fromClause sources) := by
  rw [fromClause]
  split
  · rename_i hempty
    rw [List.isEmpty_iff.mp hempty] at h
    cases h
    exact .empty d
  · exact Stands.text_append (opens_of_space rfl) (commas_fits h)

/-- The clauses of a query up to HAVING. -/
theorem clauses_stands {d : Dialect} (distinct option : Value) (params : Entries Value)
    {ips sps jps wps gps hps : List Part} {items sources joins : List Fragment}
    {where_ groupBy having : Fragment} (hitems : Each (Fits d) ips items)
    (hsources : Each (Fits d) sps sources) (hjoins : Each (Fits d) jps joins)
    (hwhere : Stands d wps where_) (hgroupBy : Stands d gps groupBy)
    (hhaving : Stands d hps having) :
    Stands d ([.named params]
        ++ (option.bareParts ++ ips ++ (sps ++ (jps ++ (wps ++ (gps ++ hps))))))
      (Fragment.merging params ++ .joinShown " " [selectClause distinct option items,
        fromClause sources, Fragment.join " " joins, where_, groupBy, having]) := by
  have hopens : (ofText " ").Opens := opens_of_space rfl
  have hcloses : (ofText " ").Closes := closes_of_space rfl
  have hrest := Each.cons (fromClause_stands hsources).toFits
    (Each.cons (hjoins.join hopens hcloses) (Each.cons hwhere.toFits
      (Each.cons hgroupBy.toFits (Each.singleton hhaving.toFits))))
  have hselect := selectClause_stands distinct option hitems
  exact (Stands.merging d params).append (Each.joinShown_stands hopens hcloses hselect
    (isEmpty_selectClause distinct option items) hrest) (.of_nil_left rfl _)

/-- A query with the queries that are united with it. -/
theorem united_stands {d : Dialect} {ps qs : List Part} {paged : Fragment}
    {united : List Fragment} (hpaged : Stands d ps paged) (hunited : Each (Fits d) qs united) :
    Stands d (ps ++ qs) (if united.isEmpty then paged
      else paged.parens ++ ofText " " ++ .join " " united) := by
  have hopens : (ofText " ").Opens := opens_of_space rfl
  have hcloses : (ofText " ").Closes := closes_of_space rfl
  split
  · rename_i hempty
    rw [List.isEmpty_iff.mp hempty] at hunited
    cases hunited
    rw [List.append_nil]
    exact hpaged
  · rw [append_assoc]
    exact hpaged.toFits.parens_stands.append
      (Stands.text_append hopens (hunited.join hopens hcloses)) (.of_closes _ (hcloses.append _))

/-- A condition with its keyword is empty, or it follows after a space. -/
theorem meets_headed {keyword : String} (h : (ofText (keyword ++ " ")).Closes) (f g : Fragment) :
    f.Meets (g.headed keyword) := by
  rw [headed]
  split
  · rename_i hempty
    exact .of_nil_right f ((isEmpty_iff_tokens g).mp hempty)
  · exact .of_closes f (h.append g)

/-! ### Positions that may hold a query -/

theorem Value.query_or_not (v : Value) : (∃ q, v = .query q) ∨ ∀ q, v = .query q → False := by
  cases v with
  | query q => exact .inl ⟨q, rfl⟩
  | _ => exact .inr fun q h => by cases h

/-- What a position that may hold a query needs to know of it. -/
def QueryStands (d : Dialect) (value : Value) : Prop :=
  ∀ q, value = .query q → Gives (q.fragment d) (Stands d (q.parts d))

theorem columnTest_stands {d : Dialect} (subqueries : Bool) (column : String) {value : Value}
    (h : QueryStands d value) :
    Gives (columnTest d subqueries column value) (Stands d (columnParts d column value)) := by
  have hname := columnFragment_stands d (.text column)
  fun_cases columnTest d subqueries column value with
  | case1 => exact Gives.pure (hname.append (.ofText d " IS NULL")
      (.of_plain rfl (Stands.ofText d " IS NULL").apart))
  | case2 q hsub =>
      refine Gives.bind (h q rfl) fun rows hrows => Gives.pure ?_
      -- The column of a hash is a name and has no parts.
      have htest := queryMembership_stands false (.text column) hrows.toFits
      rwa [show (Value.text column).asColumns.flatMap Value.rawParts = [] from rfl,
        List.append_nil] at htest
  | case3 q hsub => exact Gives.error _ _
  | case4 v hnull hquery hcollection =>
      rw [columnParts, if_pos hcollection]
      · exact membershipFragment_stands d false (.text column) value.members
      · exact hnull
      · exact hquery
  | case5 name v hnull hquery hcollection =>
      have hvalue : Stands d value.boundParts (ofText "=" ++ boundFragment value) :=
        Stands.text_append (opens_ofText '=' (by decide) rfl) (boundFragment_fits d value)
      rw [columnParts, if_neg hcollection, append_assoc]
      · exact Gives.pure (hname.append hvalue (.of_plain rfl hvalue.apart))
      · exact hnull
      · exact hquery

theorem membershipNode_stands {d : Dialect} (subqueries negated : Bool) (column : Value)
    {values : Value} (h : QueryStands d values) :
    Gives (nodeFragment d subqueries (.membership negated) [column, values])
      (Stands d (nodeParts d (.membership negated) [column, values])) := by
  rw [nodeParts]
  rcases values.query_or_not with ⟨q, rfl⟩ | hquery
  · rw [nodeFragment]
    split
    · exact Gives.error _ _
    · split
      · exact Gives.ok (nothingMatches_stands d negated)
      · split
        · exact Gives.bind (h q rfl) fun rows hrows =>
            Gives.pure (queryMembership_stands negated column hrows.toFits)
        · exact Gives.error _ _
  · rw [nodeFragment, amongParts]
    · split
      · exact Gives.error _ _
      · split
        · exact Gives.ok (nothingMatches_stands d negated)
        · exact membershipFragment_stands d negated column values.members
    · exact hquery
    · exact hquery

theorem existenceNode_stands {d : Dialect} (subqueries negated : Bool) {value : Value}
    (h : QueryStands d value) :
    Gives (nodeFragment d subqueries (.existence negated) [value])
      (Stands d (nodeParts d (.existence negated) [value])) := by
  cases value with
  | query q =>
      rw [nodeFragment, nodeParts]
      split
      · refine Gives.bind (h q rfl) fun rows hrows => Gives.pure ?_
        exact Stands.text_append (opens_space _) hrows.toFits.parens
      · exact Gives.error _ _
  | _ => exact Gives.error _ _

theorem compareNode_stands {d : Dialect} (subqueries : Bool) (symbol : String) (column : Value)
    {value : Value} (h : QueryStands d value) :
    Gives (nodeFragment d subqueries (.compare symbol) [column, value])
      (Stands d (nodeParts d (.compare symbol) [column, value])) := by
  have hname := columnFragment_stands d column
  rcases value.query_or_not with ⟨q, rfl⟩ | hquery
  · rw [nodeFragment, nodeParts]
    split
    · exact Gives.bind (h q rfl) fun rows hrows =>
        Gives.pure (hname.operator symbol hrows.toFits.parens)
    · exact Gives.error _ _
  · rw [nodeFragment, nodeParts, comparedParts]
    · exact Gives.ok (hname.operator symbol (boundOrNull_fits d value))
    · exact hquery
    · exact hquery

theorem SelectItem.fragment_fits {d : Dialect} (item : SelectItem)
    (h : QueryStands d item.expr) : Gives (item.fragment d) (Fits d (item.parts d)) := by
  have hcloses : ∀ s, (ofText (" AS " ++ s)).Closes := closes_ofText_append ' ' (by decide) rfl
  obtain ⟨expr, alias?⟩ := item
  cases expr with
  | query q =>
      cases alias? with
      | none => exact Gives.error _ _
      | some alias_ =>
          exact Gives.bind (h q rfl) fun rows hrows =>
            Gives.pure (hrows.toFits.parens.framed (.before (hcloses _)))
  | expr e =>
      cases alias? with
      | none => exact Gives.ok (Stands.ofExpression d e).toFits
      | some alias_ =>
          exact Gives.ok ((Stands.ofExpression d e).toFits.framed (.before (hcloses _)))
  | _ => exact Gives.ok (.ofText d _)

theorem TableRef.fragment_fits {d : Dialect} (clause : String) (ref : TableRef)
    (h : QueryStands d ref.source) : Gives (ref.fragment d clause) (Fits d (ref.parts d)) := by
  obtain ⟨source, alias?⟩ := ref
  cases source with
  | query q =>
      cases alias? with
      | none => exact Gives.error _ _
      | some alias_ =>
          exact Gives.bind (h q rfl) fun rows hrows =>
            Gives.pure (hrows.toFits.parens.framed (.before (closes_space _)))
  | expr e =>
      cases alias? with
      | none => exact Gives.ok (Stands.ofExpression d e).toFits
      | some alias_ =>
          exact Gives.ok ((Stands.ofExpression d e).toFits.framed (.before (closes_space _)))
  | _ => exact Gives.ok (.ofText d _)

/-- One united query, which may be given as text. -/
def branchFragment (d : Dialect) (query : Value) : Except Error Fragment :=
  match query with
  | .query q => q.fragment d
  | v => pure (ofText v.shown)

/-- The united queries are compiled one after another. -/
theorem branchFragments_cons (d : Dialect) (query : Value) (all : Bool)
    (rest : List UnionBranch) :
    branchFragments d (⟨query, all⟩ :: rest) = do
      let sql ← branchFragment d query
      return (ofText (if all then "UNION ALL ( " else "UNION ( ") ++ sql ++ ofText " )")
        :: (← branchFragments d rest) := by
  cases query <;> rfl

theorem branchFragment_fits {d : Dialect} {query : Value} (h : QueryStands d query) :
    Gives (branchFragment d query) (Fits d (branchParts d query)) := by
  fun_cases branchFragment d query with
  | case1 q => exact (h q rfl).imp fun _ hf => hf.toFits
  | case2 v hquery =>
      rw [branchParts]
      · refine Gives.pure ((Fits.ofText d query.shown).bare query fun e he => ?_)
        rw [he]
        exact shows_ofText (List.infix_refl _)
      · exact hquery

/-! ### The recursion -/

mutual

theorem Value.conditionFragment_stands (d : Dialect) (subqueries : Bool) :
    (v : Value) → Gives (v.conditionFragment d subqueries) (Stands d (v.conditionParts d))
  | .null => Gives.ok (.empty d)
  | .expr e => Gives.ok (.ofExpression d e)
  | .map columns =>
      Gives.bind (columnTests_stands d subqueries columns) fun _ h =>
        Gives.pure (conjunction_stands h)
  | .hash columns =>
      Gives.bind (columnTests_stands d subqueries columns) fun _ h =>
        Gives.pure (conjunction_stands h)
  | .list items => shorthandFragment_stands d subqueries items
  | .tuple items => shorthandFragment_stands d subqueries items
  | .cond op operands => nodeFragment_stands d subqueries op operands
  | .text _ | .direction _ | .isolation _ | .columnType _ => Gives.ok (.ofText d _)
  | .bool _ | .int _ | .float _ | .bytes _ | .stream _ | .typed .. | .out .. | .query _ | .item _
  | .ref _ | .join _ | .order _ | .branch _ => Gives.error _ _

theorem shorthandFragment_stands (d : Dialect) (subqueries : Bool) :
    (items : List Value) →
      Gives (shorthandFragment d subqueries items) (Stands d (shorthandParts d items))
  | [] => Gives.ok (.empty d)
  | head :: operands => by
      rw [shorthandFragment, shorthandParts]
      refine Gives.andThen fun _ _ => Gives.andThen fun op hop => ?_
      rw [hop]
      exact nodeFragment_stands d subqueries op operands

theorem columnTests_stands (d : Dialect) (subqueries : Bool) :
    (columns : List (String × Value)) →
      Gives (columnTests d subqueries columns) (Each (Stands d) (columnsParts d columns))
  | [] => Gives.ok .nil
  | (column, value) :: rest => by
      rw [columnTests_cons, columnsParts]
      refine Gives.bind (columnTest_stands subqueries column ?_) fun test htest =>
        Gives.bind (columnTests_stands d subqueries rest) fun tests htests =>
          Gives.pure (Each.cons htest htests)
      exact value.queryStands d

theorem Value.queryStands (d : Dialect) : (v : Value) → QueryStands d v
  | .query q => fun r hr => by
      cases hr
      exact Query.fragment_stands d q
  | .null | .bool _ | .int _ | .float _ | .text _ | .bytes _ | .list _ | .tuple _ | .stream _
  | .map _ | .typed .. | .out .. | .expr _ | .hash _ | .cond .. | .item _ | .ref _ | .join _
  | .order _ | .branch _ | .direction _ | .isolation _ | .columnType _ => fun _ hr => by cases hr

theorem nodeFragment_stands (d : Dialect) (subqueries : Bool) :
    (op : Operator) → (operands : List Value) →
      Gives (nodeFragment d subqueries op operands) (Stands d (nodeParts d op operands))
  | .and, [] | .or, [] => Gives.ok (.empty d)
  | .and, v :: rest =>
      Gives.bind (v.conditionFragment_stands d subqueries) fun _ hfirst =>
        Gives.bind (operandFragments_stands d subqueries rest) fun _ hrest =>
          Gives.pure (Each.grouped _ (.cons hfirst.toFits hrest))
  | .or, v :: rest =>
      Gives.bind (v.conditionFragment_stands d subqueries) fun _ hfirst =>
        Gives.bind (operandFragments_stands d subqueries rest) fun _ hrest =>
          Gives.pure (Each.grouped _ (.cons hfirst.toFits hrest))
  | .not, [operand] =>
      Gives.bind (operand.conditionFragment_stands d subqueries) fun _ h =>
        Gives.pure (negation_stands h)
  | .between negated, operands => by
      rw [nodeFragment]
      exact betweenFragment_stands d negated operands
  | .membership negated, [column, values] =>
      membershipNode_stands subqueries negated column (values.queryStands d)
  | .like any negated caseless, operands => by
      rw [nodeFragment]
      exact patternTest_stands d any negated caseless operands
  | .existence negated, [value] => existenceNode_stands subqueries negated (value.queryStands d)
  | .existence _, _ :: _ :: _ => by
      rw [nodeFragment]
      · exact Gives.error _ _
      · exact fun q h => by cases h
  | .compare symbol, [column, value] =>
      compareNode_stands subqueries symbol column (value.queryStands d)
  | .not, [] | .not, _ :: _ :: _ | .membership _, [] | .membership _, [_]
  | .membership _, _ :: _ :: _ :: _ | .existence _, []
  | .compare _, [] | .compare _, [_] | .compare _, _ :: _ :: _ :: _ => Gives.error _ _

theorem operandFragments_stands (d : Dialect) (subqueries : Bool) :
    (operands : List Value) →
      Gives (operandFragments d subqueries operands) (Each (Fits d) (operandsParts d operands))
  | [] => Gives.ok .nil
  | v :: rest =>
      Gives.bind (v.conditionFragment_stands d subqueries) fun _ hfirst =>
        Gives.bind (operandFragments_stands d subqueries rest) fun _ hrest =>
          Gives.pure (.cons hfirst.toFits hrest)

theorem Query.fragment_stands (d : Dialect) :
    (q : Query) → Gives (q.fragment d) (Stands d (q.parts d))
  | ⟨items, distinct, option, sources, joins, filter, grouping, groupFilter, ordering, limit,
      offset, branches, params⟩ => by
      have hbody : Gives (Query.fragment d ⟨items, distinct, option, sources, joins, filter,
          grouping, groupFilter, ordering, limit, offset, branches, params⟩) (Stands d
            ([.named params] ++ (option.bareParts ++ itemsParts d items
              ++ (sourcesParts d sources ++ (joinsParts d joins ++ (filter.conditionParts d
                ++ (grouping.flatMap Value.rawParts ++ groupFilter.conditionParts d)))))
              ++ ordering.flatMap (fun key => key.expr.rawParts) ++ limit.bareParts
              ++ offset.bareParts ++ branchesParts d branches)) := by
        rw [Query.fragment]
        refine Gives.bind (itemFragments_fits d items) fun _ hitems => ?_
        refine Gives.bind (sourceFragments_fits d sources) fun _ hsources => ?_
        refine Gives.bind (joinFragments_fits d joins) fun _ hjoins => ?_
        refine Gives.bind (filter.conditionFragment_stands d true) fun _ hwhere => ?_
        refine Gives.bind (groupByClause_stands d grouping) fun _ hgroupBy => ?_
        refine Gives.bind (groupFilter.conditionFragment_stands d true) fun _ hhaving => ?_
        -- Paging goes around the clauses, and united queries come behind.
        have hclauses := clauses_stands distinct option params hitems hsources hjoins
          (headed_stands "WHERE" hwhere) hgroupBy (headed_stands "HAVING" hhaving)
        refine Gives.bind (paged_stands hclauses ordering limit offset) fun _ hpaged => ?_
        refine Gives.bind (branchFragments_fits d branches) fun _ hunited => Gives.pure ?_
        exact united_stands hpaged hunited
      -- The parts of the query come after the query itself, which stands in its own fragment.
      intro f hf
      have hstands := hbody f hf
      have hquery := hstands.toFits.query hf
      rw [Query.parts]
      simp only [List.append_assoc, List.cons_append, List.nil_append] at hquery ⊢
      exact ⟨hquery, hstands.apart⟩

theorem itemFragments_fits (d : Dialect) :
    (items : List SelectItem) → Gives (itemFragments d items) (Each (Fits d) (itemsParts d items))
  | [] => Gives.ok .nil
  | ⟨expr, alias?⟩ :: rest =>
      Gives.bind (SelectItem.fragment_fits ⟨expr, alias?⟩ (expr.queryStands d)) fun _ hfirst =>
        Gives.bind (itemFragments_fits d rest) fun _ hrest => Gives.pure (.cons hfirst hrest)

theorem sourceFragments_fits (d : Dialect) :
    (sources : List TableRef) →
      Gives (sourceFragments d sources) (Each (Fits d) (sourcesParts d sources))
  | [] => Gives.ok .nil
  | ⟨source, alias?⟩ :: rest =>
      Gives.bind (TableRef.fragment_fits "FROM" ⟨source, alias?⟩ (source.queryStands d))
        fun _ hfirst => Gives.bind (sourceFragments_fits d rest) fun _ hrest =>
          Gives.pure (.cons hfirst hrest)

theorem joinFragments_fits (d : Dialect) :
    (joins : List Join) → Gives (joinFragments d joins) (Each (Fits d) (joinsParts d joins))
  | [] => Gives.ok .nil
  | ⟨kind, ⟨source, alias?⟩, on⟩ :: rest => by
      rw [joinFragments, joinsParts]
      split
      · exact Gives.error _ _
      · refine Gives.bind (TableRef.fragment_fits "JOIN" ⟨source, alias?⟩ (source.queryStands d))
          fun table htable => ?_
        refine Gives.bind (on.conditionFragment_stands d true) fun condition hcondition => ?_
        refine Gives.bind (joinFragments_fits d rest) fun others hothers => Gives.pure ?_
        -- The condition follows the table after a space, or is empty.
        have hjoined : Fits d _ (ofText (kind ++ " ") ++ table) :=
          (Fits.ofText d _).append_left htable (.of_opens (opens_space kind) table)
        exact .cons (hjoined.append (headed_stands " ON" hcondition).toFits
          (meets_headed (closes_of_space rfl) _ condition)) hothers

theorem branchFragments_fits (d : Dialect) :
    (branches : List UnionBranch) →
      Gives (branchFragments d branches) (Each (Fits d) (branchesParts d branches))
  | [] => Gives.ok .nil
  | ⟨query, all⟩ :: rest => by
      rw [branchFragments_cons, branchesParts]
      refine Gives.bind (branchFragment_fits (query.queryStands d)) fun sql hsql => ?_
      refine Gives.bind (branchFragments_fits d rest) fun others hothers => Gives.pure ?_
      refine .cons (hsql.framed (.around ?_ (closes_of_space rfl))) hothers
      cases all with
      | true => exact opens_of_space rfl
      | false => exact opens_of_space rfl

end

end SqlLoom
