import SqlLoom.Proofs.Masked.Compile
import SqlLoom.Proofs.Statement

/-!
# `SqlLoom.Proofs.Secrecy`: the values that are bound do not show in the text

Two statements differ in bound scalars only if they are the same once these are blanked
(`Statement.masked`). A statement whose scalars are blanked compiles wherever the statement itself
does, and to a fragment that differs in the values that are added only. So two such statements
cannot be told apart by the text that they compile to, nor by the names of its parameters.

* `Compiler.fragment_masked`: blanking keeps the fragment, but for the values that it adds.
* `Compiler.sql_eq_of_masked_eq`: statements that differ in bound scalars only have the same text
  and the same names of parameters, in the same order.

The values of a row pass two conversions before they are bound. PostgreSQL binds a binary column as
a large object (`Dialect.normalizeRow`), and the value of a known column is cast by the type of the
column. The first one looks at the kind of a value and the second one at its contents, but both
give a value that is bound where they are given one.
-/

set_option autoImplicit false

namespace SqlLoom

open Fragment

/-! ### Values of a row -/

/-- The value is bound wherever it stands: it is no raw expression and no query. -/
def Value.isBound : Value → Bool
  | .expr _ | .query _ => false
  | _ => true

/-- A value of a row is put into the text, compiled or bound. -/
theorem Value.expr_or_query_or_bound (v : Value) :
    (∃ e, v = .expr e) ∨ (∃ q, v = .query q) ∨ v.isBound = true := by
  cases v with
  | expr e => exact .inl ⟨e, rfl⟩
  | query q => exact .inr (.inl ⟨q, rfl⟩)
  | _ => exact .inr (.inr rfl)

theorem isBound_blank {v : Value} (h : v.isBound = true) : v.blank.isBound = true := by
  cases v with
  | expr e => cases h
  | query q => cases h
  | _ => rfl

theorem masked_of_isBound {v : Value} (h : v.isBound = true) (blanked : Value → Value) :
    v.masked blanked = blanked v := by
  cases v with
  | query q => cases h
  | _ => rfl

theorem insertedValue_of_isBound {v : Value} (h : v.isBound = true) (d : Dialect)
    (info : Option Table) (name : String) :
    Compiler.insertedValue d info name v = .ok (.bound (Compiler.castFor info name v)) := by
  cases v with
  | expr e => cases h
  | query q => cases h
  | _ => rfl

/-- A value of a row as it goes to the database. -/
def Dialect.normalizeValue (d : Dialect) (info : Option Table) (name : String) (v : Value) :
    Value :=
  match d.backend, info with
  | .postgres, some table => bindBinary table name v
  | _, _ => v

theorem Dialect.normalizeRow_eq_map (d : Dialect) (info : Option Table) (row : Entries Value) :
    d.normalizeRow info row = row.map fun e => (e.1, d.normalizeValue info e.1 e.2) := by
  unfold Dialect.normalizeRow Dialect.normalizeValue
  cases d.backend with
  | postgres =>
      cases info with
      | none => exact (List.map_id' row).symm
      | some table => rfl
  | _ => exact (List.map_id' row).symm

/-- A value that is bound as a large object was one to be bound. -/
theorem Dialect.normalizeValue_cases (d : Dialect) (info : Option Table) (name : String)
    (v : Value) :
    d.normalizeValue info name v = v ∨
      v.isBound = true ∧ d.normalizeValue info name v = .typed v .lob := by
  unfold Dialect.normalizeValue
  split
  · unfold bindBinary
    split
    · split
      · split
        · exact .inr ⟨rfl, rfl⟩
        · split
          · rename_i htext
            refine .inr ⟨?_, rfl⟩
            cases v with
            | expr e => cases htext
            | query q => cases htext
            | _ => rfl
          · exact .inl rfl
      · exact .inl rfl
    · exact .inl rfl
  · exact .inl rfl

theorem isBound_normalizeValue {v : Value} (h : v.isBound = true) (d : Dialect)
    (info : Option Table) (name : String) : (d.normalizeValue info name v).isBound = true := by
  rcases d.normalizeValue_cases info name v with hsame | ⟨_, hlob⟩
  · rw [hsame]
    exact h
  · rw [hlob]
    rfl

/-- What is not bound goes to the database as it is. -/
theorem normalizeValue_of_not_isBound {v : Value} (h : v.isBound = false) (d : Dialect)
    (info : Option Table) (name : String) : d.normalizeValue info name v = v := by
  rcases d.normalizeValue_cases info name v with hsame | ⟨hbound, _⟩
  · exact hsame
  · rw [h] at hbound
    cases hbound

theorem insertedValue_masked (d : Dialect) (info : Option Table) (name : String) (v : Value) :
    Follows (Compiler.insertedValue d info name (d.normalizeValue info name v))
      (Compiler.insertedValue d info name
        (d.normalizeValue info name (v.masked Value.blank))) Alike := by
  rcases v.expr_or_query_or_bound with ⟨e, rfl⟩ | ⟨q, rfl⟩ | hbound
  · exact Follows.same .refl _
  · rw [Value.masked, normalizeValue_of_not_isBound rfl, normalizeValue_of_not_isBound rfl]
    exact Follows.bind (Query.fragment_masked d q) fun _ _ hrows => Follows.pure hrows.parens
  · rw [masked_of_isBound hbound,
      insertedValue_of_isBound (isBound_normalizeValue hbound d info name),
      insertedValue_of_isBound (isBound_normalizeValue (isBound_blank hbound) d info name)]
    exact Follows.ok (.bound _ _)

/-- Whatever is assigned is bound, unless it is a raw expression. -/
theorem assignment_alike (d : Dialect) (info : Option Table) (name : String) {v w : Value}
    (h : v = w ∨ v.isBound = true ∧ w.isBound = true) :
    Alike (Compiler.assignment d info name v) (Compiler.assignment d info name w) := by
  rcases h with rfl | ⟨hv, hw⟩
  · exact .refl _
  · refine (Alike.refl _).append ?_
    cases v with
    | expr e => cases hv
    | query q => cases hv
    | _ =>
        cases w with
        | expr e => cases hw
        | query q => cases hw
        | _ => exact .bound _ _

theorem assignment_masked (d : Dialect) (info : Option Table) (name : String) (v : Value) :
    Alike (Compiler.assignment d info name (d.normalizeValue info name v))
      (Compiler.assignment d info name (d.normalizeValue info name v.blank)) := by
  rcases v.expr_or_query_or_bound with ⟨e, rfl⟩ | ⟨q, rfl⟩ | hbound
  · exact assignment_alike d info name (.inl rfl)
  · exact assignment_alike d info name (.inl rfl)
  · exact assignment_alike d info name (.inr ⟨isBound_normalizeValue hbound d info name,
      isBound_normalizeValue (isBound_blank hbound) d info name⟩)

/-! ### Items of a select list -/

/-- A select list keeps its members, their aliases and the names that they expose. -/
theorem itemsMasked_eq_map (items : List SelectItem) :
    itemsMasked items = items.map fun i => ⟨i.expr.masked id, i.alias?⟩ := by
  induction items with
  | nil => rfl
  | cons i rest ih =>
      rw [List.map_cons, ← ih]
      cases i
      rfl

theorem text?_masked (v : Value) : (v.masked id).text? = v.text? := by
  cases v <;> rfl

theorem exposedName_masked (i : SelectItem) :
    Compiler.exposedName ⟨i.expr.masked id, i.alias?⟩ = Compiler.exposedName i := by
  rw [Compiler.exposedName, Compiler.exposedName, text?_masked]

namespace Compiler

/-! ### Inserting -/

theorem insertRows_masked (c : Compiler) (table : String) (q : Query) :
    Follows (c.insertRows table q) (c.insertRows table q.masked) Alike := by
  have hitems : q.masked.items = q.items.map fun i => ⟨i.expr.masked id, i.alias?⟩ := by
    cases q
    exact itemsMasked_eq_map _
  have hstar : (q.masked.items.any fun i => i.expr.text? == some "*")
      = q.items.any fun i => i.expr.text? == some "*" := by
    rw [hitems, List.any_map]
    exact congrArg (List.any q.items) (funext fun i => by
      show ((i.expr.masked id).text? == _) = _
      rw [text?_masked])
  have hnames : q.masked.items.mapM exposedName = q.items.mapM exposedName := by
    rw [hitems, List.mapM_map]
    exact congrArg (List.mapM · q.items) (funext exposedName_masked)
  rw [insertRows, insertRows, hstar, hnames, hitems, List.isEmpty_map]
  split
  · exact Follows.error _ _ _
  · refine Follows.bind (Query.fragment_masked c.dialect q) fun rows rows' hrows => ?_
    refine Follows.bind (Follows.same (R := Eq) (fun _ => rfl) _) fun names names' heq => ?_
    rw [← heq]
    exact Follows.pure ((Alike.refl _).append hrows)

theorem insertRow_masked (c : Compiler) (table : String) (columns : Entries Value) :
    Follows (c.insertRow table columns)
      (c.insertRow table (columns.map fun e => (e.1, e.2.masked Value.blank))) Alike := by
  have hvalues := Follows.mapM (fun e : String × Value =>
    insertedValue_masked c.dialect (c.table? table) e.1 e.2) columns
  rw [insertRow, insertRow, Dialect.normalizeRow_eq_map, Dialect.normalizeRow_eq_map,
    List.isEmpty_map, List.isEmpty_map, List.isEmpty_map]
  split
  · exact Follows.ok (Alike.refl _)
  · -- The names of the columns stay, so the text around the values is the same.
    rw [List.map_map, List.map_map, List.map_map, List.mapM_map, List.mapM_map]
    exact Follows.bind hvalues fun _ _ h =>
      Follows.pure ((Alike.refl _).append (Alike.join ", " h).parens)

/-- A row of columns in any spelling has the same columns after its values are blanked. -/
theorem toEntries_rowMasked (blanked : Value → Value) (v : Value) :
    Follows v.toEntries (v.rowMasked blanked).toEntries
      fun row row' => row' = row.map fun e => (e.1, blanked e.2) := by
  intro row hrow
  rw [Value.rowMasked, hrow]
  exact ⟨_, rfl, rfl⟩

theorem insertFragment_masked (c : Compiler) (table : String) (columns : Value) :
    Follows (c.insertFragment table columns) (c.insertFragment table columns.insertedMasked)
      Alike := by
  fun_cases insertFragment c table columns with
  | case1 q => exact insertRows_masked c table q
  | case2 v hquery =>
      have hrow := toEntries_rowMasked (Value.masked Value.blank) columns
      have hmasked : ∀ q, columns.rowMasked (Value.masked Value.blank) = .query q → False := by
        intro q hq
        rw [Value.rowMasked] at hq
        split at hq
        · cases hq
        · exact hquery q hq
      rw [Value.insertedMasked, insertFragment]
      · refine Follows.bind hrow fun row row' heq => ?_
        rw [heq]
        exact insertRow_masked c table row
      · exact hmasked
      · exact hquery

/-- The text that returns the key and the output parameters of the key stay. -/
theorem returning_alike {d : Dialect} {f g : Fragment} (info : Option Table) (h : Alike f g) :
    Follows (d.returning f info) (d.returning g info) Alike := by
  unfold Dialect.returning
  cases d.backend with
  | mysql => exact Follows.error _ _ _
  | oracle =>
      cases info with
      | none => exact Follows.ok h
      | some table =>
          dsimp only
          split
          · exact Follows.ok h
          · rw [if_pos rfl, if_pos rfl]
            exact Follows.ok (((h.append (.refl _)).append (.refl _)).append (.refl _))
  | _ =>
      cases info with
      | none => exact Follows.ok h
      | some table =>
          dsimp only
          split
          · exact Follows.ok h
          · exact Follows.ok (h.append (.refl _))

/-! ### Updating and deleting -/

theorem whereClause_masked (d : Dialect) (filter : Value) :
    Follows (whereClause d filter) (whereClause d filter.conditionMasked) Alike :=
  Follows.bind (filter.conditionFragment_masked d true) fun _ _ h => Follows.pure (h.headed _)

theorem updateFragment_masked (c : Compiler) (table : String) (columns filter : Value) :
    Follows (c.updateFragment table columns filter)
      (c.updateFragment table (columns.rowMasked Value.blank) filter.conditionMasked) Alike := by
  rw [updateFragment, updateFragment]
  refine Follows.bind (toEntries_rowMasked Value.blank columns) fun row row' hrow => ?_
  refine Follows.bind (whereClause_masked c.dialect filter) fun _ _ htail => Follows.pure ?_
  refine ((Alike.refl _).append (.join ", " ?_)).append htail
  rw [hrow, Dialect.normalizeRow_eq_map, Dialect.normalizeRow_eq_map, List.map_map, List.map_map,
    List.map_map, List.forall₂_map_left_iff, List.forall₂_map_right_iff, List.forall₂_same]
  exact fun e _ => assignment_masked c.dialect (c.table? table) e.1 e.2

theorem deleteFragment_masked (c : Compiler) (table : String) (filter : Value) :
    Follows (c.deleteFragment table filter) (c.deleteFragment table filter.conditionMasked)
      Alike := by
  rw [deleteFragment, deleteFragment]
  exact Follows.bind (whereClause_masked c.dialect filter) fun _ _ htail =>
    Follows.pure ((Alike.refl _).append htail)

/-! ### Every statement -/

/-- A statement whose bound scalars are blanked compiles wherever the statement itself does, and
only the values that are added differ. -/
theorem fragment_masked (c : Compiler) (s : Statement) :
    Follows (c.fragment s) (c.fragment s.masked) Alike := by
  cases s with
  | query q => exact Query.fragment_masked c.dialect q
  | condition v => exact v.conditionFragment_masked c.dialect true
  | insert table columns => exact insertFragment_masked c table columns
  | insertReturning table columns =>
      exact Follows.bind (insertFragment_masked c table columns) fun _ _ h =>
        returning_alike (c.table? table) h
  | update table columns filter => exact updateFragment_masked c table columns filter
  | delete table filter => exact deleteFragment_masked c table filter

/-- Two statements that differ in bound scalars only have the same text, and the same names of
parameters in the same order. -/
theorem sql_eq_of_masked_eq (c : Compiler) (params : Entries Value) {s s' : Statement}
    (hmasked : s.masked = s'.masked) {out out' : Compiled}
    (hout : c.compile params s = .ok out) (hout' : c.compile params s' = .ok out') :
    out.sql = out'.sql ∧ out.params.names = out'.params.names := by
  obtain ⟨f, hf, rfl⟩ := (c.compile_ok_iff params s out).mp hout
  obtain ⟨f', hf', rfl⟩ := (c.compile_ok_iff params s' out').mp hout'
  -- Both fragments are like the one of the blanked statement.
  obtain ⟨g, hg, halike⟩ := c.fragment_masked s f hf
  obtain ⟨g', hg', halike'⟩ := c.fragment_masked s' f' hf'
  rw [← hmasked, hg] at hg'
  cases hg'
  have heq := halike.bind_eq (.ofEntries c.mark params)
  have heq' := halike'.bind_eq (.ofEntries c.mark params)
  exact ⟨heq.1.trans heq'.1.symm, heq.2.trans heq'.2.symm⟩

/-- An UPDATE that assigns one value and compares with a list that holds another one. -/
def assigning (assigned member : Value) : Statement :=
  .update "t" (.map [("a", assigned)]) (.map [("b", .list [member, .null])])

/-- Texts in the place of numbers change nothing but the values of the parameters. -/
theorem sql_eq_of_masked_eq_assigning :
    compile { dialect := .standard .ansi } [] (assigning (.int 1) (.int 2))
        = .ok ⟨"UPDATE \"t\" SET \"a\"=:qp0 WHERE \"b\" IN (:qp1, NULL)",
            [(":qp0", .int 1), (":qp1", .int 2)], "ansi"⟩ ∧
      ∃ out, compile { dialect := .standard .ansi } [] (assigning (.text "x") (.text "'; --"))
          = .ok out ∧
        "UPDATE \"t\" SET \"a\"=:qp0 WHERE \"b\" IN (:qp1, NULL)" = out.sql ∧
        [":qp0", ":qp1"] = out.params.names :=
  ⟨rfl, _, rfl, @sql_eq_of_masked_eq { dialect := .standard .ansi } []
    (assigning (.int 1) (.int 2)) (assigning (.text "x") (.text "'; --")) rfl _ _ rfl rfl⟩

end Compiler

end SqlLoom
