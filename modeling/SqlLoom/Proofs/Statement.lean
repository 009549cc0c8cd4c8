import SqlLoom.Proofs.Compile

/-!
# `SqlLoom.Proofs.Statement`: what statements compile to

An INSERT, an UPDATE and a DELETE are texts around values, queries and conditions, so what they
compile to stands for their parts as well.

* `Compiler.fragment_stands`: the fragment of every statement stands for the parts of that
  statement.
* `Compiler.compile_ok_iff`: a statement compiles where its fragment does, and the result is that
  fragment bound to the parameters of the caller.
-/

set_option autoImplicit false

namespace SqlLoom

open Fragment

/-! ### Values of a row -/

theorem insertedValue_fits (d : Dialect) (info : Option Table) (name : String) (v : Value) :
    Gives (Compiler.insertedValue d info name v) (Fits d (insertedParts d info name v)) := by
  cases v with
  | expr e => exact Gives.ok (Stands.ofExpression d e).toFits
  | query q =>
      exact Gives.bind (Query.fragment_stands d q) fun rows hrows =>
        Gives.pure hrows.toFits.parens
  | _ => exact Gives.ok (.bound d _)

theorem assignment_fits (d : Dialect) (info : Option Table) (name : String) (v : Value) :
    Fits d (assignmentParts info name v) (Compiler.assignment d info name v) := by
  have hopens : (ofText (d.quoteColumn name ++ "=")).Opens :=
    opens_ofText_append _ '=' (by decide) rfl
  cases v with
  | expr e => exact (Stands.text_append hopens (Stands.ofExpression d e).toFits).toFits
  | _ => exact (Stands.text_append hopens (.bound d _)).toFits

namespace Compiler

/-! ### Inserting -/

theorem insertRows_stands (c : Compiler) (table : String) (q : Query) :
    Gives (c.insertRows table q) (Stands c.dialect (q.parts c.dialect)) := by
  rw [insertRows]
  split
  · exact Gives.error _ _
  · refine Gives.bind (Query.fragment_stands c.dialect q) fun rows hrows => ?_
    refine Gives.andThen fun names _ => Gives.pure ?_
    exact Stands.text_append (opens_ofText_append _ ' ' (by decide) rfl) hrows.toFits

theorem insertRow_stands (c : Compiler) (table : String) (columns : Entries Value) :
    Gives (c.insertRow table columns) (Stands c.dialect
      ((c.dialect.normalizeRow (c.table? table) columns).flatMap fun e =>
        insertedParts c.dialect (c.table? table) e.1 e.2)) := by
  rw [insertRow]
  split
  · -- Without columns nothing is bound.
    rename_i hempty
    rw [List.isEmpty_iff.mp hempty]
    exact Gives.pure (.ofText _ _)
  · refine Gives.bind (Each.mapM _ fun e => insertedValue_fits c.dialect (c.table? table) e.1 e.2)
      fun values hvalues => Gives.pure ?_
    exact Stands.text_append (opens_ofText_append _ ' ' (by decide) rfl)
      (commas_fits hvalues.1).parens

theorem insertFragment_stands (c : Compiler) (table : String) (columns : Value) :
    Gives (c.insertFragment table columns) (Stands c.dialect (insertParts c table columns)) := by
  fun_cases insertFragment c table columns with
  | case1 q => exact insertRows_stands c table q
  | case2 v hquery =>
      rw [insertParts]
      · refine Gives.andThen fun row hrow => ?_
        rw [hrow]
        exact insertRow_stands c table row
      · exact hquery

/-- The text that returns the key closes what stands before it, and the output parameters are
bound behind it. -/
theorem returning_stands {d : Dialect} {ps : List Part} {sql : Fragment} (info : Option Table)
    (hsql : Stands d ps sql) :
    Gives (d.returning sql info) (Stands d (ps ++ returningParts d info)) := by
  have hcolumns : ∀ names, Stands d ps (sql ++ ofText (" RETURNING " ++ names)) := by
    intro names
    exact hsql.framed (.before (closes_ofText_append ' ' (by decide) rfl names))
  unfold Dialect.returning returningParts
  cases d.backend with
  | mysql => exact Gives.error _ _
  | oracle =>
      cases info with
      | none =>
          rw [List.append_nil]
          exact Gives.ok hsql
      | some table =>
          dsimp only
          split
          · rename_i hempty
            rw [List.isEmpty_iff.mp hempty, List.flatMap_nil, List.append_nil]
            exact Gives.ok hsql
          · -- INTO opens the list of output parameters, and the text closes behind it.
            have houts := commas_fits (Each.map table.primaryKey fun name =>
              Fits.bound d (Dialect.outParam table name))
            rw [if_pos rfl, append_assoc]
            exact Gives.ok ((hcolumns _).append
              (Stands.text_append (opens_of_space rfl) houts)
              (.of_closes _ (Closes.append (closes_of_space rfl) _)))
  | _ =>
      rw [List.append_nil]
      cases info with
      | none => exact Gives.ok hsql
      | some table =>
          dsimp only
          split
          · exact Gives.ok hsql
          · exact Gives.ok (hcolumns _)

/-! ### Updating and deleting -/

theorem whereClause_stands (d : Dialect) (filter : Value) :
    Gives (whereClause d filter) fun f => Stands d (filter.conditionParts d) f ∧
      ∀ g : Fragment, g.Meets f := by
  refine Gives.bind (filter.conditionFragment_stands d true) fun f hf => Gives.pure ⟨?_, ?_⟩
  · exact headed_stands " WHERE" hf
  · exact fun g => meets_headed (closes_of_space rfl) g f

theorem updateFragment_stands (c : Compiler) (table : String) (columns filter : Value) :
    Gives (c.updateFragment table columns filter)
      (Stands c.dialect (updateParts c table columns ++ filter.conditionParts c.dialect)) := by
  rw [updateFragment, updateParts]
  refine Gives.andThen fun row hrow => ?_
  rw [hrow]
  refine Gives.bind (whereClause_stands c.dialect filter) fun tail htail => Gives.pure ?_
  have hassignments := Each.map (c.dialect.normalizeRow (c.table? table) row) fun e =>
    assignment_fits c.dialect (c.table? table) e.1 e.2
  have hopens : (ofText ("UPDATE " ++ c.dialect.quoteTable table ++ " SET ")).Opens :=
    opens_ofText_append _ ' ' (by decide) rfl
  exact (Stands.text_append hopens (commas_fits hassignments)).append htail.1 (htail.2 _)

theorem deleteFragment_stands (c : Compiler) (table : String) (filter : Value) :
    Gives (c.deleteFragment table filter)
      (Stands c.dialect (filter.conditionParts c.dialect)) := by
  rw [deleteFragment]
  refine Gives.bind (whereClause_stands c.dialect filter) fun tail htail => Gives.pure ?_
  exact (Stands.ofText c.dialect _).append htail.1 (htail.2 _)

/-! ### Every statement -/

/-- Whatever a statement compiles to stands for its parts. -/
theorem fragment_stands (c : Compiler) (s : Statement) :
    Gives (c.fragment s) (Stands c.dialect (s.parts c)) := by
  cases s with
  | query q => exact Query.fragment_stands c.dialect q
  | condition v => exact v.conditionFragment_stands c.dialect true
  | insert table columns => exact insertFragment_stands c table columns
  | insertReturning table columns =>
      exact Gives.bind (insertFragment_stands c table columns) fun f hf =>
        returning_stands (c.table? table) hf
  | update table columns filter => exact updateFragment_stands c table columns filter
  | delete table filter => exact deleteFragment_stands c table filter

/-- A statement compiles where its fragment does, and the result is the fragment bound to the
parameters of the caller. -/
theorem compile_ok_iff (c : Compiler) (params : Entries Value) (s : Statement) (out : Compiled) :
    c.compile params s = .ok out ↔ ∃ f, c.fragment s = .ok f ∧ c.finish params f = out := by
  rw [compile_eq]
  cases c.fragment s with
  | error e => simp [Except.map]
  | ok f => simp [Except.map]

end Compiler

end SqlLoom
