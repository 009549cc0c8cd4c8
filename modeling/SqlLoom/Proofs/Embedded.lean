import SqlLoom.Proofs.Fragment.Bound
import SqlLoom.Proofs.Parameters

/-!
# `SqlLoom.Proofs.Embedded`: expressions and queries as values

A raw expression as a value should be put into the text and a query be compiled as a sub-query;
neither of them is data that a database could be given. Which of the two happens is up to each
value position (`Role`), and not all of them see to it.

* `embedded_stored_iff` is the exact condition: an expression or a query is stored under a generated
  name if and only if it stands in a position that binds it. These are the entries of rows for both,
  and for a query the members of a list, the bounds of an interval, the patterns that are not
  escaped and the assigned values. In the other positions an expression is written out and its
  parameters are merged, and the positions of comparisons and of an INSERT hold sub-queries in
  parentheses.
* `embedded_not_always_written`: a row with an expression is a case where it is stored.
-/

set_option autoImplicit false

namespace SqlLoom

open Fragment

/-! ### Parts and positions -/

/-- The values that parts store are those that are bound. -/
theorem add_mem_steps_iff (v : Value) (parts : List Part) :
    TableStep.add v ∈ parts.flatMap Part.steps ↔ Part.bound v ∈ parts := by
  rw [List.mem_flatMap]
  constructor
  · rintro ⟨p, hp, hstep⟩
    cases p with
    | bound w =>
        cases List.mem_singleton.mp hstep
        exact hp
    | raw e => cases List.mem_singleton.mp hstep
    | named params => cases List.mem_singleton.mp hstep
    | bare e => cases hstep
    | query q => cases hstep
  · intro hp
    exact ⟨_, hp, List.mem_singleton_self _⟩

theorem isBound_outParam (info : Table) (column : String) :
    (Dialect.outParam info column).isBound = true := by
  unfold Dialect.outParam
  cases info.column? column <;> rfl

/-- An expression or a query is bound in a position of a value or nowhere. -/
theorem Position.bound_mem_iff (p : Position) {v : Value} (hv : v.isBound = false) :
    Part.bound v ∈ p.parts ↔ ∃ role, p = .value role v ∧ role.binds v = true := by
  cases p with
  | value role w =>
      have hrole : Part.bound v ∈ (Position.value role w).parts ↔ w = v ∧ role.binds w = true :=
        role.bound_mem_iff hv
      rw [hrole]
      constructor
      · rintro ⟨rfl, hbinds⟩
        exact ⟨role, rfl, hbinds⟩
      · rintro ⟨_, ⟨⟩, hbinds⟩
        exact ⟨rfl, hbinds⟩
  | output info column =>
      have hne : v ≠ Dialect.outParam info column := ne_of_isBound hv (isBound_outParam _ _)
      simp [parts, hne]
  | expression e | unmerged e => simp [parts]
  | carried params | query q => simp [parts]

/-- The parts of a statement bind an expression or a query if one of its positions does. -/
theorem Statement.bound_mem_parts_iff (c : Compiler) (s : Statement) {v : Value}
    (hv : v.isBound = false) :
    Part.bound v ∈ s.parts c ↔
      ∃ role, Position.value role v ∈ s.positions c ∧ role.binds v = true := by
  rw [← s.partsOf_positions c, partsOf, List.mem_flatMap]
  constructor
  · rintro ⟨p, hp, hbound⟩
    obtain ⟨role, rfl, hbinds⟩ := (p.bound_mem_iff hv).mp hbound
    exact ⟨role, hp, hbinds⟩
  · rintro ⟨role, hp, hbinds⟩
    exact ⟨_, hp, (Position.bound_mem_iff _ hv).mpr ⟨role, rfl, hbinds⟩⟩

/-- The parts of a statement hold an expression in every position that does not bind it. -/
theorem Statement.raw_mem_parts {c : Compiler} {s : Statement} {role : Role} {e : Expression}
    (hmem : Position.value role (.expr e) ∈ s.positions c) (hbinds : role.binds (.expr e) = false) :
    Part.raw e ∈ s.parts c := by
  rw [← s.partsOf_positions c, partsOf, List.mem_flatMap]
  refine ⟨_, hmem, ?_⟩
  rw [Position.parts, role.parts_of_expr, hbinds]
  exact List.mem_singleton_self _

/-! ### Compiled statements -/

section Compiled

variable {c : Compiler} {params : Entries Value} {s : Statement} {f : Fragment}

/-- The values that the fragment of a statement stores are those that its parts bind. -/
theorem stored_iff (hf : c.fragment s = .ok f) (v : Value) :
    TableStep.add v ∈ f.steps ↔ Part.bound v ∈ s.parts c := by
  rw [(c.fragment_stands s f hf).steps, add_mem_steps_iff]

/-- The text of an expression that is a part stands in the text of the statement, and the
parameters of the expression are taken over. -/
theorem raw_written (hf : c.fragment s = .ok f) {e : Expression} (he : Part.raw e ∈ s.parts c) :
    e.text.toList <:+: (c.finish params f).sql.toList ∧ TableStep.merge e.params ∈ f.steps := by
  have hstands := c.fragment_stands s f hf
  refine ⟨infix_bind (hstands.shown _ he e rfl) _, ?_⟩
  rw [hstands.steps, List.mem_flatMap]
  exact ⟨_, he, List.mem_singleton_self _⟩

/-- A query that is compiled as a value is a sub-query of the text: it stands there in parentheses,
as it compiles alone over the parameters that are there before it. -/
theorem query_enclosed (hf : c.fragment s = .ok f) {role : Role} {q : Query}
    (hmem : Position.value role (.query q) ∈ s.positions c) (hcompiles : role.compiles = true) :
    ∃ g before, q.fragment c.dialect = .ok g ∧ before ++ g.steps <+: f.steps ∧
      ("(" ++ (g.bind (Statement.tableAfter c params before)).1 ++ ")").toList
        <:+: (c.finish params f).sql.toList := by
  obtain ⟨g, hg, hwithin⟩ := c.fragment_encloses s f hf role q hmem hcompiles
  -- The steps before the query in the fragment give the table over which it is bound there.
  have hstands := Query.fragment_stands c.dialect q g hg
  obtain ⟨before, after, hsteps, hbind⟩ := hwithin.bind hstands.toFits.parens.balanced
  obtain ⟨left, right, htext⟩ := hbind (.ofEntries c.mark params)
  refine ⟨g, before, hg, ⟨after, ?_⟩, left.toList, right.toList, ?_⟩
  · rw [hsteps, steps_parens]
  · have hsql : (c.finish params f).sql = _ := htext
    rw [hsql, bind_parens hstands.balanced, Statement.tableAfter]
    simp only [String.toList_append]

/-- A statement that compiles stores an expression or a query if and only if it stands in a position
that binds it. The other expressions that stand for values are written out with their parameters
taken over, and the queries in positions that compile them become sub-queries. -/
theorem embedded_stored_iff {out : Compiled} (h : c.compile params s = .ok out) :
    ∃ f, c.fragment s = .ok f ∧ c.finish params f = out ∧
      (∀ v, v.isBound = false → (TableStep.add v ∈ f.steps ↔
        ∃ role, Position.value role v ∈ s.positions c ∧ role.binds v = true)) ∧
      (∀ role e, Position.value role (.expr e) ∈ s.positions c → role.binds (.expr e) = false →
        e.text.toList <:+: out.sql.toList ∧ TableStep.merge e.params ∈ f.steps) ∧
      ∀ role q, Position.value role (.query q) ∈ s.positions c → role.compiles = true →
        ∃ g before, q.fragment c.dialect = .ok g ∧ before ++ g.steps <+: f.steps ∧
          ("(" ++ (g.bind (Statement.tableAfter c params before)).1 ++ ")").toList
            <:+: out.sql.toList := by
  obtain ⟨f, hf, rfl⟩ := (c.compile_ok_iff params s out).mp h
  refine ⟨f, hf, rfl, fun v hv => ?_, fun role e hmem hbinds => ?_, fun role q hmem hcompiles => ?_⟩
  · rw [stored_iff hf, s.bound_mem_parts_iff c hv]
  · exact raw_written hf (Statement.raw_mem_parts hmem hbinds)
  · exact query_enclosed hf hmem hcompiles

/-- Two columns among rows, one of which has an expression. -/
def rowCondition : Value :=
  .cond (.membership false)
    [.list [.text "a", .text "b"], .list [.list [.expr ⟨"NOW()", []⟩, .int 1]]]

/-- The expression of the row is an entry, which is bound, so it is stored under `:qp0`. -/
theorem embedded_stored_iff_row :
    Compiler.compile { dialect := .standard .ansi } [] (.condition rowCondition)
        = .ok ⟨"(\"a\", \"b\") IN ((:qp0, :qp1))",
          [(":qp0", .expr ⟨"NOW()", []⟩), (":qp1", .int 1)], "ansi"⟩ ∧
      ∃ f, Compiler.fragment { dialect := .standard .ansi } (.condition rowCondition) = .ok f ∧
        TableStep.add (.expr ⟨"NOW()", []⟩) ∈ f.steps := by
  refine ⟨rfl, ?_⟩
  obtain ⟨f, hf, -, hstored, -⟩ :=
    @embedded_stored_iff { dialect := .standard .ansi } [] (.condition rowCondition) _ rfl
  exact ⟨f, hf, (hstored _ rfl).mpr ⟨.entry, .head _, rfl⟩⟩

/-- An expression that stands for a value is not always written out. -/
theorem embedded_not_always_written :
    ¬ ∀ (c : Compiler) (params : Entries Value) (s : Statement) (out : Compiled),
      c.compile params s = .ok out → ∀ f, c.fragment s = .ok f →
        ∀ v, TableStep.add v ∈ f.steps → v.isBound = true := by
  intro hbound
  have h := hbound { dialect := .standard .ansi } [] (.condition rowCondition) _ rfl _ rfl
    (.expr ⟨"NOW()", []⟩) (.head _)
  cases h

end Compiled

end SqlLoom
