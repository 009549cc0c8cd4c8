import SqlLoom.Proofs.Statement

/-!
# `SqlLoom.Proofs.Parameters`: the parameters of a compiled statement

Every name among the parameters of a compiled statement comes from the caller, from a value that
was bound, or from an expression or a query that carries parameters (`mem_params_iff`). Two things
can go wrong with them, and the theorems say exactly when they do.

* `generated_kept_iff`: a value stays under its generated name unless the parameters of a later
  expression or query hold another value under that name. The writer of a description can make sure
  of that by carrying no name that looks like a generated one (`overriding_eq_none_of_parts`).
* `carried_iff`: every raw expression that is written out brings its parameters, except where it
  stands as LIMIT, OFFSET, select option or branch of a union. There its names have to come from
  somewhere else.
-/

set_option autoImplicit false

namespace SqlLoom

open Fragment

/-! ### Names of a statement -/

/-- The names of the parameters that a part carries. -/
def Part.names : Part → List String
  | .raw e => Entries.names e.params
  | .named params => params.names
  | .bound _ | .bare _ | .query _ => []

/-- The names that are merged are those that the parts carry. -/
theorem exists_merge_iff (name : String) (parts : List Part) :
    (∃ params, TableStep.merge params ∈ parts.flatMap Part.steps ∧ name ∈ params.names) ↔
      ∃ p ∈ parts, name ∈ p.names := by
  constructor
  · rintro ⟨params, hmerge, hname⟩
    obtain ⟨p, hp, hstep⟩ := List.mem_flatMap.mp hmerge
    refine ⟨p, hp, ?_⟩
    cases p with
    | raw e =>
        cases List.mem_singleton.mp hstep
        exact hname
    | named params' =>
        cases List.mem_singleton.mp hstep
        exact hname
    | bound v => cases List.mem_singleton.mp hstep
    | bare e => cases hstep
    | query q => cases hstep
  · rintro ⟨p, hp, hname⟩
    cases p with
    | raw e => exact ⟨e.params, List.mem_flatMap.mpr ⟨_, hp, List.mem_singleton_self _⟩, hname⟩
    | named params => exact ⟨params, List.mem_flatMap.mpr ⟨_, hp, List.mem_singleton_self _⟩, hname⟩
    | bound v => cases hname
    | bare e => cases hname
    | query q => cases hname

namespace Statement

/-- The table of a statement after the given steps, over the parameters of the caller. -/
def tableAfter (c : Compiler) (params : Entries Value) (steps : List TableStep) : ParamTable :=
  (run steps (.ofEntries c.mark params)).2

/-- The names that a statement generates, in order. -/
def generated (s : Statement) (c : Compiler) (params : Entries Value) : List String :=
  (run (s.steps c) (.ofEntries c.mark params)).1

/-- A raw expression that a statement writes out. -/
def Emits (s : Statement) (c : Compiler) (e : Expression) : Prop :=
  Part.raw e ∈ s.parts c ∨ Part.bare e ∈ s.parts c

end Statement

section Compiled

variable {c : Compiler} {params : Entries Value} {s : Statement} {out : Compiled}

/-- The parameters of a compiled statement are the table after its steps. -/
theorem params_eq (h : c.compile params s = .ok out) :
    out.params = (Statement.tableAfter c params (s.steps c)).entries := by
  obtain ⟨f, hf, rfl⟩ := (c.compile_ok_iff params s out).mp h
  have hsteps : f.steps = s.steps c := (c.fragment_stands s f hf).steps
  show (f.bind _).2.entries = _
  rw [Statement.tableAfter, ← hsteps]
  rfl

/-- Where the names among the parameters come from. -/
theorem mem_params_iff (h : c.compile params s = .ok out) (name : String) :
    name ∈ out.params.names ↔
      name ∈ params.names ∨ name ∈ s.generated c params ∨ ∃ p ∈ s.parts c, name ∈ p.names := by
  have hcaller : name ∈ (ParamTable.ofEntries c.mark params).entries.names ↔
      name ∈ params.names := by
    show name ∈ (Entries.merge [] params).names ↔ _
    rw [Entries.mem_names_merge]
    simp
  rw [params_eq h, Statement.tableAfter, mem_names_run, hcaller, Statement.steps,
    exists_merge_iff]
  rfl

/-! ### Values under generated names -/

/-- Where no carried name is a mark with a number, no merge brings a value for a generated name. -/
theorem overriding_eq_none_of_parts
    (hnames : ∀ p ∈ s.parts c, ∀ carried ∈ p.names, ∀ n, carried ≠ ParamTable.nameOf c.mark n)
    {before after : List TableStep} {v : Value} (hsteps : s.steps c = before ++ .add v :: after) :
    overriding (Statement.tableAfter c params before).freshName after = none := by
  rw [overriding_eq_none_iff]
  intro carried hmerge hname
  have hmem : TableStep.merge carried ∈ s.steps c := by
    rw [hsteps]
    exact List.mem_append_right _ (List.mem_cons_of_mem _ hmerge)
  obtain ⟨p, hp, hmark⟩ := (exists_merge_iff _ (s.parts c)).mp ⟨carried, hmem, hname⟩
  obtain ⟨n, hfresh⟩ := (Statement.tableAfter c params before).freshName_eq_nameOf
  rw [hfresh, Statement.tableAfter, mark_run] at hmark
  exact hnames p hp _ hmark n rfl

/-- A value that was bound is under its generated name, unless the merges after it bring another
value for that name; the last one that they bring counts. None does if no carried name is a mark
with a number. -/
theorem generated_kept_iff (h : c.compile params s = .ok out) {before after : List TableStep}
    {v : Value} (hsteps : s.steps c = before ++ .add v :: after) :
    let name := (Statement.tableAfter c params before).freshName
    out.params.get? name = some ((overriding name after).getD v) ∧
      (out.params.get? name = some v ↔
        overriding name after = none ∨ overriding name after = some v) ∧
      ((∀ p ∈ s.parts c, ∀ carried ∈ p.names, ∀ n, carried ≠ ParamTable.nameOf c.mark n) →
        out.params.get? name = some v) := by
  intro name
  have hvalue : out.params.get? name = some ((overriding name after).getD v) := by
    rw [params_eq h, hsteps]
    exact get?_run_added before after v _
  refine ⟨hvalue, ?_, fun hnames => ?_⟩
  · rw [hvalue]
    cases overriding name after with
    | none => simp
    | some w => simp
  · have hnone : overriding name after = none := overriding_eq_none_of_parts hnames hsteps
    rw [hvalue, hnone]
    rfl

/-- A condition with a value to bind, and after it an expression that carries another value under
the name that the first one gets. -/
def collidingCondition : Value :=
  .cond .and [.hash [("a", .int 1)], .expr ⟨"b = :qp0", [(":qp0", .int 99)]⟩]

/-- The value that was bound in the colliding condition counts under its name if and only if it is
the one that the expression carries. -/
theorem generated_kept_iff_colliding :
    Compiler.compile { dialect := .standard .ansi } [] (.condition collidingCondition)
        = .ok ⟨"(\"a\"=:qp0) AND (b = :qp0)", [(":qp0", .int 99)], "ansi"⟩ ∧
      (Entries.get? ":qp0" [(":qp0", Value.int 99)] = some (.int 1) ↔
        some (Value.int 99) = none ∨ some (Value.int 99) = some (.int 1)) :=
  ⟨rfl, (@generated_kept_iff { dialect := .standard .ansi } [] (.condition collidingCondition)
    _ rfl [] [.merge [(":qp0", .int 99)]] (.int 1) rfl).2.1⟩

/-- A value that was bound is not always found under its generated name. -/
theorem generated_not_always_kept :
    ¬ ∀ (c : Compiler) (params : Entries Value) (s : Statement) (out : Compiled),
      c.compile params s = .ok out → ∀ before v after, s.steps c = before ++ .add v :: after →
        out.params.get? (Statement.tableAfter c params before).freshName = some v := by
  intro hkept
  have h := hkept { dialect := .standard .ansi } [] (.condition collidingCondition)
    ⟨"(\"a\"=:qp0) AND (b = :qp0)", [(":qp0", .int 99)], "ansi"⟩ rfl [] (.int 1)
    [.merge [(":qp0", .int 99)]] rfl
  -- The name is `:qp0`, and the expression put 99 there.
  have hvalue : Entries.get? ":qp0" [(":qp0", Value.int 99)] = some (.int 1) := h
  cases hvalue

/-! ### Parameters of raw expressions -/

/-- Every raw expression that is written out stands in the text. Its names are all among the
parameters if and only if that holds of those expressions whose parameters are left behind. -/
theorem carried_iff (h : c.compile params s = .ok out) :
    (∀ e, s.Emits c e → e.text.toList <:+: out.sql.toList) ∧
      ((∀ e, s.Emits c e → ∀ name ∈ Entries.names e.params, name ∈ out.params.names) ↔
        ∀ e, Part.bare e ∈ s.parts c → ∀ name ∈ Entries.names e.params,
          name ∈ params.names ∨ name ∈ s.generated c params ∨
            ∃ p ∈ s.parts c, name ∈ p.names) := by
  refine ⟨fun e he => ?_, fun hall e he name hname => ?_, fun hbare e he name hname => ?_⟩
  · obtain ⟨f, hf, rfl⟩ := (c.compile_ok_iff params s out).mp h
    have hshown := (c.fragment_stands s f hf).shown
    rcases he with he | he
    · exact infix_bind (hshown _ he e rfl) _
    · exact infix_bind (hshown _ he e rfl) _
  · exact (mem_params_iff h name).mp (hall e (.inr he) name hname)
  · rw [mem_params_iff h]
    rcases he with he | he
    · -- An expression in any other position carries its own names.
      exact .inr (.inr ⟨_, he, hname⟩)
    · exact hbare e he name hname

/-- A query whose limit is an expression with a parameter. -/
def limitedQuery : Query :=
  { Query.empty with
    sources := [⟨.text "t", none⟩]
    limit := .expr ⟨":n", [(":n", .int 5)]⟩ }

/-- The limit is written out, and all parameters of the query arrive if and only if those of the
limit come from somewhere else. -/
theorem carried_iff_limited :
    Compiler.compile { dialect := .standard .ansi } [] (.query limitedQuery)
        = .ok ⟨"SELECT * FROM \"t\" LIMIT :n", [], "ansi"⟩ ∧
      ((∀ e, (Statement.query limitedQuery).Emits { dialect := .standard .ansi } e →
          ∀ name ∈ Entries.names e.params, name ∈ ([] : List String)) ↔
        ∀ e, Part.bare e ∈ (Statement.query limitedQuery).parts { dialect := .standard .ansi } →
          ∀ name ∈ Entries.names e.params, name ∈ ([] : List String) ∨
            name ∈ (Statement.query limitedQuery).generated { dialect := .standard .ansi } [] ∨
            ∃ p ∈ (Statement.query limitedQuery).parts { dialect := .standard .ansi },
              name ∈ p.names) :=
  ⟨rfl, (@carried_iff { dialect := .standard .ansi } [] (.query limitedQuery) _ rfl).2⟩

/-- An expression that is written out does not always bring its parameters. -/
theorem carried_not_always :
    ¬ ∀ (c : Compiler) (params : Entries Value) (s : Statement) (out : Compiled),
      c.compile params s = .ok out → ∀ e, s.Emits c e →
        ∀ name ∈ Entries.names e.params, name ∈ out.params.names := by
  intro hcarried
  have h := hcarried { dialect := .standard .ansi } [] (.query limitedQuery)
    ⟨"SELECT * FROM \"t\" LIMIT :n", [], "ansi"⟩ rfl ⟨":n", [(":n", .int 5)]⟩ ?_ ":n"
    (List.mem_singleton_self _)
  · exact List.not_mem_nil h
  · -- Beside the query, its parameters and its source, the limit is the only part.
    exact .inr (.tail _ (.tail _ (.head _)))

end Compiled

end SqlLoom
