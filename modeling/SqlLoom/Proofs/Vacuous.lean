import SqlLoom.Proofs.Grouping
import SqlLoom.Proofs.Meaning.Compile

/-!
# `SqlLoom.Proofs.Vacuous`: the conditions that compile to nothing

Which conditions say nothing can be read off without compiling them (`Value.isVacuous`): nothing at
all, empty texts, hashes without columns, what would exclude a value from an empty list, and logical
operators over such conditions.

A fragment is empty exactly where its condition is of this kind (`Value.conditionFragment_empty`).
So no test is left out by mistake, at any depth and in lists that are split as well. A vacuous
condition takes no steps over the table of parameters, except where an expression without text
carries parameters of its own.
-/

set_option autoImplicit false

namespace SqlLoom

open Fragment

/-! ### Vacuous conditions -/

mutual

/-- The condition says nothing. -/
def Value.isVacuous : Value → Bool
  | .null => true
  | .expr e => e.text.isEmpty
  | .map columns => columns.isEmpty
  | .hash columns => columns.isEmpty
  | .list items => shorthandVacuous items
  | .tuple items => shorthandVacuous items
  | .cond op operands => nodeVacuous op operands
  | v => v.text?.any String.isEmpty

/-- The condition that a shorthand list spells says nothing. -/
def shorthandVacuous : List Value → Bool
  | [] => true
  | head :: operands =>
    match head.headOperator with
    | .ok op => nodeVacuous op operands
    | .error _ => false

/-- An operator over these operands says nothing. -/
def nodeVacuous : Operator → List Value → Bool
  | .and, [] => true
  | .or, [] => true
  | .and, v :: rest => v.isVacuous && operandsVacuous rest
  | .or, v :: rest => v.isVacuous && operandsVacuous rest
  | .not, [operand] => operand.isVacuous
  | .membership true, [column, values] => column.asColumns.isEmpty || values.members.isEmpty
  | .like _ true _, _ :: values :: _ => values.members.isEmpty
  | _, _ => false

/-- All of the conditions say nothing. -/
def operandsVacuous : List Value → Bool
  | [] => true
  | v :: rest => v.isVacuous && operandsVacuous rest

end

mutual

/-- An expression stands in the place of a condition. -/
def Value.spellsExpression : Value → Bool
  | .expr _ => true
  | .list items => shorthandExpression items
  | .tuple items => shorthandExpression items
  | .cond op operands => nodeExpression op operands
  | _ => false

/-- An expression is an operand of the condition that a shorthand list spells. -/
def shorthandExpression : List Value → Bool
  | [] => false
  | head :: operands =>
    match head.headOperator with
    | .ok op => nodeExpression op operands
    | .error _ => false

/-- An expression is an operand of a logical operator. -/
def nodeExpression : Operator → List Value → Bool
  | .and, v :: rest => v.spellsExpression || operandsExpression rest
  | .or, v :: rest => v.spellsExpression || operandsExpression rest
  | .not, [operand] => operand.spellsExpression
  | _, _ => false

/-- An expression is among conditions. -/
def operandsExpression : List Value → Bool
  | [] => false
  | v :: rest => v.spellsExpression || operandsExpression rest

end

/-! ### Fragments of conditions -/

/-- The fragment is empty exactly where its condition is vacuous, and takes no steps then unless
there is an expression. -/
structure Fragment.Tells (vacuous expression : Bool) (f : Fragment) : Prop where
  isEmpty : f.isEmpty = vacuous
  steps : vacuous = true → expression = false → f.steps = []

/-- The same of the operands of a logical operator together. -/
structure TellAll (vacuous expression : Bool) (fs : List Fragment) : Prop where
  isEmpty : fs.all Fragment.isEmpty = vacuous
  steps : vacuous = true → expression = false → fs.flatMap Fragment.steps = []

namespace Fragment.Tells

variable {vacuous expression : Bool} {f : Fragment}

/-- What has a text tells that its condition is not vacuous. -/
theorem of_shown (h : f.isEmpty = false) : f.Tells false expression := ⟨h, nofun⟩

theorem empty : Fragment.empty.Tells true expression := ⟨rfl, fun _ _ => rfl⟩

theorem negation (h : f.Tells vacuous expression) :
    (SqlLoom.negation f).Tells vacuous expression :=
  ⟨(isEmpty_negation f).trans h.isEmpty, by rw [steps_negation]; exact h.steps⟩

/-- One operand and the others. -/
theorem cons {others expressions : Bool} {fs : List Fragment} (h : f.Tells vacuous expression)
    (hothers : TellAll others expressions fs) :
    TellAll (vacuous && others) (expression || expressions) (f :: fs) := by
  refine ⟨?_, fun hvacuous hexpression => ?_⟩
  · rw [List.all_cons, h.isEmpty, hothers.isEmpty]
  · obtain ⟨hfirst, hrest⟩ := Bool.and_eq_true_iff.mp hvacuous
    obtain ⟨hnone, hnones⟩ := Bool.or_eq_false_iff.mp hexpression
    rw [List.flatMap_cons, h.steps hfirst hnone, hothers.steps hrest hnones]
    rfl

end Fragment.Tells

theorem TellAll.grouped {vacuous expression : Bool} {fs : List Fragment} (op : String)
    (h : TellAll vacuous expression fs) :
    (Fragment.grouped op fs).Tells vacuous expression :=
  ⟨(isEmpty_grouped op fs).trans h.isEmpty, by rw [steps_grouped]; exact h.steps⟩

variable {d : Dialect} {expression : Bool}

/-! ### Tests -/

theorem Fragment.isEmpty_ofText_space (s : String) : (ofText (s ++ " ")).isEmpty = false := by
  simp [Fragment.isEmpty, ofText]

/-- A hash says nothing where it has no columns. -/
theorem columnTests_tell (hceiling : d.HoldsValues) (subqueries : Bool)
    (columns : List (String × Value)) :
    Gives (columnTests d subqueries columns) fun tests =>
      (conjunction tests).Tells columns.isEmpty expression := by
  intro tests htests
  obtain ⟨hlength, hshown⟩ := columnTests_shown hceiling.counts subqueries columns tests htests
  cases columns with
  | nil =>
      obtain rfl := List.eq_nil_of_length_eq_zero hlength
      exact .empty
  | cons e rest =>
      match tests, hlength, hshown with
      | [one], _, hshown => exact .of_shown (hshown one List.mem_cons_self)
      | f :: g :: fs, _, _ =>
          rw [conjunction_cons_cons]
          exact .of_shown (isEmpty_parens _)

/-- A negated membership test says nothing where there are no values, whether or not the list is
split. -/
theorem negatedMembership_tells (hceiling : d.HoldsValues) (column : Value) (values : List Value) :
    Gives (membershipFragment d true column values) (Fragment.Tells values.isEmpty expression) := by
  have hchunk (part : List Value) (hpart : part ≠ []) :
      Gives (chunkMembership d true column part) fun f => f.isEmpty = false :=
    (chunkMembership_tests False.elim true (fun _ => hpart) False.elim).imp
      fun _ hf => hf.isEmpty
  rw [membershipFragment]
  refine Gives.andThen fun split hsplit => ?_
  cases split with
  | none =>
      dsimp only
      cases values with
      | nil =>
          rw [chunkMembership_nil]
          exact Gives.ok .empty
      | cons v rest => exact (hchunk _ (List.cons_ne_nil v rest)).imp fun _ hf => .of_shown hf
  | some parts =>
      -- None of the parts is empty, so neither is the list nor the text of any part.
      obtain ⟨hflatten, hne, hparts⟩ := splitMembers_spec hceiling.counts hsplit
      obtain ⟨part, rest, rfl⟩ := List.exists_cons_of_ne_nil hne
      have hpart : part ≠ [] := hparts part List.mem_cons_self
      have hvalues : values.isEmpty = false := by
        obtain ⟨v, vs, rfl⟩ := List.exists_cons_of_ne_nil hpart
        rw [← hflatten]
        rfl
      rw [hvalues]
      dsimp only
      rw [List.mapM_cons]
      simp only [bind_assoc, pure_bind]
      refine Gives.bind (hchunk part hpart) fun test htest => Gives.andThen fun tests _ => ?_
      refine Gives.pure (.of_shown ?_)
      rw [isEmpty_grouped, List.all_cons, htest]
      rfl

/-- An interval always says something. -/
theorem between_tells (d : Dialect) (negated : Bool) (operands : List Value) :
    Gives (betweenFragment d negated operands) (Fragment.Tells false expression) := by
  fun_cases betweenFragment d negated operands with
  | case1 => exact Gives.error _ _
  | case2 column low high words =>
      refine Gives.ok (.of_shown ?_)
      have hwords : (ofText " AND ").isEmpty = false := rfl
      rw [isEmpty_append, isEmpty_append, hwords, Bool.and_false, Bool.false_and]
  | case3 => exact Gives.error _ _

theorem isEmpty_join_cons (sep : String) {f : Fragment} (hf : f.isEmpty = false)
    (rest : List Fragment) : (Fragment.join sep (f :: rest)).isEmpty = false := by
  cases rest with
  | nil => rwa [join_singleton]
  | cons g rest => rw [join_cons_cons, isEmpty_append, isEmpty_append, hf]; rfl

/-- A pattern test says nothing where it is negated and there are no patterns. -/
theorem like_tells (d : Dialect) (any negated caseless : Bool) (column values escape : Value) :
    Gives (likeFragment d any negated caseless column values escape)
      (Fragment.Tells (negated && values.members.isEmpty) expression) := by
  rw [likeFragment]
  split
  · -- Without patterns nothing matches, which says something unless it is negated.
    rename_i hnone
    rw [hnone, Bool.and_true]
    cases negated with
    | false => exact Gives.pure (.of_shown rfl)
    | true => exact Gives.pure .empty
  · rename_i hsome
    rw [(Bool.not_eq_true _).mp hsome, Bool.and_false]
    dsimp only
    split
    · exact Gives.error _ _
    · refine Gives.bind (Gives.length_mapM _ _) fun patterns hlength => Gives.pure (.of_shown ?_)
      obtain ⟨v, vs, hvalues⟩ := List.exists_cons_of_ne_nil (mt List.isEmpty_iff.mpr hsome)
      obtain ⟨p, ps, rfl⟩ : ∃ p ps, patterns = p :: ps := by
        refine List.exists_cons_of_ne_nil fun hnil => ?_
        rw [hnil, hvalues] at hlength
        cases hlength
      -- The operator stands between spaces, whatever the column and the pattern are.
      rw [isEmpty_append, List.map_cons, isEmpty_join_cons, Bool.and_false]
      rw [isEmpty_append, isEmpty_append, isEmpty_append, isEmpty_ofText_space, Bool.and_false,
        Bool.false_and, Bool.false_and]

/-! ### Operators -/

theorem membershipNode_tells (hceiling : d.HoldsValues) (subqueries negated : Bool)
    (column values : Value) :
    Gives (nodeFragment d subqueries (.membership negated) [column, values])
      (Fragment.Tells (nodeVacuous (.membership negated) [column, values]) expression) := by
  have hnothing : (nothingMatches negated).Tells negated expression := by
    cases negated with
    | false => exact .of_shown rfl
    | true => exact .empty
  have hvacuous : nodeVacuous (.membership negated) [column, values]
      = (negated && (column.asColumns.isEmpty || values.members.isEmpty)) := by
    cases negated <;> rfl
  rw [hvacuous]
  rcases values.query_or_not with ⟨q, rfl⟩ | hquery
  · -- A sub-query counts as one value, however many rows it has.
    have hmembers : (Value.query q).members.isEmpty = false := rfl
    rw [nodeFragment, hmembers, Bool.or_false]
    split
    · exact Gives.error _ _
    · split
      · rename_i hempty
        rw [hempty, Bool.and_true]
        exact Gives.ok hnothing
      · rename_i hcolumns
        rw [(Bool.not_eq_true _).mp hcolumns, Bool.and_false]
        split
        · refine Gives.andThen fun rows _ => Gives.pure (.of_shown ?_)
          exact (queryMembership_tests False.elim negated rows False.elim).isEmpty
        · exact Gives.error _ _
  · -- Any other value counts by its members, and without one nothing matches.
    rw [nodeFragment]
    · split
      · exact Gives.error _ _
      · split
        · rename_i hempty
          rw [hempty, Bool.true_or, Bool.and_true]
          exact Gives.ok hnothing
        · rename_i hcolumns
          rw [(Bool.not_eq_true _).mp hcolumns, Bool.false_or]
          cases negated with
          | false =>
              exact (membershipFragment_shown hceiling.counts column values.members).imp
                fun _ hf => .of_shown hf
          | true => exact negatedMembership_tells hceiling column values.members
    · exact hquery

theorem pattern_tells (d : Dialect) (any negated caseless : Bool) (operands : List Value) :
    Gives (patternTest d any negated caseless operands)
      (Fragment.Tells (nodeVacuous (.like any negated caseless) operands) expression) := by
  have hvacuous (column values : Value) (rest : List Value) :
      nodeVacuous (.like any negated caseless) (column :: values :: rest)
        = (negated && values.members.isEmpty) := by
    cases negated <;> rfl
  fun_cases patternTest d any negated caseless operands with
  | case1 => exact Gives.error _ _
  | case2 column values =>
      rw [hvacuous]
      exact like_tells d any negated caseless column values .null
  | case3 column values hnull escape =>
      rw [hvacuous]
      exact like_tells d any negated caseless column values escape
  | case4 => exact Gives.error _ _
  | case5 => exact Gives.error _ _

theorem existenceNode_tells (d : Dialect) (subqueries negated : Bool) (value : Value) :
    Gives (nodeFragment d subqueries (.existence negated) [value])
      (Fragment.Tells false expression) := by
  cases value with
  | query q =>
      rw [nodeFragment]
      split
      · refine Gives.andThen fun rows _ => Gives.pure (.of_shown ?_)
        rw [isEmpty_append, isEmpty_parens, Bool.and_false]
      · exact Gives.error _ _
  | _ => exact Gives.error _ _

theorem compareNode_tells (d : Dialect) (subqueries : Bool) (symbol : String)
    (column value : Value) :
    Gives (nodeFragment d subqueries (.compare symbol) [column, value])
      (Fragment.Tells false expression) := by
  have hleft (right : Fragment) :
      (columnFragment d column ++ ofText (" " ++ symbol ++ " ") ++ right).isEmpty = false := by
    rw [isEmpty_append, isEmpty_append, isEmpty_ofText_space, Bool.and_false, Bool.false_and]
  rcases value.query_or_not with ⟨q, rfl⟩ | hquery
  · rw [nodeFragment]
    split
    · exact Gives.andThen fun rows _ => Gives.pure (.of_shown (hleft _))
    · exact Gives.error _ _
  · rw [nodeFragment]
    · exact Gives.ok (.of_shown (hleft _))
    · exact hquery

/-! ### The recursion -/

mutual

/-- The fragment of a condition is empty exactly where the condition is vacuous. -/
theorem Value.conditionFragment_tells (hceiling : d.HoldsValues)
    (subqueries : Bool) : (v : Value) →
      Gives (v.conditionFragment d subqueries) (Fragment.Tells v.isVacuous v.spellsExpression)
  | .null => Gives.ok .empty
  | .expr e => Gives.ok ⟨Bool.and_true _, nofun⟩
  | .map columns | .hash columns => by
      rw [Value.conditionFragment, Value.isVacuous]
      exact Gives.bind (columnTests_tell hceiling subqueries columns) fun _ h => Gives.pure h
  | .list items | .tuple items => by
      rw [Value.conditionFragment, Value.isVacuous, Value.spellsExpression]
      exact shorthandFragment_tells hceiling subqueries items
  | .cond op operands => by
      rw [Value.conditionFragment, Value.isVacuous, Value.spellsExpression]
      exact nodeFragment_tells hceiling subqueries op operands
  | .text _ | .direction _ | .isolation _ | .columnType _ =>
      Gives.ok ⟨Bool.and_true _, fun _ _ => rfl⟩
  | .bool _ | .int _ | .float _ | .bytes _ | .stream _ | .typed .. | .out .. | .query _ | .item _
  | .ref _ | .join _ | .order _ | .branch _ => Gives.error _ _

theorem shorthandFragment_tells (hceiling : d.HoldsValues) (subqueries : Bool) :
    (items : List Value) → Gives (shorthandFragment d subqueries items)
      (Fragment.Tells (shorthandVacuous items) (shorthandExpression items))
  | [] => Gives.ok .empty
  | head :: operands => by
      rw [shorthandFragment, shorthandVacuous, shorthandExpression]
      refine Gives.andThen fun _ _ => Gives.andThen fun op hop => ?_
      rw [hop]
      exact nodeFragment_tells hceiling subqueries op operands

theorem nodeFragment_tells (hceiling : d.HoldsValues) (subqueries : Bool) :
    (op : Operator) → (operands : List Value) → Gives (nodeFragment d subqueries op operands)
      (Fragment.Tells (nodeVacuous op operands) (nodeExpression op operands))
  | .and, [] | .or, [] => Gives.ok .empty
  | .and, v :: rest | .or, v :: rest => by
      rw [nodeFragment, nodeVacuous, nodeExpression]
      refine Gives.bind (v.conditionFragment_tells hceiling subqueries) fun _ hfirst => ?_
      exact Gives.bind (operandFragments_tell hceiling subqueries rest) fun _ hrest =>
        Gives.pure ((hfirst.cons hrest).grouped _)
  | .not, [operand] => by
      rw [nodeFragment, nodeVacuous, nodeExpression]
      exact Gives.bind (operand.conditionFragment_tells hceiling subqueries) fun _ h =>
        Gives.pure h.negation
  | .between negated, operands => by
      have hvacuous : nodeVacuous (.between negated) operands = false := by
        match operands with
        | [] | [_] | [_, _] | _ :: _ :: _ :: _ => rfl
      rw [nodeFragment, hvacuous]
      exact between_tells d negated operands
  | .membership negated, [column, values] =>
      membershipNode_tells hceiling subqueries negated column values
  | .like any negated caseless, operands => by
      rw [nodeFragment]
      exact pattern_tells d any negated caseless operands
  | .existence negated, [value] => existenceNode_tells d subqueries negated value
  | .existence _, _ :: _ :: _ => by
      rw [nodeFragment]
      · exact Gives.error _ _
      · exact fun q h => by cases h
  | .compare symbol, [column, value] => compareNode_tells d subqueries symbol column value
  | .not, [] | .not, _ :: _ :: _ | .membership _, [] | .membership _, [_]
  | .membership _, _ :: _ :: _ :: _ | .existence _, []
  | .compare _, [] | .compare _, [_] | .compare _, _ :: _ :: _ :: _ => Gives.error _ _

theorem operandFragments_tell (hceiling : d.HoldsValues) (subqueries : Bool) :
    (operands : List Value) → Gives (operandFragments d subqueries operands)
      (TellAll (operandsVacuous operands) (operandsExpression operands))
  | [] => Gives.ok ⟨rfl, fun _ _ => rfl⟩
  | v :: rest => by
      rw [operandFragments, operandsVacuous, operandsExpression]
      refine Gives.bind (v.conditionFragment_tells hceiling subqueries) fun _ hfirst => ?_
      exact Gives.bind (operandFragments_tell hceiling subqueries rest) fun _ hrest =>
        Gives.pure (hfirst.cons hrest)

end

/-! ### Over a table of parameters -/

/-- What a vacuous condition, and no other, is bound to: no text, and no change of the table unless
there is an expression. -/
theorem Value.conditionFragment_empty (hceiling : d.HoldsValues) {subqueries : Bool} {v : Value}
    {f : Fragment} (hf : v.conditionFragment d subqueries = .ok f) (t : ParamTable) :
    ((f.bind t).1 = "" ↔ v.isVacuous = true) ∧
      (v.isVacuous = true → v.spellsExpression = false → (f.bind t).2 = t) := by
  have htells := v.conditionFragment_tells hceiling subqueries f hf
  have hbalanced := (v.conditionFragment_stands d subqueries f hf).toFits.balanced
  refine ⟨?_, fun hvacuous hexpression => ?_⟩
  · -- A generated name is never empty, so the pieces of the text decide over any table.
    rw [bind_eq_empty_iff hbalanced, htells.isEmpty]
  · rw [Fragment.bind, htells.steps hvacuous hexpression]
    rfl

end SqlLoom
