import SqlLoom.Proofs.Statement
import SqlLoom.Proofs.Tests

/-!
# `SqlLoom.Proofs.Grouping`: operands keep to themselves

A combination of conditions (`Value.combination?`) is an AND or an OR as it is spelled, or a hash of
several columns, which is the AND of hashes of one column each. Its text is the texts of its
operands, each in parentheses, with the operator between them; so it can be cut where no parenthesis
is open, and the pieces are the operands again (`cut_grouped`, `cut_negation`). No operand can take
up a part of its neighbour, whatever operators it is made of.

Operands that say nothing are left out. A column of a hash always says something
(`columnTest_shown`).
-/

set_option autoImplicit false

namespace SqlLoom

open Fragment

variable {d : Dialect}

/-! ### Combinations -/

/-- The operator and the operands that a condition spells, as a node or in shorthand. -/
def Value.node? : Value → Option (Operator × List Value)
  | .cond op operands => some (op, operands)
  | .list (head :: operands) => head.headOperator.toOption.map fun op => (op, operands)
  | .tuple (head :: operands) => head.headOperator.toOption.map fun op => (op, operands)
  | _ => none

/-- The columns of a hash. -/
def Value.columns? : Value → Option (List (String × Value))
  | .map columns => some columns
  | .hash columns => some columns
  | _ => none

/-- The operands that a condition combines, and the operator between them. A hash of several columns
combines hashes of one. -/
def Value.combination? (v : Value) : Option (String × List Value) :=
  match v.columns?, v.node? with
  | some columns, _ =>
    if 2 ≤ columns.length then some ("AND", columns.map fun e => .hash [e]) else none
  | none, some (.and, operands) => some ("AND", operands)
  | none, some (.or, operands) => some ("OR", operands)
  | none, _ => none

/-- The condition that a condition negates. -/
def Value.negated? (v : Value) : Option Value :=
  match v.node? with
  | some (.not, [operand]) => some operand
  | _ => none

/-- What a shorthand list compiles to is the node that it spells. -/
theorem nodeFragment_of_shorthand {subqueries : Bool} {head : Value} {op : Operator}
    {operands : List Value} (hop : head.headOperator.toOption = some op) {f : Fragment}
    (hf : shorthandFragment d subqueries (head :: operands) = .ok f) :
    nodeFragment d subqueries op operands = .ok f := by
  cases hhead : head.headOperator with
  | error e =>
      rw [hhead] at hop
      cases hop
  | ok op' =>
      rw [hhead] at hop
      cases hop
      rw [shorthandFragment, hhead] at hf
      -- The list is read as a whole before the node is compiled.
      cases hnode : nodeOfShorthand (head :: operands) with
      | error e =>
          rw [hnode] at hf
          cases hf
      | ok node =>
          rw [hnode] at hf
          exact hf

/-- What a node compiles to, however it is spelled. -/
theorem nodeFragment_of_node? {subqueries : Bool} {v : Value} {op : Operator}
    {operands : List Value} (hv : v.node? = some (op, operands)) {f : Fragment}
    (hf : v.conditionFragment d subqueries = .ok f) :
    nodeFragment d subqueries op operands = .ok f := by
  cases v with
  | cond op' operands' =>
      cases hv
      exact hf
  | list items | tuple items =>
      cases items with
      | nil => cases hv
      | cons head rest =>
          obtain ⟨op', hop, heq⟩ := Option.map_eq_some_iff.mp hv
          cases heq
          exact nodeFragment_of_shorthand hop hf
  | _ => cases hv

/-- What a hash compiles to, however it is spelled. -/
theorem columnTests_of_columns? {subqueries : Bool} {v : Value}
    {columns : List (String × Value)} (hv : v.columns? = some columns) :
    v.conditionFragment d subqueries = (columnTests d subqueries columns).map conjunction := by
  have hmap := fun cs => bind_pure_comp conjunction (columnTests d subqueries cs)
  cases v with
  | map cs =>
      cases hv
      exact hmap columns
  | hash cs =>
      cases hv
      exact hmap columns
  | _ => cases hv

/-! ### Columns of a hash -/

/-- A hash of one column compiles to the test of that column. -/
theorem conditionFragment_hash_singleton (d : Dialect) (subqueries : Bool) (e : String × Value) :
    (Value.hash [e]).conditionFragment d subqueries = columnTest d subqueries e.1 e.2 := by
  rw [Value.conditionFragment, columnTests_cons]
  cases columnTest d subqueries e.1 e.2 with
  | ok test => rfl
  | error e => rfl

/-- The columns of a hash compile as hashes of one column do. -/
theorem operandFragments_columns (d : Dialect) (subqueries : Bool)
    (columns : List (String × Value)) :
    operandFragments d subqueries (columns.map fun e => .hash [e])
      = columnTests d subqueries columns := by
  induction columns with
  | nil => rfl
  | cons e rest ih =>
      rw [List.map_cons, operandFragments, conditionFragment_hash_singleton, ih, columnTests_cons]

theorem columnTests_shown (hceiling : d.CountsValues) (subqueries : Bool)
    (columns : List (String × Value)) :
    Gives (columnTests d subqueries columns) fun tests =>
      tests.length = columns.length ∧ ∀ f ∈ tests, f.isEmpty = false := by
  induction columns with
  | nil => exact Gives.ok ⟨rfl, fun f hf => absurd hf List.not_mem_nil⟩
  | cons e rest ih =>
      rw [columnTests_cons]
      refine Gives.bind (columnTest_shown hceiling subqueries e.1 e.2) fun test htest => ?_
      refine Gives.bind ih fun tests htests => Gives.pure ⟨?_, ?_⟩
      · rw [List.length_cons, List.length_cons, htests.1]
      · exact List.forall_mem_cons.mpr ⟨htest, htests.2⟩

/-- Where every fragment shows something, nothing is left out of a row. -/
theorem joinShown_eq_join (sep : String) {fs : List Fragment} (h : ∀ f ∈ fs, f.isEmpty = false) :
    joinShown sep fs = Fragment.join sep fs := by
  induction fs with
  | nil => rfl
  | cons f rest ih =>
      obtain ⟨hf, hrest⟩ := List.forall_mem_cons.mp h
      have hkept : (rest.filter fun g => !g.isEmpty) = rest :=
        List.filter_eq_self.mpr fun g hg => by rw [hrest g hg]; rfl
      rw [joinShown_cons, hf, if_neg Bool.false_ne_true, hkept, ih hrest]
      cases rest with
      | nil =>
          show Fragment.mk _ _ = _
          simp [Fragment.empty]
      | cons g rest =>
          rw [join_cons_cons, if_neg]
          exact Bool.false_ne_true

/-- Several columns of a hash are put together as the operands of AND are. -/
theorem conjunction_eq_grouped {fs : List Fragment} (hlength : 2 ≤ fs.length)
    (h : ∀ f ∈ fs, f.isEmpty = false) : conjunction fs = grouped "AND" fs := by
  obtain ⟨f, g, rest, rfl⟩ : ∃ f g rest, fs = f :: g :: rest := by
    match fs, hlength with
    | f :: g :: rest, _ => exact ⟨f, g, rest, rfl⟩
  have hshown : ¬(joinShown (") " ++ "AND" ++ " (") (f :: g :: rest)).isEmpty = true := by
    rw [isEmpty_joinShown, List.all_cons, h f List.mem_cons_self]
    exact Bool.false_ne_true
  rw [conjunction_cons_cons, grouped, if_neg hshown, joinShown_eq_join _ h]

/-! ### Cutting a combination -/

/-- Paired fragments give balanced texts, one after another. -/
theorem balanced_bindAll {fs : List Fragment} (h : ∀ f ∈ fs, f.Paired) {t : ParamTable}
    (hmark : Text.Balanced t.mark.toList) : AllBalanced (bindAll fs t) := by
  induction fs generalizing t with
  | nil => exact allBalanced_nil
  | cons f rest ih =>
      obtain ⟨hf, hrest⟩ := List.forall_mem_cons.mp h
      rw [bindAll, allBalanced_cons]
      exact ⟨hf.bind hmark, ih hrest (by rwa [mark_bind])⟩

/-- A group is cut into the texts of its members, with the operator between them. -/
theorem cut_grouped {op : String} (hop : Text.Flat op.toList) {fs : List Fragment}
    (hbalanced : ∀ f ∈ fs, f.Balanced) (hpaired : ∀ f ∈ fs, f.Paired) {t : ParamTable}
    (hmark : Text.Balanced t.mark.toList) (hne : shownTexts fs t ≠ []) :
    Text.cut ((grouped op fs).bind t).1.toList
      = [] :: ((shownTexts fs t).map String.toList).intersperse (" " ++ op ++ " ").toList
        ++ [[]] := by
  have htexts : AllBalanced (shownTexts fs t) :=
    fun s hs => balanced_bindAll hpaired hmark s (List.mem_of_mem_filter hs)
  rw [bind_grouped op hbalanced t hne]
  exact Text.cut_group hop hne htexts

/-- A negation is cut into its keyword and the text of the negated condition. -/
theorem cut_negation {f : Fragment} (hbalanced : f.Balanced) (hpaired : f.Paired) {t : ParamTable}
    (hmark : Text.Balanced t.mark.toList) (hne : (f.bind t).1 ≠ "") :
    Text.cut ((negation f).bind t).1.toList = ["NOT ".toList, (f.bind t).1.toList, []] := by
  rw [bind_negation hbalanced t hne]
  exact Text.cut_negation (hpaired.bind hmark)

/-! ### What combinations compile to -/

theorem Each.forall_balanced {ps : List Part} {fs : List Fragment} (h : Each (Fits d) ps fs) :
    ∀ f ∈ fs, f.Balanced := by
  induction h with
  | nil => exact fun f hf => absurd hf List.not_mem_nil
  | cons hf _ ih => exact List.forall_mem_cons.mpr ⟨hf.balanced, ih⟩

/-- The operands of a logical operator, by what each of them compiles to. -/
theorem operandFragments_map {α : Type} {subqueries : Bool} {operand : α → Value}
    {x : α → Except Error Fragment} {as : List α}
    (h : ∀ a ∈ as, (operand a).conditionFragment d subqueries = x a) :
    operandFragments d subqueries (as.map operand) = as.mapM x := by
  induction as with
  | nil => rfl
  | cons a rest ih =>
      obtain ⟨hfirst, hrest⟩ := List.forall_mem_cons.mp h
      rw [List.map_cons, operandFragments, hfirst, ih hrest, List.mapM_cons]

/-- AND and OR group what their operands compile to. -/
theorem nodeFragment_junction (d : Dialect) (subqueries : Bool) {op : Operator}
    (hop : op = .and ∨ op = .or) (operands : List Value) :
    nodeFragment d subqueries op operands
      = (operandFragments d subqueries operands).map (grouped op.keyword) := by
  rcases hop with rfl | rfl
  all_goals
    cases operands with
    | nil => rfl
    | cons v rest =>
        rw [nodeFragment, operandFragments]
        cases v.conditionFragment d subqueries with
        | error e => rfl
        | ok first => cases operandFragments d subqueries rest <;> rfl

/-- The texts of a node are among those of the condition that spells it. -/
theorem Value.nodeTexts_of_node? {v : Value} {op : Operator} {operands : List Value}
    (hv : v.node? = some (op, operands)) (h : AllBalanced v.conditionTexts) :
    AllBalanced (nodeTexts op operands) := by
  have hshorthand : ∀ head rest, head.headOperator.toOption.map (fun op => (op, rest))
      = some (op, operands) → AllBalanced (shorthandTexts (head :: rest)) →
      AllBalanced (nodeTexts op operands) := by
    intro head rest hhead htexts
    obtain ⟨op', hop, heq⟩ := Option.map_eq_some_iff.mp hhead
    cases heq
    cases hok : head.headOperator with
    | error e =>
        rw [hok] at hop
        cases hop
    | ok op' =>
        rw [hok] at hop
        cases hop
        rw [shorthandTexts, hok, allBalanced_append] at htexts
        exact htexts.2
  cases v with
  | cond op' operands' =>
      cases hv
      exact ((allBalanced_append _ _).mp h).2
  | list items | tuple items =>
      cases items with
      | nil => cases hv
      | cons head rest => exact hshorthand head rest hv h
  | _ => cases hv

theorem Value.operandsTexts_of_junction {op : Operator} {operands : List Value}
    (hop : op = .and ∨ op = .or) (h : AllBalanced (nodeTexts op operands)) :
    AllBalanced (operandsTexts operands) := by
  rcases hop with rfl | rfl <;> cases operands <;> exact h

/-- AND and OR compile to the group of what their operands compile to. -/
theorem Value.junction_fragment (hd : d.Level) {subqueries : Bool} {v : Value} {op : Operator}
    (hop : op = .and ∨ op = .or) {operands : List Value} (hv : v.node? = some (op, operands))
    (htexts : AllBalanced v.conditionTexts) {f : Fragment}
    (hf : v.conditionFragment d subqueries = .ok f) :
    ∃ fs, operandFragments d subqueries operands = .ok fs ∧ f = grouped op.keyword fs ∧
      (∀ g ∈ fs, g.Balanced) ∧ ∀ g ∈ fs, g.Paired := by
  have hnode := nodeFragment_of_node? hv hf
  rw [nodeFragment_junction d subqueries hop] at hnode
  cases hoperands : operandFragments d subqueries operands with
  | error e =>
      rw [hoperands] at hnode
      cases hnode
  | ok fs =>
      rw [hoperands] at hnode
      cases hnode
      have hpaired := operandFragments_paired hd subqueries operands
        (operandsTexts_of_junction hop (nodeTexts_of_node? hv htexts)) fs hoperands
      have hstands := operandFragments_stands d subqueries operands fs hoperands
      exact ⟨fs, rfl, rfl, hstands.forall_balanced, hpaired⟩

/-- A hash of several columns compiles to the group of what hashes of one column compile to. -/
theorem Value.columns_fragment (hd : d.Level) (hceiling : d.HoldsValues) {subqueries : Bool}
    {v : Value} {columns : List (String × Value)} (hv : v.columns? = some columns)
    (hlength : 2 ≤ columns.length) (htexts : AllBalanced v.conditionTexts) {f : Fragment}
    (hf : v.conditionFragment d subqueries = .ok f) :
    ∃ fs, operandFragments d subqueries (columns.map fun e => .hash [e]) = .ok fs ∧
      f = grouped "AND" fs ∧ (∀ g ∈ fs, g.Balanced) ∧ ∀ g ∈ fs, g.Paired := by
  have hcolumns : AllBalanced (columnsTexts columns) := by
    cases v with
    | map cs | hash cs =>
        cases hv
        exact htexts
    | _ => cases hv
  rw [columnTests_of_columns? hv] at hf
  rw [operandFragments_columns]
  cases htests : columnTests d subqueries columns with
  | error e =>
      rw [htests] at hf
      cases hf
  | ok fs =>
      rw [htests] at hf
      cases hf
      obtain ⟨hcount, hshown⟩ := columnTests_shown hceiling.counts subqueries columns fs htests
      have hpaired := columnTests_paired hd subqueries columns hcolumns fs htests
      have hfits := (columnTests_stands d subqueries columns fs htests).imp fun _ _ h => h.toFits
      exact ⟨fs, rfl, conjunction_eq_grouped (hcount ▸ hlength) hshown, hfits.forall_balanced,
        hpaired⟩

/-- A combination compiles to the group of what its operands compile to. -/
theorem Value.combination_fragment (hd : d.Level) (hceiling : d.HoldsValues) {subqueries : Bool}
    {v : Value} {op : String} {operands : List Value} (hv : v.combination? = some (op, operands))
    (htexts : AllBalanced v.conditionTexts) {f : Fragment}
    (hf : v.conditionFragment d subqueries = .ok f) :
    Text.Flat op.toList ∧ ∃ fs, operandFragments d subqueries operands = .ok fs ∧
      f = grouped op fs ∧ (∀ g ∈ fs, g.Balanced) ∧ ∀ g ∈ fs, g.Paired := by
  rw [combination?] at hv
  split at hv
  · rename_i columns hcolumns
    split at hv
    · rename_i hlength
      cases hv
      exact ⟨Text.flat_of_all rfl, columns_fragment hd hceiling hcolumns hlength htexts hf⟩
    · cases hv
  · rename_i hnode
    cases hv
    exact ⟨Text.flat_of_all rfl, junction_fragment hd (.inl rfl) hnode htexts hf⟩
  · rename_i hnode
    cases hv
    exact ⟨Text.flat_of_all rfl, junction_fragment hd (.inr rfl) hnode htexts hf⟩
  · cases hv

/-- A negation negates what its operand compiles to. -/
theorem Value.negated_fragment (hd : d.Level) {subqueries : Bool} {v operand : Value}
    (hv : v.negated? = some operand) (htexts : AllBalanced v.conditionTexts) {f : Fragment}
    (hf : v.conditionFragment d subqueries = .ok f) :
    ∃ g, operand.conditionFragment d subqueries = .ok g ∧ f = negation g ∧ g.Balanced ∧
      g.Paired := by
  rw [negated?] at hv
  split at hv
  · rename_i hnode
    cases hv
    have hnodef := nodeFragment_of_node? hnode hf
    rw [nodeFragment] at hnodef
    cases hoperand : operand.conditionFragment d subqueries with
    | error e =>
        rw [hoperand] at hnodef
        cases hnodef
    | ok g =>
        rw [hoperand] at hnodef
        cases hnodef
        have hbalanced := (operand.conditionFragment_stands d subqueries g hoperand).toFits.balanced
        have hpaired := operand.conditionFragment_paired hd subqueries
          (nodeTexts_of_node? hnode htexts) g hoperand
        exact ⟨g, rfl, rfl, hbalanced, hpaired⟩
  · cases hv

/-! ### Statements -/

/-- Where every text of a query or a condition and the mark of generated names are balanced, so is
the text that it compiles to, in every built-in dialect. A combination is cut, outside of all
parentheses, into the texts of its operands that are not empty, with only the operator between
them, and a negation into its keyword and its operand; this holds at any place of a tree, because
the table that the names come from is arbitrary. -/
theorem compiled_balanced_and_grouped (b : Backend) (c : Compiler)
    (hdialect : c.dialect = .standard b) (hmark : Text.Balanced c.mark.toList) :
    (∀ (q : Query) (params : Entries Value), AllBalanced q.texts →
      Gives (c.build q params) fun out => Text.Balanced out.sql.toList) ∧
    (∀ (v : Value) (params : Entries Value), AllBalanced v.conditionTexts →
      Gives (c.buildCondition v params) fun out => Text.Balanced out.sql.toList) ∧
    ∀ (v : Value) (f : Fragment) (t : ParamTable), AllBalanced v.conditionTexts →
      v.conditionFragment c.dialect true = .ok f → t.mark = c.mark →
      (∀ op operands, v.combination? = some (op, operands) →
        ∃ fs, operandFragments c.dialect true operands = .ok fs ∧
          (shownTexts fs t ≠ [] → Text.cut (f.bind t).1.toList
            = [] :: ((shownTexts fs t).map String.toList).intersperse (" " ++ op ++ " ").toList
              ++ [[]])) ∧
      ∀ operand, v.negated? = some operand →
        ∃ g, operand.conditionFragment c.dialect true = .ok g ∧
          ((g.bind t).1 ≠ "" →
            Text.cut (f.bind t).1.toList = ["NOT ".toList, (g.bind t).1.toList, []]) := by
  have hd : c.dialect.Level := hdialect ▸ Dialect.standard_level b
  have hceiling : c.dialect.HoldsValues := hdialect ▸ Dialect.standard_holdsValues b
  refine ⟨fun q params htexts => ?_, fun v params htexts => ?_, fun v f t htexts hf ht => ⟨?_, ?_⟩⟩
  · exact Gives.bind (q.fragment_paired hd htexts) fun f hf => Gives.pure (hf.bind hmark)
  · exact Gives.bind (v.conditionFragment_paired hd true htexts) fun f hf =>
      Gives.pure (hf.bind hmark)
  · intro op operands hv
    obtain ⟨hop, fs, hfs, rfl, hbalanced, hpaired⟩ :=
      v.combination_fragment hd hceiling hv htexts hf
    exact ⟨fs, hfs, cut_grouped hop hbalanced hpaired (ht ▸ hmark)⟩
  · intro operand hv
    obtain ⟨g, hg, rfl, hbalanced, hpaired⟩ := v.negated_fragment hd hv htexts hf
    exact ⟨g, hg, cut_negation hbalanced hpaired (ht ▸ hmark)⟩

/-- A disjunction with a raw condition that has an OR of its own, and a page of a query that filters
by it. -/
theorem compiled_balanced_and_grouped_raw :
    let c : Compiler := { dialect := .standard .oracle }
    let v : Value := .cond .or [.text "(x) OR y", .hash [], .hash [("a", .int 1)]]
    let q : Query := { Query.empty with filter := .cond .not [v], limit := .int 5 }
    c.dialect = .standard .oracle ∧ Text.Balanced c.mark.toList ∧ AllBalanced q.texts ∧
      (∃ out, c.build q [] = .ok out ∧ Text.Balanced out.sql.toList) ∧
      ∃ f fs, v.conditionFragment c.dialect true = .ok f ∧
        operandFragments c.dialect true [.text "(x) OR y", .hash [], .hash [("a", .int 1)]]
          = .ok fs ∧
        shownTexts fs (.ofEntries c.mark []) = ["(x) OR y", "\"a\"=:qp0"] ∧
        Text.cut (f.bind (.ofEntries c.mark [])).1.toList
          = ["", "(x) OR y", " OR ", "\"a\"=:qp0", ""].map String.toList := by
  intro c v q
  have hmark : Text.Balanced c.mark.toList := by decide
  have hv : AllBalanced v.conditionTexts := by decide
  have hq : AllBalanced q.texts := by decide
  obtain ⟨hquery, -, hcut⟩ := compiled_balanced_and_grouped .oracle c rfl hmark
  refine ⟨rfl, hmark, hq, ⟨_, rfl, hquery q [] hq _ rfl⟩, _, _, rfl, rfl, by decide, ?_⟩
  obtain ⟨fs, hfs, htext⟩ := (hcut v _ (.ofEntries c.mark []) hv rfl rfl).1 "OR" _ rfl
  cases hfs
  exact (htext (by decide)).trans (by decide)

end SqlLoom
