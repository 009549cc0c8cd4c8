import SqlLoom.Proofs.Grouping
import SqlLoom.Proofs.Meaning

/-!
# `SqlLoom.Proofs.Meaning.Compile`: what compiled conditions say

The recursion over conditions, function by function: `Value.conditionFragment_meaning` is the result
for a condition in any spelling. A membership over a list beyond the ceiling is compiled to a group
of tests, and still says the one test of the whole list (`membershipFragment_meaning`).
-/

set_option autoImplicit false

namespace SqlLoom

open Fragment

variable {d : Dialect} {level : Prop} {mark : String}

/-! ### Groups -/

/-- The group of some formulas is what the group of their fragments says. -/
theorem Fragment.Says.junction (j : Junction) {Fs : List (Formula Test)} {fs : List Fragment}
    (h : List.Forall₂ (fun F => Says d mark level (F.shown Test.isBlank)) Fs fs) :
    Says d mark level ((Formula.group j Fs).shown Test.isBlank)
      (Fragment.grouped j.keyword fs) := by
  rw [Formula.shown_group]
  exact Says.grouped j (List.forall₂_map_left_iff.mpr h)

/-- The tests of a hash say that all of them hold. -/
theorem conjunction_meaning {columns : List (String × Value)} {tests : List Fragment}
    (h : List.Forall₂ (fun e =>
      Says d mark level ((Formula.test (.ofColumn e.1 e.2)).shown Test.isBlank)) columns tests) :
    Says d mark level ((columnsFormula columns).shown Test.isBlank) (conjunction tests) := by
  have hshown : ∀ f ∈ tests, f.isEmpty = false := by
    induction h with
    | nil => exact fun f hf => absurd hf List.not_mem_nil
    | @cons e f _ _ hf _ ih =>
        rw [Test.shown_ofColumn] at hf
        exact List.forall_mem_cons.mpr ⟨hf.isEmpty, ih⟩
  have hlength := h.length_eq
  have hgroup := Says.grouped .all (List.forall₂_map_left_iff.mpr h)
  -- A single test stands without parentheses, and only several are a group.
  match columns, tests, h with
  | [], [], _ => exact .empty
  | [e], [f], .cons hf _ => exact hf
  | e :: e' :: rest, tests, _ =>
      have hseveral : columnsFormula (e :: e' :: rest)
          = .group .all ((e :: e' :: rest).map fun e => .test (.ofColumn e.1 e.2)) := rfl
      have htwo : 2 ≤ tests.length := by
        rw [← hlength, List.length_cons, List.length_cons]
        omega
      rw [hseveral, Formula.shown_group, conjunction_eq_grouped htwo hshown, List.map_map]
      exact hgroup

/-! ### Tests -/

/-- Among no values there is nothing to compile. -/
theorem chunkMembership_nil (d : Dialect) (negated : Bool) (column : Value) :
    chunkMembership d negated column [] = .ok (nothingMatches negated) := by
  rw [chunkMembership]
  split <;> rfl

section Tests

variable (hd : d.Level) (hmark : level → Text.Balanced mark.toList)

include hd hmark

theorem nullTest_meaning {column : String}
    (hcolumn : level → Text.Balanced (Value.text column).shown.toList) :
    Says d mark level (some (.test (.null column)))
      (columnFragment d (.text column) ++ ofText " IS NULL") := by
  have hname := (columnFragment_stands d (.text column)).toFits.balanced
  show Says d mark level ((Formula.test (.null column)).shown Test.isBlank) _
  refine .test rfl (hname.append (balanced_ofText " IS NULL"))
    (fun h => by cases h) (fun _ => nullTest_tests (fun _ => hd) hcolumn) ?_ hmark
  intro hlevel
  exact (columnFragment_paired hd (hcolumn hlevel)).append (paired_ofText (by decide))

theorem equalTest_meaning {column : String} {value : Value}
    (hcolumn : level → Text.Balanced (Value.text column).shown.toList)
    (hvalue : level → AllBalanced value.expressionTexts) :
    Says d mark level (some (.test (.equal column value)))
      (columnFragment d (.text column) ++ ofText "=" ++ boundFragment value) := by
  have hname := (columnFragment_stands d (.text column)).toFits.balanced
  have hbalanced := (hname.append (balanced_ofText "=")).append
    (boundFragment_fits d value).balanced
  show Says d mark level ((Formula.test (.equal column value)).shown Test.isBlank) _
  refine .test rfl hbalanced (fun h => by cases h)
    (fun _ => equalTest_tests (fun _ => hd) _ hcolumn) ?_ hmark
  intro hlevel
  have hleft := (columnFragment_paired hd (hcolumn hlevel)).append
    (paired_ofText (s := "=") (by decide))
  exact hleft.append (boundFragment_paired (hvalue hlevel))

theorem chunkMembership_meaning (negated : Bool) {column : Value} {values : List Value}
    (hcolumn : level → AllBalanced (column.asColumns.map Value.shown))
    (hvalues : level → AllBalanced (values.flatMap memberTexts)) :
    Gives (chunkMembership d negated column values)
      (Says d mark level ((Formula.test (.among negated column values)).shown Test.isBlank)) := by
  intro f hf
  have hbalanced := (chunkMembership_stands d negated column values f hf).toFits.balanced
  refine .test hf hbalanced ?_ ?_ ?_ hmark
  · intro hblank
    -- Only the negated test says nothing, and only of an empty list.
    cases negated with
    | false => cases hblank
    | true =>
        cases values with
        | nil =>
            rw [chunkMembership_nil] at hf
            cases hf
            rfl
        | cons v rest => cases hblank
  · intro hblank
    refine chunkMembership_tests (fun _ => hd) negated (fun hnegated hnil => ?_) hcolumn f hf
    rw [hnegated, hnil] at hblank
    cases hblank
  · intro hlevel
    exact chunkMembership_paired hd negated (hcolumn hlevel) (hvalues hlevel) f hf

theorem queryMembership_meaning (negated : Bool) {column : Value} {q : Query}
    (hcolumn : level → AllBalanced (column.asColumns.map Value.shown))
    (hquery : level → AllBalanced q.texts) {rows : Fragment} (hrows : q.fragment d = .ok rows) :
    Says d mark level (some (.test (.rows negated column q)))
      (queryMembership d negated column rows) := by
  have hfits := (q.fragment_stands d rows hrows).toFits
  have hf : (Test.rows negated column q).fragment d
      = .ok (queryMembership d negated column rows) := by
    rw [Test.fragment, hrows]
    rfl
  refine .test hf (queryMembership_stands negated column hfits).toFits.balanced
    (fun h => by cases h) (fun _ => queryMembership_tests (fun _ => hd) negated rows hcolumn) ?_
    hmark
  intro hlevel
  exact queryMembership_paired hd negated (hcolumn hlevel)
    (q.fragment_paired hd (hquery hlevel) rows hrows)

/-- A list beyond the ceiling is tested part by part, and the group of these tests is the test of
the whole list. -/
theorem membershipFragment_meaning (hceiling : d.HoldsValues) (negated : Bool) {column : Value}
    {values : List Value} (hcolumn : level → AllBalanced (column.asColumns.map Value.shown))
    (hvalues : level → AllBalanced (values.flatMap memberTexts)) :
    Gives (membershipFragment d negated column values)
      (Says d mark level ((Formula.test (.among negated column values)).shown Test.isBlank)) := by
  rw [membershipFragment]
  refine Gives.andThen fun split hsplit => ?_
  cases split with
  | none => exact chunkMembership_meaning hd hmark negated hcolumn hvalues
  | some parts =>
      obtain ⟨hflatten, hne, hparts⟩ := splitMembers_spec hceiling.counts hsplit
      have hpart : ∀ part ∈ parts, level → AllBalanced (part.flatMap memberTexts) := by
        intro part hpart hlevel s hs
        refine hvalues hlevel s ?_
        obtain ⟨v, hv, hs⟩ := List.mem_flatMap.mp hs
        rw [← hflatten]
        exact List.mem_flatMap.mpr ⟨v, List.mem_flatten.mpr ⟨part, hpart, hv⟩, hs⟩
      refine Gives.bind (Gives.mapM fun part hmem =>
        chunkMembership_meaning hd hmark negated hcolumn (hpart part hmem)) fun tests htests => ?_
      refine Gives.pure ?_
      -- No part is empty, so none of the tests is left out, and neither is the test of the list.
      have hblank : ∀ part : List Value, part ≠ [] →
          (Test.among negated column part).isBlank = false := by
        intro part hpart
        obtain ⟨v, rest, rfl⟩ := List.exists_cons_of_ne_nil hpart
        cases negated <;> rfl
      have hvalues : values ≠ [] := by
        obtain ⟨part, rest, rfl⟩ := List.exists_cons_of_ne_nil hne
        rw [← hflatten, List.flatten_cons]
        exact List.append_ne_nil_of_left_ne_nil (hparts part List.mem_cons_self) _
      have hgroup := Says.grouped (Junction.ofParts negated) (List.forall₂_map_left_iff.mpr htests)
      have hkeyword : (chunkJoiner negated).keyword = (Junction.ofParts negated).keyword := by
        cases negated <;> rfl
      rw [Formula.shownGroup_tests _ _ hne fun part hmem => hblank part (hparts part hmem)]
        at hgroup
      rw [hkeyword, Formula.shown_test, hblank values hvalues]
      apply hgroup.congr
      intro ρ
      rw [Formula.holds_group, List.map_map, Formula.holds_test, ← hflatten]
      exact Test.holds_among_flatten ρ negated column parts

/-- The test of a column says itself; it is never left out. -/
theorem columnTest_meaning (hceiling : d.HoldsValues) (subqueries : Bool) {column : String}
    {value : Value} (hcolumn : level → Text.Balanced (Value.text column).shown.toList)
    (hvalue : level → AllBalanced value.comparedTexts) :
    Gives (columnTest d subqueries column value)
      (Says d mark level ((Formula.test (.ofColumn column value)).shown Test.isBlank)) := by
  rw [Test.shown_ofColumn]
  have hname : level → AllBalanced ((Value.text column).asColumns.map Value.shown) := by
    intro hlevel s hs
    cases List.mem_singleton.mp hs
    exact hcolumn hlevel
  fun_cases columnTest d subqueries column value with
  | case1 => exact Gives.pure (nullTest_meaning hd hmark hcolumn)
  | case2 q hsub =>
      refine Gives.andThen fun rows hrows => Gives.pure ?_
      exact queryMembership_meaning hd hmark false hname hvalue hrows
  | case3 q hsub => exact Gives.error _ _
  | case4 v hnull hquery hcollection =>
      rw [← Test.shown_ofColumn]
      have hvalues : level → AllBalanced (value.members.flatMap memberTexts) := by
        rwa [Value.comparedTexts_of_not_query hquery] at hvalue
      rw [Test.ofColumn, if_pos hcollection]
      · exact membershipFragment_meaning hd hmark hceiling false hname hvalues
      · exact hnull
      · exact hquery
  | case5 name v hnull hquery hcollection =>
      rw [Test.ofColumn, if_neg hcollection]
      · exact Gives.pure (equalTest_meaning hd hmark hcolumn
          fun hlevel => Value.expressionTexts_of_compared (hvalue hlevel))
      · exact hnull
      · exact hquery

theorem columnTests_meaning (hceiling : d.HoldsValues) (subqueries : Bool)
    (columns : List (String × Value)) (htexts : level → AllBalanced (columnsTexts columns)) :
    Gives (columnTests d subqueries columns) (List.Forall₂ (fun e =>
      Says d mark level ((Formula.test (.ofColumn e.1 e.2)).shown Test.isBlank)) columns) := by
  induction columns with
  | nil => exact Gives.ok .nil
  | cons e rest ih =>
      simp only [columnsTexts, List.cons_append, allBalanced_cons, allBalanced_append] at htexts
      rw [columnTests_cons]
      refine Gives.bind (columnTest_meaning hd hmark hceiling subqueries
        (fun hlevel => (htexts hlevel).1) fun hlevel => (htexts hlevel).2.1) fun test htest => ?_
      exact Gives.bind (ih fun hlevel => (htexts hlevel).2.2) fun tests htests =>
        Gives.pure (.cons htest htests)

theorem membershipNode_meaning (hceiling : d.HoldsValues) (subqueries negated : Bool)
    {column values : Value} (hcolumn : level → AllBalanced (column.asColumns.map Value.shown))
    (hvalues : level → AllBalanced values.comparedTexts) :
    Gives (nodeFragment d subqueries (.membership negated) [column, values])
      (Says d mark level
        ((Formula.test (.ofMembership negated column values)).shown Test.isBlank)) := by
  -- Without columns it is the test of an empty list.
  have hnothing : Gives (.ok (nothingMatches negated))
      (Says d mark level ((Formula.test (.among negated column [])).shown Test.isBlank)) := by
    rw [← chunkMembership_nil d negated column]
    exact chunkMembership_meaning hd hmark negated hcolumn fun _ => allBalanced_nil
  rcases values.query_or_not with ⟨q, rfl⟩ | hquery
  · have htest : Test.ofMembership negated column (.query q)
        = if column.asColumns.isEmpty then .among negated column [] else .rows negated column q :=
      rfl
    rw [nodeFragment, htest]
    split
    · exact Gives.error _ _
    · split
      · exact hnothing
      · split
        · refine Gives.andThen fun rows hrows => Gives.pure ?_
          exact queryMembership_meaning hd hmark negated hcolumn hvalues hrows
        · exact Gives.error _ _
  · rw [Value.comparedTexts_of_not_query hquery] at hvalues
    rw [nodeFragment, Test.ofMembership]
    · split
      · exact Gives.error _ _
      · split
        · exact hnothing
        · exact membershipFragment_meaning hd hmark hceiling negated hcolumn hvalues
    · exact hquery
    · exact hquery

end Tests

/-! ### The recursion -/

mutual

/-- A condition says what is left of its formula. -/
theorem Value.conditionFragment_meaning (hd : d.Level) (hceiling : d.HoldsValues)
    (hmark : level → Text.Balanced mark.toList) (subqueries : Bool) :
    (v : Value) → (level → AllBalanced v.conditionTexts) → (F : Formula Test) →
      v.formula? = some F →
        Gives (v.conditionFragment d subqueries) (Says d mark level (F.shown Test.isBlank))
  | .null, _, F, hF => by
      cases hF
      exact Gives.ok .empty
  | .map columns, h, F, hF => by
      cases hF
      exact Gives.bind (columnTests_meaning hd hmark hceiling subqueries columns h) fun _ htests =>
        Gives.pure (conjunction_meaning htests)
  | .hash columns, h, F, hF => by
      cases hF
      exact Gives.bind (columnTests_meaning hd hmark hceiling subqueries columns h) fun _ htests =>
        Gives.pure (conjunction_meaning htests)
  | .list items, h, F, hF => shorthandFragment_meaning hd hceiling hmark subqueries items h F hF
  | .tuple items, h, F, hF => shorthandFragment_meaning hd hceiling hmark subqueries items h F hF
  | .cond op operands, h, F, hF => by
      have hoperands : level → AllBalanced (nodeTexts op operands) := by
        intro hlevel
        exact ((allBalanced_append _ _).mp (h hlevel)).2
      exact nodeFragment_meaning hd hceiling hmark subqueries op operands hoperands F hF
  | .expr _, _, _, hF | .text _, _, _, hF | .direction _, _, _, hF | .isolation _, _, _, hF
  | .columnType _, _, _, hF | .bool _, _, _, hF | .int _, _, _, hF | .float _, _, _, hF
  | .bytes _, _, _, hF | .stream _, _, _, hF | .typed .., _, _, hF | .out .., _, _, hF
  | .query _, _, _, hF | .item _, _, _, hF | .ref _, _, _, hF | .join _, _, _, hF
  | .order _, _, _, hF | .branch _, _, _, hF => by cases hF

theorem shorthandFragment_meaning (hd : d.Level) (hceiling : d.HoldsValues)
    (hmark : level → Text.Balanced mark.toList) (subqueries : Bool) :
    (items : List Value) → (level → AllBalanced (shorthandTexts items)) → (F : Formula Test) →
      shorthandFormula? items = some F →
        Gives (shorthandFragment d subqueries items) (Says d mark level (F.shown Test.isBlank))
  | [], _, F, hF => by
      cases hF
      exact Gives.ok .empty
  | head :: operands, h, F, hF => by
      rw [shorthandFragment]
      refine Gives.andThen fun _ _ => Gives.andThen fun op hop => ?_
      rw [shorthandFormula?, hop] at hF
      refine nodeFragment_meaning hd hceiling hmark subqueries op operands (fun hlevel => ?_) F hF
      have htexts := h hlevel
      rw [shorthandTexts, hop, allBalanced_append] at htexts
      exact htexts.2

theorem nodeFragment_meaning (hd : d.Level) (hceiling : d.HoldsValues)
    (hmark : level → Text.Balanced mark.toList) (subqueries : Bool) :
    (op : Operator) → (operands : List Value) → (level → AllBalanced (nodeTexts op operands)) →
      (F : Formula Test) → nodeFormula? op operands = some F →
        Gives (nodeFragment d subqueries op operands) (Says d mark level (F.shown Test.isBlank))
  | .and, v :: rest, h, F, hF => by
      obtain ⟨G, Gs, hG, hGs, rfl⟩ := nodeFormula?_junction .all hF
      have htexts : level → AllBalanced v.conditionTexts ∧ AllBalanced (operandsTexts rest) :=
        fun hlevel => (allBalanced_append _ _).mp (h hlevel)
      rw [nodeFragment]
      refine Gives.bind (v.conditionFragment_meaning hd hceiling hmark subqueries
        (fun hlevel => (htexts hlevel).1) G hG) fun _ hfirst => ?_
      exact Gives.bind (operandFragments_meaning hd hceiling hmark subqueries rest
        (fun hlevel => (htexts hlevel).2) Gs hGs) fun _ hrest =>
          Gives.pure (Says.junction .all (.cons hfirst hrest))
  | .or, v :: rest, h, F, hF => by
      obtain ⟨G, Gs, hG, hGs, rfl⟩ := nodeFormula?_junction .any hF
      have htexts : level → AllBalanced v.conditionTexts ∧ AllBalanced (operandsTexts rest) :=
        fun hlevel => (allBalanced_append _ _).mp (h hlevel)
      rw [nodeFragment]
      refine Gives.bind (v.conditionFragment_meaning hd hceiling hmark subqueries
        (fun hlevel => (htexts hlevel).1) G hG) fun _ hfirst => ?_
      exact Gives.bind (operandFragments_meaning hd hceiling hmark subqueries rest
        (fun hlevel => (htexts hlevel).2) Gs hGs) fun _ hrest =>
          Gives.pure (Says.junction .any (.cons hfirst hrest))
  | .not, [operand], h, F, hF => by
      obtain ⟨G, hG, rfl⟩ := Option.map_eq_some_iff.mp hF
      rw [nodeFragment, Formula.shown_negation]
      exact Gives.bind (operand.conditionFragment_meaning hd hceiling hmark subqueries h G hG)
        fun _ hoperand => Gives.pure hoperand.negation
  | .membership negated, [column, values], h, F, hF => by
      cases hF
      have hcolumn : level → AllBalanced (column.asColumns.map Value.shown) := by
        intro hlevel
        exact ((allBalanced_append _ _).mp (h hlevel)).1
      have hvalues : level → AllBalanced values.comparedTexts := by
        intro hlevel
        exact ((allBalanced_append _ _).mp (h hlevel)).2
      exact membershipNode_meaning hd hmark hceiling subqueries negated hcolumn hvalues
  | .and, [], _, _, hF | .or, [], _, _, hF | .not, [], _, _, hF | .not, _ :: _ :: _, _, _, hF
  | .membership _, [], _, _, hF | .membership _, [_], _, _, hF
  | .membership _, _ :: _ :: _ :: _, _, _, hF => by cases hF
  | .between _, _, _, _, hF | .like .., _, _, _, hF | .existence _, _, _, _, hF
  | .compare _, _, _, _, hF => by simp [nodeFormula?] at hF

theorem operandFragments_meaning (hd : d.Level) (hceiling : d.HoldsValues)
    (hmark : level → Text.Balanced mark.toList) (subqueries : Bool) :
    (operands : List Value) → (level → AllBalanced (operandsTexts operands)) →
      (Fs : List (Formula Test)) → operandFormulas? operands = some Fs →
        Gives (operandFragments d subqueries operands)
          (List.Forall₂ (fun F => Says d mark level (F.shown Test.isBlank)) Fs)
  | [], _, Fs, hFs => by
      cases hFs
      exact Gives.ok .nil
  | v :: rest, h, Fs, hFs => by
      obtain ⟨G, Gs, hG, hGs, rfl⟩ := operandFormulas?_cons hFs
      have htexts : level → AllBalanced v.conditionTexts ∧ AllBalanced (operandsTexts rest) :=
        fun hlevel => (allBalanced_append _ _).mp (h hlevel)
      rw [operandFragments]
      refine Gives.bind (v.conditionFragment_meaning hd hceiling hmark subqueries
        (fun hlevel => (htexts hlevel).1) G hG) fun _ hfirst => ?_
      exact Gives.bind (operandFragments_meaning hd hceiling hmark subqueries rest
        (fun hlevel => (htexts hlevel).2) Gs hGs) fun _ hrest =>
          Gives.pure (.cons hfirst hrest)

end

end SqlLoom
