import SqlLoom.Proofs.Fragment.Bound
import SqlLoom.Proofs.Parentheses.Compile

/-!
# `SqlLoom.Proofs.Tests`: tests show their operator

The text of a test has the first letter of its operator outside of all parentheses: an equals sign,
an angle bracket, or the I of IN and IS (`Fragment.Tests`). So a test is never empty, and it is none
of the forms that combine conditions, which have other characters there.

A column whose own text is not balanced may hide the operator behind a parenthesis; what needs to be
balanced is a parameter (`level`), so that a test without it is still not empty.
-/

set_option autoImplicit false

namespace SqlLoom

open Fragment

/-- The first letters of the operators of tests. -/
def testMarks : List Char := ['=', '<', 'I']

/-- The fragment shows a mark of a test, outside of all parentheses where `level` holds. -/
def Fragment.Tests (level : Prop) (f : Fragment) : Prop :=
  ∃ before mark after, tokens f.pieces = before ++ some mark :: after ∧ mark ∈ testMarks ∧
    (level → Text.Balanced before.reduceOption)

namespace Fragment

variable {level : Prop} {f g name : Fragment}

theorem Tests.isEmpty (h : f.Tests level) : f.isEmpty = false := by
  obtain ⟨before, mark, after, htokens, -, -⟩ := h
  rw [Bool.eq_false_iff, Ne, isEmpty_iff_tokens, htokens]
  simp

/-- The text of an operator after a name. -/
theorem tests_of_operator (words : String) (before after : List Char) {mark : Char}
    (hname : level → name.Paired) (hwords : words.toList = before ++ mark :: after)
    (hbefore : Text.Flat before) (hmark : mark ∈ testMarks) {rest : List Piece}
    (hf : f.pieces = name.pieces ++ .text words :: rest) : f.Tests level := by
  refine ⟨tokens name.pieces ++ before.map some, mark, after.map some ++ tokens rest, ?_, hmark,
    fun hlevel => ?_⟩
  · rw [hf, tokens_append, tokens, hwords]
    simp
  · rw [List.reduceOption_append]
    have hchars : (before.map some).reduceOption = before := by
      rw [List.reduceOption, List.filterMap_map]
      exact List.filterMap_some
    rw [hchars]
    exact Text.Balanced.append (hname hlevel) hbefore.balanced

end Fragment

variable {d : Dialect} {level : Prop}

/-! ### Membership -/

theorem nothingMatches_tests : (nothingMatches false).Tests level :=
  tests_of_operator "0=1" ['0'] ['1'] (fun _ => paired_empty) rfl (Text.flat_singleton rfl)
    (by decide) rfl

/-- The words of a membership test after the name of a column or of several. -/
theorem membershipWords_tests (negated : Bool) {name f rows : Fragment}
    (hname : level → name.Paired)
    (hf : f.pieces = name.pieces ++ (membershipWords negated ++ rows).pieces) : f.Tests level := by
  cases negated with
  | false =>
      exact tests_of_operator " IN " [' '] ['N', ' '] hname rfl (Text.flat_singleton rfl)
        (by decide) hf
  | true =>
      exact tests_of_operator " NOT IN " " NOT ".toList ['N', ' '] hname rfl
        (Text.flat_of_all rfl) (by decide) hf

/-- There are as many results as members. -/
theorem Gives.length_mapM {α β : Type} (x : α → Except Error β) (as : List α) :
    Gives (as.mapM x) fun bs => bs.length = as.length := by
  have hall : Gives (as.mapM x) (List.Forall₂ (fun _ _ => True) as) :=
    Gives.mapM fun a _ b _ => trivial
  exact hall.imp fun bs hbs => hbs.length_eq.symm

/-- One column among values. Without values only the test that is not negated is there. -/
theorem singleMembership_tests (hd : level → d.Level) (negated : Bool) {column : Value}
    {values : List Value} (hvalues : negated = true → values ≠ [])
    (hcolumn : level → Text.Balanced column.shown.toList) :
    Gives (singleMembership d negated column values) (Tests level) := by
  have hname : level → (columnFragment d column).Paired :=
    fun hlevel => columnFragment_paired (hd hlevel) (hcolumn hlevel)
  rw [singleMembership]
  refine Gives.bind (Gives.length_mapM _ _) fun members hlength => ?_
  dsimp only
  split
  · cases negated with
    | false => exact Gives.pure nothingMatches_tests
    | true => exact absurd (List.eq_nil_of_length_eq_zero hlength.symm) (hvalues rfl)
  · refine Gives.pure ?_
    cases negated with
    | false =>
        exact tests_of_operator "=" [] [] hname rfl (Text.flat_of_all rfl) (by decide) rfl
    | true =>
        exact tests_of_operator "<>" [] ['>'] hname rfl (Text.flat_of_all rfl) (by decide) rfl
  · exact Gives.pure (membershipWords_tests negated hname rfl)

theorem rowMembership_tests (hd : level → d.Level) (negated : Bool) {columns rows : List Value}
    (hrows : negated = true → rows ≠ [])
    (hcolumns : level → AllBalanced (columns.map Value.shown)) :
    Gives (rowMembership d negated columns rows) (Tests level) := by
  rw [rowMembership]
  refine Gives.bind (Gives.length_mapM _ _) fun groups hlength => ?_
  split
  · rename_i hempty
    rw [List.isEmpty_iff.mp hempty] at hlength
    cases negated with
    | false => exact Gives.pure nothingMatches_tests
    | true => exact absurd (List.eq_nil_of_length_eq_zero hlength.symm) (hrows rfl)
  · exact Gives.pure (membershipWords_tests negated
      (fun hlevel => columnNames_paired (hd hlevel) (hcolumns hlevel)) rfl)

theorem chunkMembership_tests (hd : level → d.Level) (negated : Bool) {column : Value}
    {values : List Value} (hvalues : negated = true → values ≠ [])
    (hcolumn : level → AllBalanced (column.asColumns.map Value.shown)) :
    Gives (chunkMembership d negated column values) (Tests level) := by
  rw [chunkMembership]
  split
  · rename_i one hone
    rw [hone] at hcolumn
    exact singleMembership_tests hd negated hvalues
      fun hlevel => hcolumn hlevel _ List.mem_cons_self
  · exact rowMembership_tests hd negated hvalues hcolumn

theorem queryMembership_tests (hd : level → d.Level) (negated : Bool) {column : Value}
    (rows : Fragment) (hcolumn : level → AllBalanced (column.asColumns.map Value.shown)) :
    (queryMembership d negated column rows).Tests level := by
  have hone : column.asColumns = [column] → level → (columnFragment d column).Paired := by
    intro heq hlevel
    rw [heq] at hcolumn
    exact columnFragment_paired (hd hlevel) (hcolumn hlevel _ List.mem_cons_self)
  have hnames : ∀ columns, column.asColumns = columns → level →
      (Fragment.join ", " (columns.map (columnFragment d))).parens.Paired := by
    intro columns heq hlevel
    exact columnNames_paired (hd hlevel) (heq ▸ hcolumn hlevel)
  cases column with
  | list columns => exact membershipWords_tests negated (hnames columns rfl) rfl
  | tuple columns => exact membershipWords_tests negated (hnames columns rfl) rfl
  | _ => exact membershipWords_tests negated (hone rfl) rfl

/-! ### Lists beyond the ceiling -/

/-- The ceiling of the dialect, if it has one, leaves room for a value. -/
def Dialect.HoldsValues (d : Dialect) : Prop := ∀ ceiling, d.maxInList? = some ceiling → 0 < ceiling

/-- The ceiling of the dialect, if it has one, is not negative. -/
def Dialect.CountsValues (d : Dialect) : Prop :=
  ∀ ceiling, d.maxInList? = some ceiling → 0 ≤ ceiling

theorem Dialect.HoldsValues.counts (h : d.HoldsValues) : d.CountsValues :=
  fun ceiling hceiling => Int.le_of_lt (h ceiling hceiling)

theorem Dialect.standard_holdsValues (b : Backend) : (Dialect.standard b).HoldsValues := by
  intro ceiling h
  cases b <;> cases h
  decide

/-- The first chunks of a list are a prefix of it. -/
theorem flatten_take_chunks {α : Type} (size : Nat) (values : List α) (n : Nat) :
    ((List.range n).map fun i => (values.drop (i * size)).take size).flatten
      = values.take (n * size) := by
  induction n with
  | zero => simp
  | succ n ih =>
      rw [List.range_succ, List.map_append, List.flatten_append, ih, Nat.succ_mul, List.take_add]
      simp

/-- The chunks of a list are the list, and none of them is empty. -/
theorem chunks_spec {α : Type} {size : Nat} (hsize : 0 < size) (values : List α) :
    (chunks size values).flatten = values ∧ ∀ chunk ∈ chunks size values, chunk ≠ [] := by
  have hdiv := Nat.div_add_mod (values.length + size - 1) size
  have hmod := Nat.mod_lt (values.length + size - 1) hsize
  rw [Nat.mul_comm] at hdiv
  constructor
  · rw [chunks, flatten_take_chunks, List.take_of_length_le]
    omega
  · intro chunk hchunk
    obtain ⟨i, hi, rfl⟩ := List.mem_map.mp hchunk
    -- The chunk starts before the end of the list.
    have hlt := List.mem_range.mp hi
    have hmul := Nat.mul_le_mul_right size (Nat.succ_le_of_lt hlt)
    rw [Nat.succ_mul] at hmul
    apply List.ne_nil_of_length_pos
    rw [List.length_take, List.length_drop]
    omega

/-- The chunks of a list that is split are the list, and none of them is empty. -/
theorem splitMembers_spec (hd : d.CountsValues) {values : List Value} {parts : List (List Value)}
    (h : splitMembers d values = .ok (some parts)) :
    parts.flatten = values ∧ parts ≠ [] ∧ ∀ part ∈ parts, part ≠ [] := by
  rw [splitMembers] at h
  split at h
  · cases h
  · rename_i ceiling hceiling
    have hcounts := hd ceiling hceiling
    split at h
    · cases h
    · rename_i hlong
      split at h
      · cases h
      · rename_i hzero
        cases h
        obtain ⟨hflatten, hne⟩ := chunks_spec (show 0 < ceiling.toNat by omega) values
        refine ⟨hflatten, fun hnil => hlong ?_, hne⟩
        -- Without chunks there would be no values.
        rw [hnil] at hflatten
        rw [← hflatten, List.flatten_nil, List.length_nil]
        omega

/-- A membership test that is not negated says something, whatever the list. -/
theorem membershipFragment_shown (hceiling : d.CountsValues) (column : Value)
    (values : List Value) :
    Gives (membershipFragment d false column values) fun f => f.isEmpty = false := by
  have hchunk : ∀ part, Gives (chunkMembership d false column part) fun f => f.isEmpty = false :=
    fun part => (chunkMembership_tests False.elim false (fun h => by cases h)
      False.elim).imp fun _ hf => hf.isEmpty
  rw [membershipFragment]
  refine Gives.andThen fun split hsplit => ?_
  cases split with
  | none => exact hchunk values
  | some parts =>
      obtain ⟨-, hne, -⟩ := splitMembers_spec hceiling hsplit
      obtain ⟨part, rest, rfl⟩ := List.exists_cons_of_ne_nil hne
      dsimp only
      rw [List.mapM_cons]
      simp only [bind_assoc, pure_bind]
      refine Gives.bind (hchunk part) fun test htest => Gives.andThen fun tests _ => ?_
      refine Gives.pure ?_
      rw [isEmpty_grouped, List.all_cons, htest]
      rfl

/-! ### Comparisons of a hash -/

theorem nullTest_tests (hd : level → d.Level) {column : Value}
    (hcolumn : level → Text.Balanced column.shown.toList) :
    (columnFragment d column ++ ofText " IS NULL").Tests level :=
  tests_of_operator " IS NULL" [' '] "S NULL".toList
    (fun hlevel => columnFragment_paired (hd hlevel) (hcolumn hlevel)) rfl (Text.flat_singleton rfl)
    (by decide) rfl

theorem equalTest_tests (hd : level → d.Level) {column : Value} (value : Fragment)
    (hcolumn : level → Text.Balanced column.shown.toList) :
    (columnFragment d column ++ ofText "=" ++ value).Tests level :=
  tests_of_operator "=" [] [] (fun hlevel => columnFragment_paired (hd hlevel) (hcolumn hlevel)) rfl
    (Text.flat_of_all rfl) (by decide) (List.append_assoc _ _ _)

/-- The test of a column says something. -/
theorem columnTest_shown (hceiling : d.CountsValues) (subqueries : Bool)
    (column : String) (value : Value) :
    Gives (columnTest d subqueries column value) fun f => f.isEmpty = false := by
  fun_cases columnTest d subqueries column value with
  | case1 => exact Gives.pure (nullTest_tests False.elim False.elim).isEmpty
  | case2 q hsub =>
      refine Gives.andThen fun rows _ => Gives.pure ?_
      exact (queryMembership_tests False.elim false rows False.elim).isEmpty
  | case3 q hsub => exact Gives.error _ _
  | case4 v hnull hquery hcollection => exact membershipFragment_shown hceiling _ _
  | case5 name v hnull hquery hcollection =>
      exact Gives.pure (equalTest_tests False.elim _ False.elim).isEmpty

end SqlLoom
