import SqlLoom.Proofs.Meaning.Compile

/-!
# `SqlLoom.Proofs.Filtering`: which rows a condition leaves

An UPDATE or a DELETE with a condition is the same statement without one, with a WHERE clause behind
it that holds the text of the condition (`Filtered`). Where that text is empty the clause is
missing, and the statement reaches every row.

* `filtered_as_kept`: the text of a condition means what is left of its formula, and the clause is
  missing exactly where nothing is left. Where leaving out loses nothing, the text means what the
  condition means, and without a clause the condition holds of every row.
* `filtered_not_as_stated`: it does lose something, such as the negation of a test that holds of
  every row.
-/

set_option autoImplicit false

namespace SqlLoom

open Fragment

/-! ### The WHERE clause -/

namespace Compiler

/-- An UPDATE or a DELETE, up to its condition. -/
def Writes (c : Compiler) (write : Value → Except Error Compiled) : Prop :=
  (∃ table columns params, write = fun v => c.update table columns v params) ∨
    ∃ table params, write = fun v => c.delete table v params

/-- The statement behind which the text of `f` stands, over its parameters, as a WHERE clause. -/
def Filtered (c : Compiler) (bare : Compiled) (f : Fragment) (out : Compiled) : Prop :=
  let filter := f.bind ⟨c.mark, bare.params⟩
  out.sql = bare.sql ++ (if filter.1 = "" then "" else " WHERE " ++ filter.1) ∧
    out.params = filter.2.entries

/-- A clause without text changes nothing. -/
theorem Filtered.sql_eq_iff {c : Compiler} {bare out : Compiled} {f : Fragment}
    (h : c.Filtered bare f out) : out.sql = bare.sql ↔ (f.bind ⟨c.mark, bare.params⟩).1 = "" := by
  rw [h.1]
  split
  · rename_i hempty
    exact ⟨fun _ => hempty, fun _ => String.append_empty⟩
  · rename_i hshown
    constructor
    · intro hsame
      -- The word WHERE would have to be empty.
      have hchars := congrArg String.toList hsame
      simp at hchars
    · intro hempty
      exact absurd hempty hshown

/-- Behind a head the WHERE clause is bound over the parameters that the head leaves. -/
theorem filtered_finish (c : Compiler) (params : Entries Value) {head f : Fragment}
    (hhead : head.Balanced) (hf : f.Balanced) :
    c.Filtered (c.finish params (head ++ Fragment.empty)) f
      (c.finish params (head ++ f.headed " WHERE")) := by
  -- Without a condition the statement is its head.
  have hbare : (head ++ Fragment.empty).bind (.ofEntries c.mark params)
      = head.bind (.ofEntries c.mark params) := by
    rw [bind_append _ _ _ hhead]
    exact Prod.ext String.append_empty rfl
  have htable : (⟨c.mark, (head.bind (.ofEntries c.mark params)).2.entries⟩ : ParamTable)
      = (head.bind (.ofEntries c.mark params)).2 :=
    congrArg (ParamTable.mk · _) (mark_bind head (.ofEntries c.mark params)).symm
  have hempty := bind_eq_empty_iff hf (head.bind (.ofEntries c.mark params)).2
  rw [Filtered, finish, finish, hbare, bind_append _ _ _ hhead, headed]
  dsimp only
  rw [htable]
  split
  · rename_i hnone
    rw [if_pos (hempty.mpr hnone), hempty.mpr hnone]
    exact ⟨rfl, rfl⟩
  · rename_i hshown
    rw [if_neg fun h => hshown (hempty.mp h), bind_append _ _ _ (balanced_ofText _), bind_ofText]
    exact ⟨rfl, rfl⟩

/-- An UPDATE up to its condition. -/
def updateHead (c : Compiler) (table : String) (row : Entries Value) : Fragment :=
  .ofText ("UPDATE " ++ c.dialect.quoteTable table ++ " SET ") ++ .join ", "
    ((c.dialect.normalizeRow (c.table? table) row).map fun e =>
      assignment c.dialect (c.table? table) e.1 e.2)

theorem updateHead_balanced (c : Compiler) (table : String) (row : Entries Value) :
    (c.updateHead table row).Balanced := by
  refine (balanced_ofText _).append (Balanced.join _ ?_)
  intro f hf
  obtain ⟨e, -, rfl⟩ := List.mem_map.mp hf
  exact (assignment_fits c.dialect (c.table? table) e.1 e.2).balanced

theorem update_eq (c : Compiler) (table : String) (columns v : Value) (params : Entries Value)
    {row : Entries Value} (hrow : columns.toEntries = .ok row) :
    c.update table columns v params = (v.conditionFragment c.dialect true).map fun f =>
      c.finish params (c.updateHead table row ++ f.headed " WHERE") := by
  rw [update, updateFragment, hrow, whereClause]
  cases v.conditionFragment c.dialect true <;> rfl

theorem delete_eq (c : Compiler) (table : String) (v : Value) (params : Entries Value) :
    c.delete table v params = (v.conditionFragment c.dialect true).map fun f =>
      c.finish params (.ofText ("DELETE FROM " ++ c.dialect.quoteTable table)
        ++ f.headed " WHERE") := by
  rw [delete, deleteFragment, whereClause]
  cases v.conditionFragment c.dialect true <;> rfl

/-- What UPDATE and DELETE do with a condition. -/
theorem Writes.filtered {c : Compiler} {write : Value → Except Error Compiled} (h : c.Writes write)
    (v : Value) :
    Gives (write v) fun out => ∃ bare f, write .null = .ok bare ∧
      v.conditionFragment c.dialect true = .ok f ∧ c.Filtered bare f out := by
  -- Both are a head, which does not depend on the condition, and the clause.
  have hhead : ∀ (params : Entries Value) {head : Fragment}, head.Balanced →
      (∀ u : Value, write u = (u.conditionFragment c.dialect true).map fun f =>
        c.finish params (head ++ f.headed " WHERE")) →
      Gives (write v) fun out => ∃ bare f, write .null = .ok bare ∧
        v.conditionFragment c.dialect true = .ok f ∧ c.Filtered bare f out := by
    intro params head hbalanced hwrite
    rw [hwrite v]
    cases hf : v.conditionFragment c.dialect true with
    | error e => exact Gives.error _ _
    | ok f =>
        have hfits := (v.conditionFragment_stands c.dialect true f hf).toFits
        exact Gives.ok ⟨_, f, hwrite .null, rfl, filtered_finish c params hbalanced hfits.balanced⟩
  rcases h with ⟨table, columns, params, rfl⟩ | ⟨table, params, rfl⟩
  · cases hrow : columns.toEntries with
    | error e =>
        have hfails : c.update table columns v params = .error e := by
          rw [update, updateFragment, hrow]
          rfl
        intro out hout
        cases hfails.symm.trans hout
    | ok row =>
        exact hhead params (c.updateHead_balanced table row)
          fun u => c.update_eq table columns u params hrow
  · exact hhead params (balanced_ofText _) fun u => c.delete_eq table u params

end Compiler

/-! ### Conditions -/

/-- The text of a condition means what is left of its formula, and UPDATE and DELETE go without a
WHERE clause exactly where nothing is left. So they reach every row only if the condition holds of
every row, where leaving out loses nothing. The built-in dialects are as the theorem asks
(`Dialect.standard_level`, `Dialect.standard_holdsValues`). -/
theorem filtered_as_kept {c : Compiler} (hd : c.dialect.Level) (hceiling : c.dialect.HoldsValues)
    {v : Value} {F : Formula Test} (hv : v.formula? = some F) :
    (∀ f t, v.conditionFragment c.dialect true = .ok f → t.mark = c.mark →
      ((f.bind t).1 = "" ↔ F.shown Test.isBlank = none) ∧
      ∃ W, Spells c.dialect (AllBalanced v.conditionTexts ∧ Text.Balanced c.mark.toList)
          f.steps t W (f.bind t).1 ∧
        ∀ ρ, W.truth ρ = (F.kept Test.isBlank).holds (Test.holds ρ)) ∧
    (F.lossless Test.isBlank = true →
      ∀ ρ, (F.kept Test.isBlank).holds (Test.holds ρ) = F.holds (Test.holds ρ)) ∧
    ∀ write, c.Writes write → Gives (write v) fun out => ∃ bare f, write .null = .ok bare ∧
      v.conditionFragment c.dialect true = .ok f ∧ c.Filtered bare f out ∧
      (out.sql = bare.sql ↔ F.shown Test.isBlank = none) ∧
      (out.sql = bare.sql → F.lossless Test.isBlank = true →
        ∀ ρ, F.holds (Test.holds ρ) = true) := by
  have hblank := fun ρ => Test.holds_of_isBlank ρ
  have hmeans : Gives (v.conditionFragment c.dialect true) (Says c.dialect c.mark
      (AllBalanced v.conditionTexts ∧ Text.Balanced c.mark.toList) (F.shown Test.isBlank)) :=
    v.conditionFragment_meaning hd hceiling And.right true And.left F hv
  have hempty : ∀ f t, v.conditionFragment c.dialect true = .ok f →
      ((f.bind t).1 = "" ↔ F.shown Test.isBlank = none) := by
    intro f t hf
    rw [bind_eq_empty_iff (hmeans f hf).balanced, (hmeans f hf).isEmpty, Option.isNone_iff_eq_none]
  refine ⟨?_, ?_, ?_⟩
  · intro f t hf ht
    refine ⟨hempty f t hf, ?_⟩
    cases hshown : F.shown Test.isBlank with
    | none =>
        -- No text is read as the group of no conditions, which asks nothing of a row.
        refine ⟨.group .all [], ?_, ?_⟩
        · rw [(hempty f t hf).mpr hshown]
          exact .nothing
        · intro ρ
          rw [Formula.kept, hshown]
          rfl
    | some G =>
        rw [Formula.kept_of_shown hshown]
        exact (hmeans f hf).spells G hshown t ht
  · intro hlossless ρ
    exact Formula.holds_kept (hblank ρ) F hlossless
  · intro write hwrite out hout
    obtain ⟨bare, f, hbare, hf, hfiltered⟩ := hwrite.filtered v out hout
    have homitted : out.sql = bare.sql ↔ F.shown Test.isBlank = none :=
      hfiltered.sql_eq_iff.trans (hempty f _ hf)
    refine ⟨bare, f, hbare, hf, hfiltered, homitted, ?_⟩
    intro hsame hlossless ρ
    rw [← Formula.holds_kept (hblank ρ) F hlossless, Formula.kept, homitted.mp hsame]
    rfl

/-- A disjunction of a list and a negated test, beside a membership that holds of every row: the
latter is left out, and the rest means what the whole does. -/
theorem filtered_as_kept_list :
    let c : Compiler := { dialect := .standard .oracle }
    let v : Value := .cond .and [
      .cond .or [.cond (.membership false) [.text "a", .list [.int 1, .int 2]],
        .cond .not [.hash [("b", .null)]]],
      .cond (.membership true) [.text "a", .list []]]
    c.dialect.Level ∧ c.dialect.HoldsValues ∧
      ∃ (F : Formula Test) (f : Fragment) (bare out : Compiled) (W : Formula (String × Test)),
        v.formula? = some F ∧ F.lossless Test.isBlank = true ∧
        v.conditionFragment c.dialect true = .ok f ∧ c.delete "t" .null [] = .ok bare ∧
        c.delete "t" v [] = .ok out ∧ c.Filtered bare f out ∧ out.sql ≠ bare.sql ∧
        out.sql = "DELETE FROM \"t\" WHERE ((\"a\" IN (:qp0, :qp1)) OR (NOT (\"b\" IS NULL)))" ∧
        Text.read (f.bind (.ofEntries c.mark [])).1.toList = W.map (fun leaf => leaf.1.toList) ∧
        ∀ ρ, W.truth ρ = F.holds (Test.holds ρ) := by
  intro c v
  have htexts : AllBalanced v.conditionTexts ∧ Text.Balanced c.mark.toList := by decide
  have hd : c.dialect.Level := Dialect.standard_level .oracle
  have hceiling : c.dialect.HoldsValues := Dialect.standard_holdsValues .oracle
  obtain ⟨F, hF, hlossless, hshown⟩ : ∃ F, v.formula? = some F ∧ F.lossless Test.isBlank = true ∧
      F.shown Test.isBlank ≠ none := ⟨_, rfl, by decide, Option.some_ne_none _⟩
  obtain ⟨out, hout, hsql⟩ : ∃ out, c.delete "t" v [] = .ok out ∧ out.sql
      = "DELETE FROM \"t\" WHERE ((\"a\" IN (:qp0, :qp1)) OR (NOT (\"b\" IS NULL)))" :=
    ⟨_, rfl, by decide⟩
  obtain ⟨hmeaning, hwhole, hwrites⟩ := filtered_as_kept hd hceiling hF
  obtain ⟨bare, f, hbare, hf, hfiltered, homitted, -⟩ := hwrites _ (.inr ⟨"t", [], rfl⟩) out hout
  obtain ⟨-, W, hspells, htruth⟩ := hmeaning f (.ofEntries c.mark []) hf rfl
  refine ⟨hd, hceiling, F, f, bare, out, W, hF, hlossless, hf, hbare, hout, hfiltered, ?_, hsql,
    hspells.read htexts, ?_⟩
  · intro hsame
    exact hshown (homitted.mp hsame)
  · intro ρ
    exact (htruth ρ).trans (hwhole hlossless ρ)

/-- The negation of a membership that holds of every row holds of none and compiles to nothing, so
that a DELETE by it reaches every row. And in a disjunction such a membership, with which it holds
of every row, is left out beside another test. -/
theorem filtered_not_as_stated :
    let c : Compiler := { dialect := .standard .ansi }
    let always : Value := .cond (.membership true) [.text "a", .list []]
    (∃ F f out, (Value.cond .not [always]).formula? = some F ∧
      (∀ ρ, F.holds (Test.holds ρ) = false) ∧
      (Value.cond .not [always]).conditionFragment c.dialect true = .ok f ∧
      (∀ t, (f.bind t).1 = "" ∧ Text.read (f.bind t).1.toList = .group .all []) ∧
      c.delete "t" (.cond .not [always]) [] = .ok out ∧ out.sql = "DELETE FROM \"t\"") ∧
    ∃ F out, (Value.cond .or [always, .hash [("b", .null)]]).formula? = some F ∧
      (∀ ρ, F.holds (Test.holds ρ) = true) ∧
      c.delete "t" (.cond .or [always, .hash [("b", .null)]]) [] = .ok out ∧
      out.sql = "DELETE FROM \"t\" WHERE (\"b\" IS NULL)" := by
  intro c always
  have hread : Text.read [] = .group .all [] := Text.read_of_group (s := []) rfl
  refine ⟨⟨_, _, _, rfl, fun ρ => rfl, rfl, fun t => ⟨rfl, hread⟩, rfl, by decide⟩, ?_⟩
  exact ⟨_, _, rfl, fun ρ => rfl, rfl, by decide⟩

end SqlLoom
