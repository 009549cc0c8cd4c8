import Mathlib.Data.Option.Basic
import SqlLoom.Condition
import SqlLoom.Dialect.Identifier
import SqlLoom.Fragment.Select
import SqlLoom.ParamTable
import SqlLoom.Proofs.Parentheses

/-!
# `SqlLoom.Proofs.Parentheses.Names`: names that stay balanced

Quoting leaves a name with an opening parenthesis as it is, and a balanced name without one has no
parenthesis at all. So neither quotes nor aliases that are split off unbalance a name, where
the quote of the dialect has no parenthesis and its escape clause is balanced (`Dialect.Level`):

* `Dialect.standard_level`: every built-in dialect is one of these.
* `Dialect.Level.quoteTable`, `Dialect.Level.quoteColumn`, `Dialect.Level.named`: quoted names.
* `Dialect.Level.namedItem`, `Dialect.Level.namedSource`: items and sources by name, with the alias
  in the text or apart from it.
* `ParamTable.nameOf_balanced`: generated names.
* `Operator.ofWords_balanced`: the operator that a word spells.
-/

set_option autoImplicit false

namespace SqlLoom

open Text

namespace Text

/-! ### Parts of a text -/

theorem splitAt_subset (sep : Char) (s : List Char) : ∀ part ∈ splitAt sep s, part ⊆ s := by
  induction s with
  | nil => simp [splitAt]
  | cons c s ih =>
      have hrest : ∀ part ∈ splitAt sep s, part ⊆ c :: s :=
        fun part hpart => List.Subset.trans (ih part hpart) (List.subset_cons_self c s)
      rw [splitAt]
      split
      · exact List.forall_mem_cons.mpr ⟨List.nil_subset _, hrest⟩
      · split
        · exact List.forall_mem_singleton.mpr (List.cons_subset_cons c (List.nil_subset s))
        · rename_i part parts heq
          rw [heq] at ih hrest
          have hpart := ih part List.mem_cons_self
          exact List.forall_mem_cons.mpr ⟨List.cons_subset_cons c hpart,
            (List.forall_mem_cons.mp hrest).2⟩

/-- There is a part in front of the first separator. -/
theorem splitAt_ne_nil (sep : Char) (s : List Char) : splitAt sep s ≠ [] := by
  cases s with
  | nil => exact List.cons_ne_nil _ _
  | cons c s =>
      rw [splitAt]
      split
      · exact List.cons_ne_nil _ _
      · split <;> exact List.cons_ne_nil _ _

theorem splitAtLast_subset {sep : Char} {s before after : List Char}
    (h : splitAtLast sep s = some (before, after)) : before ⊆ s ∧ after ⊆ s := by
  induction s generalizing before after with
  | nil => cases h
  | cons c s ih =>
      rw [splitAtLast] at h
      split at h
      · rename_i b a heq
        cases h
        have hparts := ih heq
        exact ⟨List.cons_subset_cons c hparts.1,
          List.Subset.trans hparts.2 (List.subset_cons_self c s)⟩
      · split at h
        · cases h
          exact ⟨List.nil_subset _, List.subset_cons_self c s⟩
        · cases h

/-- Without a separator there is nothing to split. -/
theorem splitAtLast_eq_none {sep : Char} {s : List Char} (h : sep ∉ s) :
    splitAtLast sep s = none := by
  induction s with
  | nil => rfl
  | cons c s ih =>
      obtain ⟨hc, hs⟩ := not_or.mp (mt List.mem_cons.mpr h)
      rw [splitAtLast, ih hs]
      exact if_neg (Ne.symm hc)

theorem afterBlanks_subset {s rest : List Char} (h : afterBlanks s = some rest) : rest ⊆ s := by
  cases s with
  | nil => cases h
  | cons c t =>
      rw [afterBlanks] at h
      split at h
      · cases h
        exact List.Subset.trans (List.dropWhile_sublist _).subset (List.subset_cons_self c t)
      · cases h

theorem afterWord_subset {word s rest : List Char} (h : afterWord word s = some rest) :
    rest ⊆ s := by
  induction word generalizing s with
  | nil =>
      cases h
      exact List.Subset.refl _
  | cons w word ih =>
      cases s with
      | nil => cases h
      | cons c s =>
          rw [afterWord] at h
          split at h
          · exact List.Subset.trans (ih h) (List.subset_cons_self c s)
          · cases h

theorem aliasToEnd_subset {s name : List Char} (h : aliasToEnd s = some name) : name ⊆ s := by
  rw [aliasToEnd] at h
  split at h
  · cases h
    exact (List.takeWhile_sublist _).subset
  · cases h

theorem aliasTail_subset {s name : List Char} (h : aliasTail s = some name) : name ⊆ s := by
  obtain ⟨rest, hrest, h⟩ := Option.bind_eq_some_iff.mp h
  refine List.Subset.trans ?_ (afterBlanks_subset hrest)
  -- With AS in front of it or without.
  rcases (Option.orElse_eq_some _ _ _).mp h with hnamed | ⟨-, hbare⟩
  · obtain ⟨w, hw, hnamed⟩ := Option.bind_eq_some_iff.mp hnamed
    obtain ⟨u, hu, hnamed⟩ := Option.bind_eq_some_iff.mp hnamed
    have hword : u ⊆ rest := List.Subset.trans (afterBlanks_subset hu) (afterWord_subset hw)
    exact List.Subset.trans (aliasToEnd_subset hnamed) hword
  · exact aliasToEnd_subset hbare

theorem sourceAlias_subset {s name : List Char} (h : sourceAlias s = some name) : name ⊆ s := by
  have hchosen : ∀ t : List Char,
      (if !t.isEmpty && !t.contains ' ' then some t else none) = some name → t = name := by
    intro t ht
    split at ht
    · exact Option.some.inj ht
    · cases ht
  obtain ⟨rest, hrest, h⟩ := Option.bind_eq_some_iff.mp h
  rw [← hchosen _ h]
  split
  · exact List.Subset.trans (List.drop_subset _ _) (List.drop_subset _ _)
  · exact afterBlanks_subset hrest

theorem sourceAliasTail_subset {s name : List Char} (h : sourceAliasTail s = some name) :
    name ⊆ s := by
  rcases (Option.orElse_eq_some _ _ _).mp h with hnamed | ⟨-, hbare⟩
  · obtain ⟨w, hw, hnamed⟩ := Option.bind_eq_some_iff.mp hnamed
    obtain ⟨u, hu, hnamed⟩ := Option.bind_eq_some_iff.mp hnamed
    have hword : u ⊆ s := List.Subset.trans (afterWord_subset hu) (afterBlanks_subset hw)
    exact List.Subset.trans (sourceAlias_subset hnamed) hword
  · exact sourceAlias_subset hbare

/-- What is cut off at the end of a line and what stands in front of it are parts of the line. -/
theorem splitLine_subset {tail : List Char → Option (List Char)} {s before after : List Char}
    (htail : ∀ t name, tail t = some name → name ⊆ t)
    (h : splitLine tail s = some (before, after)) : before ⊆ s ∧ after ⊆ s := by
  induction s generalizing before with
  | nil =>
      obtain ⟨name, hname, heq⟩ := Option.map_eq_some_iff.mp h
      cases heq
      exact ⟨List.Subset.refl [], htail [] after hname⟩
  | cons c s ih =>
      rw [splitLine] at h
      split at h
      · rename_i name hname
        cases h
        exact ⟨List.nil_subset _, htail _ _ hname⟩
      · split at h
        · cases h
        · obtain ⟨⟨b, a⟩, hparts, heq⟩ := Option.map_eq_some_iff.mp h
          cases heq
          have hsub := ih hparts
          exact ⟨List.cons_subset_cons c hsub.1,
            List.Subset.trans hsub.2 (List.subset_cons_self c s)⟩

end Text

/-- What the dialect itself puts around names and patterns keeps the level of parentheses. -/
structure Dialect.Level (d : Dialect) : Prop where
  quote : Flat d.quoteChars
  escape : Balanced d.escapeClause.toList

theorem Dialect.standard_level (b : Backend) : (Dialect.standard b).Level := by
  cases b <;> exact ⟨flat_of_all (by decide), by decide⟩

namespace Dialect

variable {d : Dialect}

/-! ### Quoted names -/

theorem Level.enclose (h : d.Level) {name : List Char} (hname : Flat name) :
    Balanced (d.enclose name) :=
  ((h.quote.append hname).append h.quote).balanced

theorem Level.quoteSimpleTableChars (h : d.Level) {name : List Char} (hname : Flat name) :
    Balanced (d.quoteSimpleTableChars name) := by
  rw [Dialect.quoteSimpleTableChars]
  split
  · exact hname.balanced
  · exact h.enclose hname

theorem Level.quoteSimpleColumnChars (h : d.Level) {name : List Char} (hname : Flat name) :
    Balanced (d.quoteSimpleColumnChars name) := by
  rw [Dialect.quoteSimpleColumnChars]
  split
  · exact hname.balanced
  · exact h.enclose hname

/-- A name with an opening parenthesis is left as it is; one without has no parenthesis. -/
theorem Level.quoteTableChars (h : d.Level) {name : List Char} (hname : Balanced name) :
    Balanced (d.quoteTableChars name) := by
  rw [Dialect.quoteTableChars]
  split
  · exact hname
  · rename_i hplain
    have hflat : Flat name := hname.flat fun hopen => hplain (by simp [hopen])
    split
    · exact h.quoteSimpleTableChars hflat
    · refine Balanced.intercalate (flat_singleton rfl).balanced fun part hpart => ?_
      obtain ⟨raw, hraw, rfl⟩ := List.mem_map.mp hpart
      exact h.quoteSimpleTableChars (hflat.of_subset (splitAt_subset '.' name raw hraw))

theorem Level.quoteColumnChars (h : d.Level) {name : List Char} (hname : Balanced name) :
    Balanced (d.quoteColumnChars name) := by
  rw [Dialect.quoteColumnChars]
  split
  · exact hname
  · rename_i hplain
    have hflat : Flat name := hname.flat fun hopen => hplain (by simp [hopen])
    split
    · rename_i table column hsplit
      obtain ⟨htable, hcolumn⟩ := splitAtLast_subset hsplit
      split
      · exact (hflat.of_subset hcolumn).balanced
      · have hdot : Balanced ['.'] := (flat_singleton rfl).balanced
        exact (h.quoteTableChars (hflat.of_subset htable).balanced).append
          (hdot.append (h.quoteSimpleColumnChars (hflat.of_subset hcolumn)))
    · split
      · exact hflat.balanced
      · exact h.quoteSimpleColumnChars hflat

theorem Level.quoteTable (h : d.Level) {name : String} (hname : Balanced name.toList) :
    Balanced (d.quoteTable name).toList := by
  rw [Dialect.quoteTable, String.toList_ofList]
  exact h.quoteTableChars hname

theorem Level.quoteColumn (h : d.Level) {name : String} (hname : Balanced name.toList) :
    Balanced (d.quoteColumn name).toList := by
  rw [Dialect.quoteColumn, String.toList_ofList]
  exact h.quoteColumnChars hname

/-- A name given by a value: the text of a value that is text, and what any other value shows. -/
theorem Level.named (h : d.Level) {quoteName : String → String}
    (hquote : ∀ s : String, Balanced s.toList → Balanced (quoteName s).toList) {v : Value}
    {name : String} (hv : Balanced (v.text?.getD v.shown).toList)
    (hname : d.named quoteName v = .ok name) : Balanced name.toList := by
  rw [Dialect.named] at hname
  split at hname
  · rename_i s hs
    cases hname
    rw [hs] at hv
    exact hquote s hv
  · rename_i hs _
    rw [hs] at hv
    split at hname
    · cases hname
    · cases hname
      rw [String.toList_append, String.toList_append]
      exact (h.quote.balanced.append hv).append h.quote.balanced
  · cases hname

/-! ### Items and sources by name -/

/-- A balanced name is left as it is where it may be an expression, and quoted otherwise. -/
theorem balanced_quoteUnlessExpression {quote : String → String}
    (hquote : ∀ s : String, Balanced s.toList → Balanced (quote s).toList) {name : String}
    (hname : Balanced name.toList) : Balanced (quoteUnlessExpression quote name).toList := by
  rw [quoteUnlessExpression]
  split
  · exact hname
  · exact hquote name hname

/-- A name and an alias that are split off a text without parentheses have none. -/
theorem flat_of_splitLine {tail : List Char → Option (List Char)}
    (htail : ∀ t name, tail t = some name → name ⊆ t) {s name alias_ : String}
    (hs : Flat s.toList)
    (h : (splitLine tail s.toList).map (fun p => (String.ofList p.1, String.ofList p.2))
      = some (name, alias_)) :
    Flat name.toList ∧ Flat alias_.toList := by
  obtain ⟨⟨before, after⟩, hsplit, heq⟩ := Option.map_eq_some_iff.mp h
  cases heq
  have hsub := splitLine_subset htail hsplit
  simp only [String.toList_ofList]
  exact ⟨hs.of_subset hsub.1, hs.of_subset hsub.2⟩

theorem Level.namedItem (h : d.Level) {name : String} {alias? : Option String}
    (hname : Balanced name.toList) (halias : ∀ s ∈ alias?, Balanced s.toList) :
    Balanced (namedItem d name alias?).toList := by
  have has : Balanced " AS ".toList := by decide
  cases alias? with
  | some alias_ =>
      rw [SqlLoom.namedItem, String.toList_append, String.toList_append]
      exact ((balanced_quoteUnlessExpression (fun s => h.quoteColumn) hname).append has).append
        (h.quoteColumn (halias alias_ rfl))
  | none =>
      rw [SqlLoom.namedItem]
      split
      · exact hname
      · rename_i hopen
        have hflat : Flat name.toList := hname.flat fun hmem => hopen (by simpa using hmem)
        split
        · rename_i column alias_ hsplit
          have hparts := flat_of_splitLine (fun _ _ => aliasTail_subset) hflat hsplit
          rw [String.toList_append, String.toList_append]
          exact ((h.quoteColumn hparts.1.balanced).append has).append
            (h.quoteColumn hparts.2.balanced)
        · exact h.quoteColumn hname

theorem Level.namedSource (h : d.Level) {name : String} {alias? : Option String}
    (hname : Balanced name.toList) (halias : ∀ s ∈ alias?, Balanced s.toList) :
    Balanced (namedSource d name alias?).toList := by
  have hspace : Balanced " ".toList := by decide
  cases alias? with
  | some alias_ =>
      rw [SqlLoom.namedSource, String.toList_append, String.toList_append]
      exact ((balanced_quoteUnlessExpression (fun s => h.quoteTable) hname).append hspace).append
        (h.quoteTable (halias alias_ rfl))
  | none =>
      rw [SqlLoom.namedSource]
      split
      · exact hname
      · rename_i hopen
        have hflat : Flat name.toList := hname.flat fun hmem => hopen (by simpa using hmem)
        split
        · rename_i table alias_ hsplit
          have hparts := flat_of_splitLine (fun _ _ => sourceAliasTail_subset) hflat hsplit
          rw [String.toList_append, String.toList_append]
          exact ((h.quoteTable hparts.1.balanced).append hspace).append
            (h.quoteTable hparts.2.balanced)
        · exact h.quoteTable hname

end Dialect

/-! ### Numbers and operators -/

theorem flat_toDigits (n : Nat) : Flat (Nat.toDigits 10 n) := by
  intro c hc
  have hdigit : c.isDigit = true := Nat.isDigit_of_mem_toDigits (by decide) (by decide) hc
  rw [isParen, Bool.or_eq_false_iff, beq_eq_false_iff_ne, beq_eq_false_iff_ne]
  constructor <;> intro heq <;> rw [heq] at hdigit <;> exact absurd hdigit (by decide)

theorem flat_toString_nat (n : Nat) : Flat (toString n).toList := by
  rw [Nat.toString_eq_repr, Nat.toList_repr]
  exact flat_toDigits n

theorem flat_toString_int (n : Int) : Flat (toString n).toList := by
  cases n with
  | ofNat n => exact flat_toString_nat n
  | negSucc n =>
      show Flat ("-" ++ toString (n + 1)).toList
      rw [String.toList_append]
      exact (flat_singleton rfl).append (flat_toString_nat (n + 1))

/-- A generated name is the mark and a number. -/
theorem ParamTable.nameOf_balanced {mark : String} (h : Balanced mark.toList) (n : Nat) :
    Balanced (nameOf mark n).toList := by
  rw [nameOf, String.toList_append]
  exact h.append (flat_toString_nat n).balanced

/-- The text of an operator that has no words of its own. -/
def Operator.symbol? : Operator → Option String
  | .compare symbol => some symbol
  | _ => none

/-- Words that name no operator with a meaning of its own are a plain comparison. -/
theorem Operator.symbol?_ofKeyword {words symbol : String}
    (h : (ofKeyword words).symbol? = some symbol) : symbol = words := by
  rw [ofKeyword] at h
  cases hfind : special.find? (·.keyword == words) with
  | none =>
      rw [hfind] at h
      exact (Option.some.inj h).symm
  | some op =>
      -- No plain comparison is among the special operators.
      have hspecial : special.all (fun op => op.symbol?.isNone) = true := by decide
      have hop := List.all_eq_true.mp hspecial op (List.mem_of_find?_eq_some hfind)
      rw [hfind, Option.getD_some] at h
      rw [h] at hop
      cases hop

theorem Operator.ofWords_balanced {head symbol : String} (h : Balanced head.toList)
    (hsymbol : (ofWords head).symbol? = some symbol) : Balanced symbol.toList := by
  rw [symbol?_ofKeyword hsymbol, String.toList_intercalate, List.map_map]
  have hwords : (words (upper head.toList)).map (String.toList ∘ String.ofList)
      = words (upper head.toList) := by
    simp [Function.comp_def]
  rw [hwords]
  exact (balanced_words_iff _).mpr ((balanced_upper_iff _).mpr h)

end SqlLoom
