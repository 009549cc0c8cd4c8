import SqlLoom.Proofs.Identifier
import SqlLoom.Proofs.Outcome
import SqlLoom.Statement

/-!
# `SqlLoom.Proofs.Exposed`: the columns of an INSERT of the rows of a query

An INSERT of the rows of a query lists a column for each item of the select list. The name is taken
from the item (`Compiler.exposedName`), and not from what SELECT writes for it, where the row has a
name of its own (`Exposes`). What SELECT writes is a column and an alias (`writtenParts`). An item
without an alias has the name of its column if that is a plain one. What name SQL gives to any other
text is not for the compiler to say, so it is a parameter, `reading`.

* `named_iff`: the name that is taken is that of the item unless the item is `Misnamed`: it stands
  for all columns, or is a column with a qualifier, or a text that SQL reads in another way.
* `Compiler.insert_names`: an INSERT of the rows of a query has an entry for each item, and this is
  which of them are right; or there is no INSERT, and why.
* `Compiler.names_not_always_exposed`: the columns of a table, and a call of a function.
-/

set_option autoImplicit false

namespace SqlLoom

variable {d : Dialect} {reading : String → Option String}

/-! ### What SELECT writes -/

/-- The column and the alias that SELECT writes for a text, given or not given an alias. -/
def writtenParts (s : String) : Option String → String × Option String
  | some a => (s, some a)
  | none =>
    if s.toList.contains '(' then (s, none)
    else match splitAlias s with
      | some (column, a) => (column, some a)
      | none => (s, none)

/-- The text of an alias behind its column. -/
def aliasText (d : Dialect) : Option String → String
  | some a => " AS " ++ d.quoteColumn a
  | none => ""

theorem quoteUnlessExpression_quoteColumn (d : Dialect) (name : String) :
    quoteUnlessExpression d.quoteColumn name = d.quoteColumn name := by
  rw [quoteUnlessExpression]
  split
  · rename_i hparen
    have hmarked : Dialect.IsMarked ['[', '['] name.toList :=
      .inl (List.contains_iff_mem.mp hparen)
    rw [Dialect.quoteColumn, Dialect.quoteColumnChars_of_marked hmarked, String.ofList_toList]
  · rfl

theorem namedItem_eq (d : Dialect) (s : String) (alias? : Option String) :
    namedItem d s alias?
      = d.quoteColumn (writtenParts s alias?).1 ++ aliasText d (writtenParts s alias?).2 := by
  cases alias? with
  | some a =>
      show quoteUnlessExpression d.quoteColumn s ++ " AS " ++ d.quoteColumn a = _
      rw [quoteUnlessExpression_quoteColumn, String.append_assoc]
      rfl
  | none =>
      by_cases hparen : s.toList.contains '(' = true
      · have hsame : s = d.quoteColumn s := by
          rw [← quoteUnlessExpression_quoteColumn, quoteUnlessExpression, if_pos hparen]
        simp only [namedItem, writtenParts, if_pos hparen, aliasText, String.append_empty]
        exact hsame
      · cases hsplit : splitAlias s with
        | none =>
            simp only [namedItem, writtenParts, if_neg hparen, hsplit, aliasText,
              String.append_empty]
        | some p =>
            simp only [namedItem, writtenParts, if_neg hparen, hsplit, aliasText,
              String.append_assoc]

/-- The value is put into the text as SQL of its own. -/
def Value.isEmbedded : Value → Bool
  | .expr _ | .query _ => true
  | _ => false

theorem Value.shown_text (s : String) : (Value.text s).shown = s := rfl

/-- An item given by name is written as its column and its alias. -/
theorem SelectItem.fragment_of_name {item : SelectItem} (h : item.expr.isEmbedded = false)
    (d : Dialect) :
    item.fragment d = .ok (.ofText (d.quoteColumn (writtenParts item.expr.shown item.alias?).1
      ++ aliasText d (writtenParts item.expr.shown item.alias?).2)) := by
  obtain ⟨v, alias?⟩ := item
  rw [← namedItem_eq]
  cases v with
  | expr | query => cases h
  | _ => rw [SelectItem.fragment] <;> (intros; contradiction)

/-! ### Names of items -/

/-- The column stands for all columns, of a source or of all of them. -/
def IsStar (column : String) : Prop :=
  '(' ∉ column.toList ∧ (column.toList = ['*'] ∨ ['.', '*'] <:+ column.toList)

/-- The value is text without anything but a column in it, which may have a qualifier. -/
def IsPlainColumn (d : Dialect) (v : Value) : Prop := ∃ s, v = .text s ∧ d.Plain s.toList

/-- The rows of the SELECT have a column of this name for the item. `reading` is the name that SQL
gives to the text of a column that has no alias, if it gives one. -/
inductive Exposes (d : Dialect) (reading : String → Option String) :
    SelectItem → String → Prop where
  /-- An expression or a sub-query has the name of its alias. -/
  | embedded {v : Value} {a : String} (hv : v.isEmbedded = true) : Exposes d reading ⟨v, some a⟩ a
  /-- So has a column, and its alias may be at the end of the text. -/
  | aliased {v : Value} {alias? : Option String} {column a : String} (hv : v.isEmbedded = false)
      (hparts : writtenParts v.shown alias? = (column, some a)) (hstar : ¬ IsStar column) :
      Exposes d reading ⟨v, alias?⟩ a
  /-- A plain column has the name behind its qualifier. -/
  | column {s name : String} (hparts : writtenParts s none = (s, none)) (hstar : ¬ IsStar s)
      (hplain : d.Plain s.toList) (hname : '.' ∉ name.toList)
      (hs : s = name ∨ ∃ table, s = table ++ "." ++ name) : Exposes d reading ⟨.text s, none⟩ name
  /-- Any other text has the name that SQL reads in it. -/
  | read {v : Value} {name : String} (hv : v.isEmbedded = false)
      (hparts : writtenParts v.shown none = (v.shown, none)) (hstar : ¬ IsStar v.shown)
      (hplain : ¬ IsPlainColumn d v) (hread : reading (d.quoteColumn v.shown) = some name) :
      Exposes d reading ⟨v, none⟩ name

/-- The entry is the quoted name of the item. -/
def Named (d : Dialect) (reading : String → Option String) (item : SelectItem) (entry : String) :
    Prop :=
  ∃ name, Exposes d reading item name ∧ entry = d.quoteColumn name

/-- The name that is taken for the item is not the one that the SELECT exposes. -/
inductive Misnamed (d : Dialect) (reading : String → Option String) : SelectItem → Prop where
  /-- All columns have no name, even if there is an alias behind them. -/
  | star {v : Value} {alias? : Option String} (hv : v.isEmbedded = false)
      (hstar : IsStar (writtenParts v.shown alias?).1) : Misnamed d reading ⟨v, alias?⟩
  /-- A plain column is taken with its qualifier. -/
  | qualified {s : String} (hparts : writtenParts s none = (s, none)) (hplain : d.Plain s.toList)
      (hdot : '.' ∈ s.toList) : Misnamed d reading ⟨.text s, none⟩
  /-- SQL reads no name in the text, or another one. -/
  | misread {v : Value} (hv : v.isEmbedded = false)
      (hparts : writtenParts v.shown none = (v.shown, none)) (hplain : ¬ IsPlainColumn d v)
      (hread : ∀ name taken, reading (d.quoteColumn v.shown) = some name →
        Compiler.exposedName ⟨v, none⟩ = .ok taken → d.quoteColumn taken ≠ d.quoteColumn name) :
      Misnamed d reading ⟨v, none⟩

/-- A qualifier of a plain column is quoted with it. -/
theorem quoteColumn_qualified_ne {table name : String} (hname : '.' ∉ name.toList)
    (hplain : d.Plain (table ++ "." ++ name).toList) :
    d.quoteColumn (table ++ "." ++ name) ≠ d.quoteColumn name := by
  have hlist : (table ++ "." ++ name).toList = table.toList ++ '.' :: name.toList := by simp
  rw [hlist] at hplain
  have hlast : d.Plain name.toList :=
    hplain.mono ((List.suffix_cons _ _).trans (List.suffix_append _ _)).isInfix
  intro heq
  have hchars : d.quoteColumnChars (table.toList ++ '.' :: name.toList)
      = d.quoteColumnChars name.toList := by
    rw [← hlist]
    simpa [Dialect.quoteColumn] using congrArg String.toList heq
  rw [Dialect.quoteColumnChars_qualified (hplain.not_marked .bracket) hname hlast.brace,
    Dialect.quoteColumnChars_single (hlast.not_marked .bracket) hname hlast.brace] at hchars
  -- The names behind the dot are the same, and the qualifier is more.
  have hlength := congrArg List.length hchars
  rw [List.length_append, List.length_cons] at hlength
  omega

/-- What is written for a text is the text, where no alias is written. -/
theorem writtenParts_eq_of_none {s column : String} {alias? : Option String}
    (h : writtenParts s alias? = (column, none)) :
    alias? = none ∧ column = s ∧ ('(' ∈ s.toList ∨ splitAlias s = none) := by
  cases alias? with
  | some a => cases h
  | none =>
      rw [writtenParts] at h
      split at h
      · rename_i hparen
        cases h
        exact ⟨rfl, rfl, .inl (List.contains_iff_mem.mp hparen)⟩
      · split at h
        · cases h
        · rename_i hnone
          cases h
          exact ⟨rfl, rfl, .inr hnone⟩

/-- Without white space there is no alias at the end of a text. -/
theorem splitAlias_eq_none {s : String} (h : s.toList.any Text.isBlank = false) :
    splitAlias s = none := by
  have hline (cs : List Char) (hcs : ∀ c ∈ cs, Text.isBlank c = false) :
      Text.splitLine Text.aliasTail cs = none := by
    induction cs with
    | nil => rfl
    | cons c rest ih =>
        obtain ⟨hc, hrest⟩ := List.forall_mem_cons.mp hcs
        have htail : Text.aliasTail (c :: rest) = none := by
          rw [Text.aliasTail, Text.afterBlanks, hc]
          rfl
        rw [Text.splitLine, htail, ih hrest]
        simp
  rw [splitAlias, hline s.toList (by simpa using h)]
  rfl

/-- A named constant is written as one word. -/
theorem writtenParts_constant {v : Value} {s : String} (hv : v.text? = some s)
    (hother : ∀ t, v ≠ .text t) : writtenParts v.shown none = (v.shown, none) := by
  -- It is written as its class and its name, with a dot between them.
  have hnone : splitAlias v.shown = none := by
    apply splitAlias_eq_none
    cases v with
    | text t => exact absurd rfl (hother t)
    | direction dir => cases dir <;> decide
    | isolation l =>
        show ("IsolationLevel." ++ l.identifier).toList.any Text.isBlank = false
        rw [String.toList_append, Isolation.identifier, String.toList_ofList]
        cases l <;> decide
    | columnType t =>
        show ("ColumnType." ++ capitals t.name).toList.any Text.isBlank = false
        rw [String.toList_append, capitals, String.toList_ofList]
        cases t <;> decide
    | _ => cases hv
  rw [writtenParts, hnone]
  split <;> rfl

/-- The alias that is written is the name that is taken. -/
theorem exposedName_of_aliased {v : Value} {alias? : Option String} {column a taken : String}
    (hparts : writtenParts v.shown alias? = (column, some a))
    (htaken : Compiler.exposedName ⟨v, alias?⟩ = .ok taken) : taken = a := by
  cases alias? with
  | some b =>
      cases hparts
      cases htaken
      rfl
  | none =>
      rw [Compiler.exposedName] at htaken
      cases htext : v.text? with
      | none =>
          simp only [htext] at htaken
          cases htaken
      | some s =>
          by_cases hv : ∃ t, v = .text t
          · obtain ⟨t, rfl⟩ := hv
            cases htext
            have hsplit : splitAlias s = some (column, a) := by
              rw [writtenParts] at hparts
              split at hparts
              · cases hparts
              · split at hparts
                · rename_i hsplit
                  cases hparts
                  exact hsplit
                · cases hparts
            cases htaken
            simp [hsplit]
          · rw [writtenParts_constant htext (not_exists.mp hv)] at hparts
            cases hparts

/-- All columns have no name. -/
theorem not_exposes_of_star {v : Value} {alias? : Option String} {name : String}
    (hv : v.isEmbedded = false) (hstar : IsStar (writtenParts v.shown alias?).1) :
    ¬ Exposes d reading ⟨v, alias?⟩ name := by
  intro hexposes
  cases hexposes with
  | embedded hother =>
      rw [hv] at hother
      cases hother
  | aliased _ hparts hnone | read _ hparts hnone =>
      rw [hparts] at hstar
      exact hnone hstar
  | column hparts hnone =>
      rw [Value.shown_text, hparts] at hstar
      exact hnone hstar

/-- A plain column is named by its text, unless it has a qualifier. -/
theorem named_column_iff {s : String} (hparts : writtenParts s none = (s, none))
    (hstar : ¬ IsStar s) (hplain : d.Plain s.toList) :
    Named d reading ⟨.text s, none⟩ (d.quoteColumn s) ↔ '.' ∉ s.toList := by
  constructor
  · rintro ⟨name, hexposes, hentry⟩
    cases hexposes with
    | aliased _ hother =>
        rw [Value.shown_text, hparts] at hother
        cases hother
    | read _ _ _ hother => exact absurd ⟨s, rfl, hplain⟩ hother
    | column _ _ _ hname hs =>
        rcases hs with rfl | ⟨table, rfl⟩
        · exact hname
        · exact absurd hentry (quoteColumn_qualified_ne hname hplain)
  · exact fun hdot => ⟨s, .column hparts hstar hplain hdot (.inl rfl), rfl⟩

/-- Any other text is named by the name that is taken, if SQL reads that name in it. -/
theorem named_read_iff {v : Value} {entry : String} (hv : v.isEmbedded = false)
    (hparts : writtenParts v.shown none = (v.shown, none)) (hstar : ¬ IsStar v.shown)
    (hplain : ¬ IsPlainColumn d v) :
    Named d reading ⟨v, none⟩ entry ↔
      ∃ name, reading (d.quoteColumn v.shown) = some name ∧ entry = d.quoteColumn name := by
  constructor
  · rintro ⟨name, hexposes, hentry⟩
    cases hexposes with
    | aliased _ hother =>
        rw [hparts] at hother
        cases hother
    | column _ _ hother => exact absurd ⟨_, rfl, hother⟩ hplain
    | read _ _ _ _ hread => exact ⟨name, hread, hentry⟩
  · rintro ⟨name, hread, hentry⟩
    exact ⟨name, .read hv hparts hstar hplain hread, hentry⟩

/-- A name with an alias is not misnamed, unless it stands for all columns. -/
theorem not_misnamed_of_aliased {v : Value} {alias? : Option String} {column a : String}
    (hparts : writtenParts v.shown alias? = (column, some a)) (hstar : ¬ IsStar column) :
    ¬ Misnamed d reading ⟨v, alias?⟩ := by
  intro hmisnamed
  cases hmisnamed with
  | star _ hall =>
      rw [hparts] at hall
      exact hstar hall
  | qualified hother =>
      rw [Value.shown_text, hother] at hparts
      cases hparts
  | misread _ hother =>
      rw [hother] at hparts
      cases hparts

/-- A plain column is misnamed if it has a qualifier. -/
theorem misnamed_column_iff {s : String} (hparts : writtenParts s none = (s, none))
    (hstar : ¬ IsStar s) (hplain : d.Plain s.toList) :
    Misnamed d reading ⟨.text s, none⟩ ↔ '.' ∈ s.toList := by
  constructor
  · intro hmisnamed
    cases hmisnamed with
    | star _ hall =>
        rw [Value.shown_text, hparts] at hall
        exact absurd hall hstar
    | qualified _ _ hdot => exact hdot
    | misread _ _ hother => exact absurd ⟨s, rfl, hplain⟩ hother
  · exact .qualified hparts hplain

/-- Any other text is misnamed if SQL does not read the name that is taken. -/
theorem misnamed_read_iff {v : Value} {taken : String} (hv : v.isEmbedded = false)
    (hparts : writtenParts v.shown none = (v.shown, none)) (hstar : ¬ IsStar v.shown)
    (hplain : ¬ IsPlainColumn d v) (htaken : Compiler.exposedName ⟨v, none⟩ = .ok taken) :
    Misnamed d reading ⟨v, none⟩ ↔
      ∀ name, reading (d.quoteColumn v.shown) = some name →
        d.quoteColumn taken ≠ d.quoteColumn name := by
  constructor
  · intro hmisnamed
    cases hmisnamed with
    | star _ hall =>
        rw [hparts] at hall
        exact absurd hall hstar
    | qualified _ hother => exact absurd ⟨_, rfl, hother⟩ hplain
    | misread _ _ _ hread => exact fun name hname => hread name taken hname htaken
  · intro h
    refine .misread hv hparts hplain fun name taken' hname htaken' => ?_
    obtain rfl := Except.ok.inj (htaken.symm.trans htaken')
    exact h name hname

/-- What is put into the text has an alias, and is named by it. -/
theorem named_embedded {v : Value} {alias? : Option String} {taken : String}
    (hv : v.isEmbedded = true) (htaken : Compiler.exposedName ⟨v, alias?⟩ = .ok taken) :
    Named d reading ⟨v, alias?⟩ (d.quoteColumn taken) ∧ ¬ Misnamed d reading ⟨v, alias?⟩ := by
  constructor
  · cases alias? with
    | some a =>
        cases htaken
        exact ⟨taken, .embedded hv, rfl⟩
    | none => cases v <;> cases hv <;> cases htaken
  · intro hmisnamed
    cases hmisnamed with
    | star hother | misread hother =>
        rw [hv] at hother
        cases hother
    | qualified => cases hv

/-- An item is named rightly unless it is misnamed. -/
theorem named_iff {item : SelectItem} {taken : String}
    (htaken : Compiler.exposedName item = .ok taken) :
    Named d reading item (d.quoteColumn taken) ↔ ¬ Misnamed d reading item := by
  obtain ⟨v, alias?⟩ := item
  cases hv : v.isEmbedded with
  | true =>
      obtain ⟨hnamed, hmisnamed⟩ := named_embedded hv htaken
      exact iff_of_true hnamed hmisnamed
  | false =>
      rcases hparts : writtenParts v.shown alias? with ⟨column, a?⟩
      -- First of all, since nothing has a name that stands for all columns, alias or not.
      by_cases hstar : IsStar column
      · have hall : IsStar (writtenParts v.shown alias?).1 := by rwa [hparts]
        refine iff_of_false ?_ (not_not_intro (.star hv hall))
        rintro ⟨name, hexposes, -⟩
        exact not_exposes_of_star hv hall hexposes
      cases a? with
      | some a =>
          obtain rfl := exposedName_of_aliased hparts htaken
          exact iff_of_true ⟨taken, .aliased hv hparts hstar, rfl⟩
            (not_misnamed_of_aliased hparts hstar)
      | none =>
          obtain ⟨rfl, rfl, hwhole⟩ := writtenParts_eq_of_none hparts
          by_cases hplain : IsPlainColumn d v
          · obtain ⟨s, rfl, hs⟩ := hplain
            simp only [Value.shown_text] at hparts hstar hwhole
            have hnone : splitAlias s = none := hwhole.resolve_left hs.paren
            obtain rfl : s = taken := by
              simpa [Compiler.exposedName, Value.text?, hnone] using htaken
            rw [named_column_iff hparts hstar hs, misnamed_column_iff hparts hstar hs]
          · rw [named_read_iff hv hparts hstar hplain,
              misnamed_read_iff hv hparts hstar hplain htaken]
            simp

/-! ### The INSERT -/

/-- There is nothing to take a name from. -/
def SelectItem.Nameless (item : SelectItem) : Prop := item.alias? = none ∧ item.expr.text? = none

namespace Compiler

theorem exposedName_of_nameless {item : SelectItem} (h : item.Nameless) :
    exposedName item = .error (.build .insertItemNameless) := by
  rw [exposedName, h.1]
  simp only [h.2]
  rfl

theorem exposedName_ok {item : SelectItem} (h : ¬ item.Nameless) :
    ∃ name, exposedName item = .ok name := by
  rw [exposedName]
  cases halias : item.alias? with
  | some a => exact ⟨a, rfl⟩
  | none =>
      cases htext : item.expr.text? with
      | some s => exact ⟨_, rfl⟩
      | none => exact absurd ⟨halias, htext⟩ h

/-- The first item without a name stops the INSERT. -/
theorem mapM_exposedName_of_nameless {items : List SelectItem}
    (h : ∃ item ∈ items, item.Nameless) :
    items.mapM exposedName = .error (.build .insertItemNameless) := by
  induction items with
  | nil => simp at h
  | cons item rest ih =>
      rw [List.mapM_cons]
      by_cases hitem : item.Nameless
      · rw [exposedName_of_nameless hitem]
        rfl
      · obtain ⟨name, hname⟩ := exposedName_ok hitem
        rw [hname, ih (by simpa [hitem] using h)]
        rfl

/-- The names that are taken, one for each item. -/
theorem mapM_exposedName_ok {items : List SelectItem} (h : ∀ item ∈ items, ¬ item.Nameless) :
    ∃ names, items.mapM exposedName = .ok names ∧
      List.Forall₂ (fun item name => exposedName item = .ok name) items names := by
  induction items with
  | nil => exact ⟨[], rfl, .nil⟩
  | cons item rest ih =>
      obtain ⟨hitem, hrest⟩ := List.forall_mem_cons.mp h
      obtain ⟨name, hname⟩ := exposedName_ok hitem
      obtain ⟨names, hnames, hall⟩ := ih hrest
      refine ⟨name :: names, ?_, .cons hname hall⟩
      rw [List.mapM_cons, hname, hnames]
      rfl

/-- Without items, or with all columns for one, there is no INSERT of the rows of a query. -/
theorem insertRows_of_unnamed (c : Compiler) (table : String) {q : Query}
    (h : q.items = [] ∨ ∃ item ∈ q.items, item.expr.text? = some "*") :
    c.insertRows table q = .error (.build .insertNeedsNames) := by
  have hguard : (q.items.isEmpty || q.items.any fun i => i.expr.text? == some "*") = true := by
    rw [Bool.or_eq_true, List.isEmpty_iff, List.any_eq_true]
    simpa using h
  rw [insertRows, if_pos hguard]
  rfl

/-- Otherwise the query is compiled, and then its items are named. -/
theorem insertRows_of_named (c : Compiler) (table : String) {q : Query} (hitems : q.items ≠ [])
    (hnames : ∀ item ∈ q.items, item.expr.text? ≠ some "*") :
    c.insertRows table q = do
      let rows ← q.fragment c.dialect
      let names ← q.items.mapM exposedName
      return .ofText ("INSERT INTO " ++ c.dialect.quoteTable table ++ " ("
        ++ commaJoined (names.map c.dialect.quoteColumn) ++ ") ") ++ rows := by
  have hguard : ¬ (q.items.isEmpty || q.items.any fun i => i.expr.text? == some "*") = true := by
    rw [Bool.or_eq_true, List.isEmpty_iff, List.any_eq_true]
    simpa [hitems] using hnames
  rw [insertRows, if_neg hguard]

/-- SELECT writes an item given by name as a column and its alias. Without items, or with all
columns for one, there is no INSERT of the rows of a query; nor is there one if the query does not
compile or has an item that is no text and has no alias. Otherwise there is an entry for each item,
in order, and it is the quoted name of the item exactly where the item is not misnamed. -/
theorem insert_names (reading : String → Option String) (c : Compiler) (table : String)
    (q : Query) :
    let d := c.dialect
    let insert := c.insertFragment table (.query q)
    (∀ item ∈ q.items, item.expr.isEmbedded = false →
      let parts := writtenParts item.expr.shown item.alias?
      item.fragment d = .ok (.ofText (d.quoteColumn parts.1 ++ aliasText d parts.2))) ∧
    ((q.items = [] ∨ ∃ item ∈ q.items, item.expr.text? = some "*") →
      insert = .error (.build .insertNeedsNames)) ∧
    (q.items ≠ [] → (∀ item ∈ q.items, item.expr.text? ≠ some "*") →
      (∀ e, q.fragment d = .error e → insert = .error e) ∧
      ∀ rows, q.fragment d = .ok rows →
        ((∃ item ∈ q.items, item.Nameless) → insert = .error (.build .insertItemNameless)) ∧
        ((∀ item ∈ q.items, ¬ item.Nameless) → ∃ entries : List String,
          insert = .ok (.ofText ("INSERT INTO " ++ d.quoteTable table ++ " ("
            ++ commaJoined entries ++ ") ") ++ rows) ∧
          List.Forall₂ (fun item entry => Named d reading item entry ↔ ¬ Misnamed d reading item)
            q.items entries)) := by
  intro d insert
  have hinsert : insert = c.insertRows table q := rfl
  refine ⟨fun item _ hitem => item.fragment_of_name hitem d, insertRows_of_unnamed c table, ?_⟩
  intro hitems hnames
  have hrows := insertRows_of_named c table hitems hnames
  constructor
  · -- The query is compiled before a name is looked at, so its error is the one that is raised.
    intro e he
    rw [hinsert, hrows, he]
    rfl
  · intro rows hok
    constructor
    · intro hnameless
      rw [hinsert, hrows, hok, mapM_exposedName_of_nameless hnameless]
      rfl
    · intro hnamed
      obtain ⟨names, htaken, hall⟩ := mapM_exposedName_ok hnamed
      refine ⟨names.map d.quoteColumn, ?_, ?_⟩
      · rw [hinsert, hrows, hok, htaken]
        rfl
      · rw [List.forall₂_map_right_iff]
        exact hall.imp fun _ _ => named_iff

/-- A column, an alias at the end of a name, and one at the end of a call. -/
theorem insert_names_aliased :
    let c : Compiler := { dialect := Dialect.standard .ansi }
    let reading (s : String) := if s = "COUNT(*) n" then some "n" else none
    let q : Query := { Query.empty with
      items := [⟨.text "a", none⟩, ⟨.text "b as c", none⟩, ⟨.text "COUNT(*) n", none⟩] }
    q.items ≠ [] ∧ (∀ item ∈ q.items, item.expr.text? ≠ some "*") ∧
      (∀ item ∈ q.items, ¬ item.Nameless) ∧
      ∃ (rows : Fragment) (entries : List String),
        let f := .ofText ("INSERT INTO " ++ c.dialect.quoteTable "t" ++ " ("
          ++ commaJoined entries ++ ") ") ++ rows
        c.insertFragment "t" (.query q) = .ok f ∧
        (f.bind (.ofEntries ":qp" [])).1 = "INSERT INTO \"t\" (\"a\", \"c\", \"n\") " ++
          "SELECT \"a\", \"b\" AS \"c\", COUNT(*) n" ∧
        List.Forall₂ (fun item entry => Named c.dialect reading item entry ↔
          ¬ Misnamed c.dialect reading item) q.items entries := by
  intro c reading q
  have hitems : q.items ≠ [] := List.cons_ne_nil _ _
  have hnames : ∀ item ∈ q.items, item.expr.text? ≠ some "*" := by
    simp [q, Value.text?]
  have hnamed : ∀ item ∈ q.items, ¬ item.Nameless := by
    simp [q, SelectItem.Nameless, Value.text?]
  have htext : (c.insertFragment "t" (.query q)).map (fun f => (f.bind (.ofEntries ":qp" [])).1)
      = .ok ("INSERT INTO \"t\" (\"a\", \"c\", \"n\") " ++
        "SELECT \"a\", \"b\" AS \"c\", COUNT(*) n") := by decide
  obtain ⟨-, -, hcompiled⟩ := insert_names reading c "t" q
  obtain ⟨hfails, hrows⟩ := hcompiled hitems hnames
  cases hok : q.fragment c.dialect with
  | error e =>
      rw [hfails e hok] at htext
      cases htext
  | ok rows =>
      obtain ⟨entries, hinsert, hall⟩ := (hrows rows hok).2 hnamed
      rw [hinsert] at htext
      exact ⟨hitems, hnames, hnamed, rows, entries, hinsert, Except.ok.inj htext, hall⟩

/-- The columns of a table are not refused, nor is a call without a name, and the name of a column
has its qualifier. -/
theorem names_not_always_exposed :
    let c : Compiler := { dialect := Dialect.standard .ansi }
    let select (s : String) : Query :=
      { Query.empty with items := [⟨.text s, none⟩], sources := [⟨.text "x", none⟩] }
    let insert (s : String) := (c.insert "t" (.query (select s)) []).map fun out => out.sql
    insert "x.*" = .ok "INSERT INTO \"t\" (\"x\".*) SELECT \"x\".* FROM \"x\"" ∧
      insert "UPPER(a)" = .ok "INSERT INTO \"t\" (UPPER(a)) SELECT UPPER(a) FROM \"x\"" ∧
      insert "x.a" = .ok "INSERT INTO \"t\" (\"x\".\"a\") SELECT \"x\".\"a\" FROM \"x\"" := by
  decide

end Compiler

end SqlLoom
