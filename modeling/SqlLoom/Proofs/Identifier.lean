import Mathlib.Data.List.Infix
import SqlLoom.Dialect.Identifier
import SqlLoom.Proofs.Parentheses.Names

/-!
# `SqlLoom.Proofs.Identifier`: what quoting does to a name

A name is quoted part by part, between its dots. One that is an expression, by an opening
parenthesis or the mark of a token (`IsMarked`), stays as it is. A part is written bare or in quotes
(`BareOrQuoted`), and whether a text without dots and quotes occurs in it does not change by that:
`BareOrQuoted.infix_iff`. So a quoted name has the same dots and the same marks as the name
(`infix_quoteTableChars_iff`), and is split and inspected in the same way when it is quoted again.

* `quoted_again`: names that are quoted once are not quoted again.
* `quoting_inserts_quotes`: without its quotes a quoted name is the name, and quotes stand around
  each part. A column name loses its qualifier if its last part has the mark of a table token, and
  only then (`LosesQualifier`).
* `qualifier_not_always_kept` is such a name.
-/

set_option autoImplicit false

namespace SqlLoom

namespace Text

variable {sep : Char} {s key before after : List Char} {parts : List (List Char)}

/-! ### Occurrences -/

/-- A key occurs where it is an infix. -/
theorem occurs_iff (key s : List Char) : occurs key s = true ↔ key <:+: s := by
  induction s with
  | nil => simp [occurs]
  | cons c s ih =>
      rw [occurs, Bool.or_eq_true, ih, List.isPrefixOf_iff_prefix, List.infix_cons_iff]

/-- A key with a character that a text does not have does not occur in it. -/
theorem occurs_eq_false {c : Char} (hkey : c ∈ key) (hs : c ∉ s) : occurs key s = false := by
  rw [Bool.eq_false_iff]
  intro hoccurs
  exact hs (((occurs_iff key s).mp hoccurs).subset hkey)

/-- A text whose characters all pass a test has no character that fails it. -/
theorem not_mem_of_forall {p : Char → Bool} {c : Char} (h : ∀ e ∈ s, p e = true)
    (hc : p c = false) : c ∉ s := by
  intro hmem
  rw [h c hmem] at hc
  cases hc

/-- A key without the separating character stands on one side of it. -/
theorem infix_append_cons_iff (hkey : sep ∉ key) :
    key <:+: before ++ sep :: after ↔ key <:+: before ∨ key <:+: after := by
  constructor
  · intro h
    rcases List.infix_append_iff.mp h with h | h | ⟨front, back, rfl, hfront, hback⟩
    · exact .inl h
    · rcases List.infix_cons_iff.mp h with hstart | h
      · -- A key that starts with the separating character has it, unless the key is empty.
        cases key with
        | nil => exact .inl List.nil_infix
        | cons c key =>
            obtain rfl := (List.cons_prefix_cons.mp hstart).1
            exact absurd List.mem_cons_self hkey
      · exact .inr h
    · cases back with
      | nil => exact .inl (by simpa using hfront.isInfix)
      | cons c back =>
          obtain rfl := (List.cons_prefix_cons.mp hback).1
          exact absurd (List.mem_append_right _ List.mem_cons_self) hkey
  · rintro (h | h)
    · exact h.trans (List.prefix_append _ _).isInfix
    · exact h.trans ((List.suffix_cons _ _).trans (List.suffix_append _ _)).isInfix

/-- A key without the separating character occurs in joined parts where it occurs in one of
them. -/
theorem infix_join_iff (hkey : sep ∉ key) (hne : key ≠ []) :
    key <:+: join [sep] parts ↔ ∃ part ∈ parts, key <:+: part := by
  induction parts with
  | nil => simpa [join] using hne
  | cons part parts ih =>
      cases parts with
      | nil => simp [join]
      | cons next parts =>
          have hjoin : join [sep] (part :: next :: parts)
              = part ++ sep :: join [sep] (next :: parts) := by simp [join]
          rw [hjoin, infix_append_cons_iff hkey, ih]
          exact (List.exists_mem_cons_iff _ _ _).symm

/-! ### Parts -/

theorem splitAt_eq_splitOn (sep : Char) (s : List Char) : splitAt sep s = s.splitOn sep := by
  induction s with
  | nil => rfl
  | cons c s ih =>
      rw [splitAt, List.splitOn_cons_eq_if_modifyHead, ih]
      by_cases hc : c = sep
      · rw [if_pos hc, if_pos (beq_iff_eq.mpr hc)]
      · rw [if_neg hc, if_neg (mt beq_iff_eq.mp hc)]
        cases hparts : s.splitOn sep with
        | nil => exact absurd hparts (List.splitOn_ne_nil sep s)
        | cons part parts => rfl

/-- A text is its parts, joined again. -/
theorem join_splitAt (sep : Char) (s : List Char) : join [sep] (splitAt sep s) = s := by
  rw [splitAt_eq_splitOn]
  exact List.intercalate_splitOn sep

/-- Parts without the separating character come back from their text. -/
theorem splitAt_join (hparts : ∀ part ∈ parts, sep ∉ part) (hne : parts ≠ []) :
    splitAt sep (join [sep] parts) = parts := by
  rw [splitAt_eq_splitOn]
  exact List.splitOn_intercalate sep hparts hne

theorem splitAt_eq_singleton (hs : sep ∉ s) : splitAt sep s = [s] := by
  rw [splitAt_eq_splitOn]
  exact List.splitOn_eq_singleton hs

theorem not_mem_of_mem_splitAt : ∀ part ∈ splitAt sep s, sep ∉ part := by
  induction s with
  | nil => simp [splitAt]
  | cons c s ih =>
      rw [splitAt]
      split
      · exact List.forall_mem_cons.mpr ⟨List.not_mem_nil, ih⟩
      · rename_i hc
        split
        · simpa using Ne.symm hc
        · rename_i part parts hparts
          rw [hparts] at ih
          obtain ⟨hpart, hrest⟩ := List.forall_mem_cons.mp ih
          exact List.forall_mem_cons.mpr
            ⟨List.not_mem_cons_of_ne_of_not_mem (Ne.symm hc) hpart, hrest⟩

/-- The last part is what stands behind the last separating character. -/
theorem splitAtLast_append (hafter : sep ∉ after) :
    splitAtLast sep (before ++ sep :: after) = some (before, after) := by
  induction before with
  | nil =>
      rw [List.nil_append, splitAtLast, splitAtLast_eq_none hafter]
      exact if_pos rfl
  | cons c before ih => rw [List.cons_append, splitAtLast, ih]

/-- A text has no separating character, or a last one. -/
theorem not_mem_or_exists_last (sep : Char) (s : List Char) :
    sep ∉ s ∨ ∃ before after, s = before ++ sep :: after ∧ sep ∉ after := by
  induction s with
  | nil => exact .inl List.not_mem_nil
  | cons c s ih =>
      rcases ih with hs | ⟨before, after, rfl, hafter⟩
      · by_cases hc : c = sep
        · exact .inr ⟨[], s, by rw [hc, List.nil_append], hs⟩
        · exact .inl (List.not_mem_cons_of_ne_of_not_mem (Ne.symm hc) hs)
      · exact .inr ⟨c :: before, after, rfl, hafter⟩

/-- Parts and one more part. -/
theorem join_concat (hne : parts ≠ []) (last : List Char) :
    join [sep] (parts ++ [last]) = join [sep] parts ++ sep :: last := by
  induction parts with
  | nil => exact absurd rfl hne
  | cons part parts ih =>
      cases parts with
      | nil => simp [join]
      | cons next parts =>
          have ih := ih (List.cons_ne_nil _ _)
          simp only [join, List.cons_append, List.intercalate_cons_cons] at ih ⊢
          rw [ih]
          simp

/-- A test that the separating character passes filters the parts one by one. -/
theorem filter_join {p : Char → Bool} (hsep : p sep = true) :
    (join [sep] parts).filter p = join [sep] (parts.map (List.filter p)) := by
  induction parts with
  | nil => rfl
  | cons part parts ih =>
      cases parts with
      | nil => simp [join]
      | cons next parts =>
          simp only [join, List.map_cons, List.intercalate_cons_cons] at ih ⊢
          rw [List.filter_append, List.filter_append, ih, List.filter_singleton, hsep]
          rfl

end Text

namespace Dialect

variable {d : Dialect} {q : Char} {name part mark key table column : List Char}

/-! ### Parts in quotes -/

/-- The character in which names are quoted is a quotation mark or a backtick. -/
def QuotesNames (d : Dialect) (q : Char) : Prop := d.quoteChars = [q] ∧ (q = '"' ∨ q = '\x60')

theorem standard_quotesNames (b : Backend) : ∃ q, (Dialect.standard b).QuotesNames q := by
  cases b
  case mysql => exact ⟨'\x60', rfl, .inr rfl⟩
  all_goals exact ⟨'"', rfl, .inl rfl⟩

theorem QuotesNames.not_mem (hq : d.QuotesNames q) (hmark : '"' ∉ key) (hbacktick : '\x60' ∉ key) :
    q ∉ key := by
  rcases hq.2 with rfl | rfl
  · exact hmark
  · exact hbacktick

theorem QuotesNames.ne_dot (hq : d.QuotesNames q) : '.' ≠ q := by
  rcases hq.2 with rfl | rfl <;> decide

/-- A part as it is, or in quotes. -/
def BareOrQuoted (d : Dialect) (name part : List Char) : Prop := part = name ∨ part = d.enclose name

theorem quoteSimpleTableChars_cases (d : Dialect) (name : List Char) :
    d.BareOrQuoted name (d.quoteSimpleTableChars name) := by
  rw [quoteSimpleTableChars]
  split
  · exact .inl rfl
  · exact .inr rfl

theorem quoteSimpleColumnChars_cases (d : Dialect) (name : List Char) :
    d.BareOrQuoted name (d.quoteSimpleColumnChars name) := by
  rw [quoteSimpleColumnChars]
  split
  · exact .inl rfl
  · exact .inr rfl

theorem enclose_eq (hq : d.QuotesNames q) (name : List Char) :
    d.enclose name = [] ++ q :: (name ++ q :: []) := by
  rw [enclose, hq.1]
  simp

/-- Quotes around a part neither make nor break an occurrence of a text without quotes. -/
theorem BareOrQuoted.infix_iff (h : d.BareOrQuoted name part) (hq : d.QuotesNames q)
    (hkey : q ∉ key) : key <:+: part ↔ key <:+: name := by
  rcases h with rfl | rfl
  · exact Iff.rfl
  · rw [enclose_eq hq, Text.infix_append_cons_iff hkey, Text.infix_append_cons_iff hkey]
    constructor
    · rintro (h | h | h)
      · exact h.trans List.nil_infix
      · exact h
      · exact h.trans List.nil_infix
    · exact fun h => .inr (.inl h)

theorem BareOrQuoted.mem_iff (h : d.BareOrQuoted name part) (hq : d.QuotesNames q) {c : Char}
    (hc : c ≠ q) : c ∈ part ↔ c ∈ name := by
  rw [← List.singleton_infix_iff, ← List.singleton_infix_iff]
  exact h.infix_iff hq (by simpa using hc.symm)

/-- A part that is quoted has a quote. -/
theorem occurs_enclose (d : Dialect) (name : List Char) :
    Text.occurs d.quoteChars (d.enclose name) = true := by
  rw [Text.occurs_iff, enclose, List.append_assoc]
  exact (List.prefix_append _ _).isInfix

/-- A part without a quote is put in quotes. -/
theorem quoteSimpleTableChars_eq_enclose (hq : d.QuotesNames q) (hquote : q ∉ name) :
    d.quoteSimpleTableChars name = d.enclose name := by
  rw [quoteSimpleTableChars, Text.occurs_eq_false (by simp [hq.1]) hquote]
  rfl

/-- A part of a column name is, too, unless it is the star. -/
theorem quoteSimpleColumnChars_eq_enclose (hq : d.QuotesNames q) (hquote : q ∉ name) :
    d.quoteSimpleColumnChars name = if name = ['*'] then name else d.enclose name := by
  rw [quoteSimpleColumnChars, Text.occurs_eq_false (by simp [hq.1]) hquote, Bool.false_or]
  simp only [beq_iff_eq]

/-- Without a star a part of a column name is quoted like one of a table name. -/
theorem quoteSimpleColumnChars_eq {name : List Char} (hstar : '*' ∉ name) :
    d.quoteSimpleColumnChars name = d.quoteSimpleTableChars name := by
  have hne : (name == ['*']) = false := by
    rw [beq_eq_false_iff_ne]
    rintro rfl
    exact hstar List.mem_cons_self
  rw [quoteSimpleColumnChars, quoteSimpleTableChars, hne, Bool.or_false]

/-- A way to quote parts that leaves a part with a quote as it is settles at once. -/
theorem quotePart_again {quotePart : List Char → List Char}
    (hcases : ∀ name, d.BareOrQuoted name (quotePart name))
    (hkeep : ∀ name, Text.occurs d.quoteChars name = true → quotePart name = name)
    (name : List Char) : quotePart (quotePart name) = quotePart name := by
  rcases hcases name with hbare | hquoted
  · rw [hbare, hbare]
  · rw [hquoted]
    exact hkeep _ (d.occurs_enclose name)

theorem quoteSimpleTableChars_again (d : Dialect) (name : List Char) :
    d.quoteSimpleTableChars (d.quoteSimpleTableChars name) = d.quoteSimpleTableChars name :=
  quotePart_again d.quoteSimpleTableChars_cases (fun _ h => if_pos h) name

theorem quoteSimpleColumnChars_again (d : Dialect) (name : List Char) :
    d.quoteSimpleColumnChars (d.quoteSimpleColumnChars name) = d.quoteSimpleColumnChars name :=
  quotePart_again d.quoteSimpleColumnChars_cases
    (fun _ h => if_pos (by rw [h, Bool.true_or])) name

/-! ### Marks -/

/-- What tokens start with. -/
def OpensToken (mark : List Char) : Prop := mark = ['{', '{'] ∨ mark = ['[', '[']

theorem OpensToken.brace : OpensToken ['{', '{'] := .inl rfl

theorem OpensToken.bracket : OpensToken ['[', '['] := .inr rfl

theorem OpensToken.ne_nil (h : OpensToken mark) : mark ≠ [] := by
  rcases h with rfl | rfl <;> decide

theorem OpensToken.dot_not_mem (h : OpensToken mark) : '.' ∉ mark := by
  rcases h with rfl | rfl <;> decide

theorem OpensToken.quote_not_mem (h : OpensToken mark) (hq : d.QuotesNames q) : q ∉ mark := by
  rcases h with rfl | rfl <;> exact hq.not_mem (by decide) (by decide)

/-- A name with an opening parenthesis or with the mark of a token is left as it is. -/
def IsMarked (mark name : List Char) : Prop := '(' ∈ name ∨ mark <:+: name

instance (mark name : List Char) : Decidable (IsMarked mark name) :=
  inferInstanceAs (Decidable (_ ∨ _))

theorem isMarked_iff (mark name : List Char) :
    (name.contains '(' || Text.occurs mark name) = true ↔ IsMarked mark name := by
  rw [Bool.or_eq_true, List.contains_iff_mem, Text.occurs_iff, IsMarked]

/-- Marks are occurrences, so a text has the marks of another that has the same occurrences. -/
theorem isMarked_congr {s t : List Char} (hq : d.QuotesNames q) (hmark : OpensToken mark)
    (h : ∀ key, '.' ∉ key → q ∉ key → key ≠ [] → (key <:+: s ↔ key <:+: t)) :
    IsMarked mark s ↔ IsMarked mark t := by
  refine or_congr ?_ (h mark hmark.dot_not_mem (hmark.quote_not_mem hq) hmark.ne_nil)
  rw [← List.singleton_infix_iff, ← List.singleton_infix_iff]
  exact h ['('] (by decide) (hq.not_mem (by decide) (by decide)) (by decide)

/-- Quotes around a part make no mark. -/
theorem BareOrQuoted.isMarked_iff (h : d.BareOrQuoted name part) (hq : d.QuotesNames q)
    (hmark : OpensToken mark) : IsMarked mark part ↔ IsMarked mark name :=
  isMarked_congr hq hmark fun _ _ hkey _ => h.infix_iff hq hkey

/-- A dot is in no mark. -/
theorem isMarked_append_cons_iff (hmark : OpensToken mark) :
    IsMarked mark (table ++ '.' :: column) ↔ IsMarked mark table ∨ IsMarked mark column := by
  have hparen : '(' ∈ table ++ '.' :: column ↔ '(' ∈ table ∨ '(' ∈ column := by simp
  rw [IsMarked, IsMarked, IsMarked, Text.infix_append_cons_iff hmark.dot_not_mem, hparen]
  exact or_or_or_comm

/-- A name without one of the characters of a mark does not have the mark. -/
theorem not_isMarked_of_not_mem {c : Char} (hparen : '(' ∉ name) (hmark : c ∈ mark)
    (hc : c ∉ name) : ¬ IsMarked mark name :=
  not_or.mpr ⟨hparen, fun h => hc (h.subset hmark)⟩

theorem quoteTableChars_of_marked (h : IsMarked ['{', '{'] name) :
    d.quoteTableChars name = name := by
  rw [quoteTableChars, if_pos ((isMarked_iff _ _).mpr h)]

/-- A name that is no expression has each of its parts in quotes. -/
theorem quoteTableChars_of_not_marked (h : ¬ IsMarked ['{', '{'] name) :
    d.quoteTableChars name
      = Text.join ['.'] ((Text.splitAt '.' name).map d.quoteSimpleTableChars) := by
  rw [quoteTableChars, if_neg (mt (isMarked_iff _ _).mp h)]
  split
  · -- Without a dot the name is its only part.
    rename_i hdot
    rw [Text.splitAt_eq_singleton (by simpa using hdot), List.map_singleton, Text.join,
      List.intercalate_singleton]
  · rfl

theorem quoteTableChars_single (h : ¬ IsMarked ['{', '{'] name) (hdot : '.' ∉ name) :
    d.quoteTableChars name = d.quoteSimpleTableChars name := by
  rw [quoteTableChars_of_not_marked h, Text.splitAt_eq_singleton hdot, List.map_singleton,
    Text.join, List.intercalate_singleton]

/-- Quoting neither makes nor breaks an occurrence of a text without dots and quotes. -/
theorem infix_quoteTableChars_iff (hq : d.QuotesNames q) (hdot : '.' ∉ key) (hquote : q ∉ key)
    (hne : key ≠ []) : key <:+: d.quoteTableChars name ↔ key <:+: name := by
  by_cases hmark : IsMarked ['{', '{'] name
  · rw [quoteTableChars_of_marked hmark]
  · conv_rhs => rw [← Text.join_splitAt '.' name]
    rw [quoteTableChars_of_not_marked hmark, Text.infix_join_iff hdot hne,
      Text.infix_join_iff hdot hne]
    simp only [List.mem_map, exists_exists_and_eq_and]
    refine exists_congr fun part => and_congr_right fun _ => ?_
    exact (quoteSimpleTableChars_cases d part).infix_iff hq hquote

theorem isMarked_quoteTableChars_iff (hq : d.QuotesNames q) (hmark : OpensToken mark) :
    IsMarked mark (d.quoteTableChars name) ↔ IsMarked mark name :=
  isMarked_congr hq hmark fun _ => infix_quoteTableChars_iff hq

/-- The parts of a quoted name are quoted parts. -/
theorem splitAt_quoteTableChars (hq : d.QuotesNames q) (h : ¬ IsMarked ['{', '{'] name) :
    Text.splitAt '.' (d.quoteTableChars name)
      = (Text.splitAt '.' name).map d.quoteSimpleTableChars := by
  rw [quoteTableChars_of_not_marked h]
  refine Text.splitAt_join (List.forall_mem_map.mpr fun part hpart => ?_) ?_
  · rw [(quoteSimpleTableChars_cases d part).mem_iff hq hq.ne_dot]
    exact Text.not_mem_of_mem_splitAt part hpart
  · simpa using Text.splitAt_ne_nil '.' name

theorem quoteTableChars_again (hq : d.QuotesNames q) (name : List Char) :
    d.quoteTableChars (d.quoteTableChars name) = d.quoteTableChars name := by
  by_cases hmark : IsMarked ['{', '{'] name
  · have hbare : d.quoteTableChars name = name := quoteTableChars_of_marked hmark
    rw [hbare, hbare]
  · have hmark' : ¬ IsMarked ['{', '{'] (d.quoteTableChars name) := by
      rwa [isMarked_quoteTableChars_iff hq .brace]
    -- The second time the same parts are quoted, and each has been quoted before.
    rw [quoteTableChars_of_not_marked hmark', splitAt_quoteTableChars hq hmark, List.map_map,
      quoteTableChars_of_not_marked hmark]
    refine congrArg (Text.join ['.']) (List.map_congr_left fun part _ => ?_)
    exact quoteSimpleTableChars_again d part

/-! ### Column names -/

theorem quoteColumnChars_of_marked (h : IsMarked ['[', '['] name) :
    d.quoteColumnChars name = name := by
  rw [quoteColumnChars, if_pos ((isMarked_iff _ _).mpr h)]

/-- A name without a dot is one part, or else it has the mark of a table token. -/
theorem quoteColumnChars_single (h : ¬ IsMarked ['[', '['] name) (hdot : '.' ∉ name)
    (htoken : ¬ ['{', '{'] <:+: name) :
    d.quoteColumnChars name = d.quoteSimpleColumnChars name := by
  rw [quoteColumnChars, if_neg (mt (isMarked_iff _ _).mp h), Text.splitAtLast_eq_none hdot]
  exact if_neg (mt (Text.occurs_iff _ _).mp htoken)

theorem quoteColumnChars_single_token (hdot : '.' ∉ name) (htoken : ['{', '{'] <:+: name) :
    d.quoteColumnChars name = name := by
  by_cases h : IsMarked ['[', '['] name
  · exact quoteColumnChars_of_marked h
  · rw [quoteColumnChars, if_neg (mt (isMarked_iff _ _).mp h), Text.splitAtLast_eq_none hdot]
    exact if_pos ((Text.occurs_iff _ _).mpr htoken)

/-- The last part of a name is quoted behind the table that it is qualified with. -/
theorem quoteColumnChars_qualified (h : ¬ IsMarked ['[', '['] (table ++ '.' :: column))
    (hdot : '.' ∉ column) (htoken : ¬ ['{', '{'] <:+: column) :
    d.quoteColumnChars (table ++ '.' :: column)
      = d.quoteTableChars table ++ '.' :: d.quoteSimpleColumnChars column := by
  rw [quoteColumnChars, if_neg (mt (isMarked_iff _ _).mp h), Text.splitAtLast_append hdot]
  exact if_neg (mt (Text.occurs_iff _ _).mp htoken)

/-- A last part with the mark of a table token is all that is left of a name. -/
theorem quoteColumnChars_qualified_token (h : ¬ IsMarked ['[', '['] (table ++ '.' :: column))
    (hdot : '.' ∉ column) (htoken : ['{', '{'] <:+: column) :
    d.quoteColumnChars (table ++ '.' :: column) = column := by
  rw [quoteColumnChars, if_neg (mt (isMarked_iff _ _).mp h), Text.splitAtLast_append hdot]
  exact if_pos ((Text.occurs_iff _ _).mpr htoken)

theorem quoteColumnChars_again (hq : d.QuotesNames q) (name : List Char) :
    d.quoteColumnChars (d.quoteColumnChars name) = d.quoteColumnChars name := by
  by_cases hmark : IsMarked ['[', '['] name
  · have hbare : d.quoteColumnChars name = name := quoteColumnChars_of_marked hmark
    rw [hbare, hbare]
  rcases Text.not_mem_or_exists_last '.' name with hdot | ⟨table, column, rfl, hdot⟩
  · by_cases htoken : ['{', '{'] <:+: name
    · have hbare : d.quoteColumnChars name = name := quoteColumnChars_single_token hdot htoken
      rw [hbare, hbare]
    · have hpart := quoteSimpleColumnChars_cases d name
      rw [quoteColumnChars_single hmark hdot htoken, quoteColumnChars_single,
        quoteSimpleColumnChars_again]
      -- A quoted part has the dots and marks of the part, so it meets the same branch again.
      · rwa [hpart.isMarked_iff hq .bracket]
      · rwa [hpart.mem_iff hq hq.ne_dot]
      · rwa [hpart.infix_iff hq (OpensToken.brace.quote_not_mem hq)]
  · by_cases htoken : ['{', '{'] <:+: column
    · rw [quoteColumnChars_qualified_token hmark hdot htoken]
      exact quoteColumnChars_single_token hdot htoken
    · have hpart := quoteSimpleColumnChars_cases d column
      rw [quoteColumnChars_qualified hmark hdot htoken, quoteColumnChars_qualified,
        quoteTableChars_again hq, quoteSimpleColumnChars_again]
      · rw [isMarked_append_cons_iff .bracket, isMarked_quoteTableChars_iff hq .bracket,
          hpart.isMarked_iff hq .bracket]
        rwa [isMarked_append_cons_iff .bracket] at hmark
      · rwa [hpart.mem_iff hq hq.ne_dot]
      · rwa [hpart.infix_iff hq (OpensToken.brace.quote_not_mem hq)]

/-- A quoted name is quoted: to quote it again, as a whole or as one part, changes nothing. -/
theorem quoted_again (b : Backend) (name : String) :
    let d := Dialect.standard b
    d.quoteSimpleTable (d.quoteSimpleTable name) = d.quoteSimpleTable name ∧
      d.quoteSimpleColumn (d.quoteSimpleColumn name) = d.quoteSimpleColumn name ∧
      d.quoteTable (d.quoteTable name) = d.quoteTable name ∧
      d.quoteColumn (d.quoteColumn name) = d.quoteColumn name := by
  intro d
  obtain ⟨q, hq⟩ := standard_quotesNames b
  refine ⟨?_, ?_, ?_, ?_⟩
  · rw [quoteSimpleTable, quoteSimpleTable, String.toList_ofList, quoteSimpleTableChars_again]
  · rw [quoteSimpleColumn, quoteSimpleColumn, String.toList_ofList, quoteSimpleColumnChars_again]
  · rw [quoteTable, quoteTable, String.toList_ofList, quoteTableChars_again hq]
  · rw [quoteColumn, quoteColumn, String.toList_ofList, quoteColumnChars_again hq]

/-! ### Names without their quotes -/

/-- A text without the quotes of names. -/
def withoutQuotes (d : Dialect) (s : List Char) : List Char :=
  s.filter fun c => !d.quoteChars.contains c

theorem withoutQuotes_append (d : Dialect) (s t : List Char) :
    d.withoutQuotes (s ++ t) = d.withoutQuotes s ++ d.withoutQuotes t :=
  List.filter_append s t

theorem QuotesNames.keeps_dot (hq : d.QuotesNames q) : (!d.quoteChars.contains '.') = true := by
  simp [hq.1, hq.ne_dot]

theorem withoutQuotes_dot (hq : d.QuotesNames q) (s : List Char) :
    d.withoutQuotes ('.' :: s) = '.' :: d.withoutQuotes s :=
  List.filter_cons_of_pos hq.keeps_dot

theorem BareOrQuoted.withoutQuotes_eq (h : d.BareOrQuoted name part) :
    d.withoutQuotes part = d.withoutQuotes name := by
  rcases h with rfl | rfl
  · rfl
  · have hquote : d.withoutQuotes d.quoteChars = [] := by simp [withoutQuotes]
    rw [enclose, withoutQuotes_append, withoutQuotes_append, hquote, List.nil_append,
      List.append_nil]

theorem withoutQuotes_quoteTableChars (hq : d.QuotesNames q) (name : List Char) :
    d.withoutQuotes (d.quoteTableChars name) = d.withoutQuotes name := by
  by_cases hmark : IsMarked ['{', '{'] name
  · rw [quoteTableChars_of_marked hmark]
  · have hjoin (parts : List (List Char)) : d.withoutQuotes (Text.join ['.'] parts)
        = Text.join ['.'] (parts.map d.withoutQuotes) := Text.filter_join hq.keeps_dot
    conv_rhs => rw [← Text.join_splitAt '.' name, hjoin]
    rw [quoteTableChars_of_not_marked hmark, hjoin, List.map_map]
    refine congrArg (Text.join ['.']) (List.map_congr_left fun part _ => ?_)
    exact (quoteSimpleTableChars_cases d part).withoutQuotes_eq

/-- Of a column name that is no expression only the last part is written, since that part has the
mark of a table token. -/
def LosesQualifier (name column : List Char) : Prop :=
  ¬ IsMarked ['[', '['] name ∧ ['{', '{'] <:+: column ∧
    ∃ table, name = table ++ '.' :: column ∧ '.' ∉ column

theorem not_losesQualifier_of_marked (h : IsMarked ['[', '['] name) :
    ¬ LosesQualifier name column :=
  fun hlost => hlost.1 h

theorem not_losesQualifier_single (hdot : '.' ∉ name) : ¬ LosesQualifier name column := by
  rintro ⟨-, -, table, rfl, -⟩
  exact hdot (List.mem_append_right _ List.mem_cons_self)

/-- The part behind the last dot is the one that counts. -/
theorem losesQualifier_iff (hdot : '.' ∉ column) {last : List Char} :
    LosesQualifier (table ++ '.' :: column) last ↔
      ¬ IsMarked ['[', '['] (table ++ '.' :: column) ∧ ['{', '{'] <:+: column ∧ last = column := by
  constructor
  · rintro ⟨hmark, htoken, table', hname, hlast⟩
    have hsplit : Text.splitAtLast '.' (table ++ '.' :: column) = some (table, column) :=
      Text.splitAtLast_append hdot
    rw [hname, Text.splitAtLast_append hlast] at hsplit
    cases hsplit
    exact ⟨hmark, htoken, rfl⟩
  · rintro ⟨hmark, htoken, rfl⟩
    exact ⟨hmark, htoken, table, rfl, hdot⟩

/-- Without its quotes a quoted column name is the name, unless it loses its qualifier. -/
theorem withoutQuotes_quoteColumnChars_iff (hq : d.QuotesNames q) (name : List Char) :
    d.withoutQuotes (d.quoteColumnChars name) = d.withoutQuotes name ↔
      ∀ column, ¬ LosesQualifier name column := by
  by_cases hmark : IsMarked ['[', '['] name
  · rw [quoteColumnChars_of_marked hmark]
    exact iff_of_true rfl fun _ => not_losesQualifier_of_marked hmark
  rcases Text.not_mem_or_exists_last '.' name with hdot | ⟨table, column, rfl, hdot⟩
  · refine iff_of_true ?_ fun _ => not_losesQualifier_single hdot
    by_cases htoken : ['{', '{'] <:+: name
    · rw [quoteColumnChars_single_token hdot htoken]
    · rw [quoteColumnChars_single hmark hdot htoken]
      exact (quoteSimpleColumnChars_cases d name).withoutQuotes_eq
  · by_cases htoken : ['{', '{'] <:+: column
    · refine iff_of_false (fun heq => ?_) fun h =>
        h column ((losesQualifier_iff hdot).mpr ⟨hmark, htoken, rfl⟩)
      -- The dot in front of the last part is missing, at least.
      rw [quoteColumnChars_qualified_token hmark hdot htoken, withoutQuotes_append,
        withoutQuotes_dot hq] at heq
      have hlength := congrArg List.length heq
      rw [List.length_append, List.length_cons] at hlength
      omega
    · refine iff_of_true ?_ fun _ hlost => htoken ((losesQualifier_iff hdot).mp hlost).2.1
      rw [quoteColumnChars_qualified hmark hdot htoken, withoutQuotes_append, withoutQuotes_append,
        withoutQuotes_dot hq, withoutQuotes_dot hq, withoutQuotes_quoteTableChars hq,
        (quoteSimpleColumnChars_cases d column).withoutQuotes_eq]

/-! ### Plain names -/

/-- A name without parentheses, marks of tokens and quotes. -/
structure Plain (d : Dialect) (name : List Char) : Prop where
  paren : '(' ∉ name
  bracket : ¬ ['[', '['] <:+: name
  brace : ¬ ['{', '{'] <:+: name
  quote : ∀ c ∈ d.quoteChars, c ∉ name

theorem Plain.not_marked (h : d.Plain name) (hmark : OpensToken mark) :
    ¬ IsMarked mark name := by
  rcases hmark with rfl | rfl
  · exact not_or.mpr ⟨h.paren, h.brace⟩
  · exact not_or.mpr ⟨h.paren, h.bracket⟩

/-- What a plain name contains is plain. -/
theorem Plain.mono (h : d.Plain name) (hpart : part <:+: name) : d.Plain part where
  paren hmem := h.paren (hpart.subset hmem)
  bracket hmem := h.bracket (hmem.trans hpart)
  brace hmem := h.brace (hmem.trans hpart)
  quote c hc hmem := h.quote c hc (hpart.subset hmem)

theorem Plain.quote_not_mem (h : d.Plain name) (hq : d.QuotesNames q) : q ∉ name :=
  h.quote q (by simp [hq.1])

/-- Each part of a plain table name is in quotes. -/
theorem Plain.quoteTableChars_eq (h : d.Plain name) (hq : d.QuotesNames q) :
    d.quoteTableChars name = ['.'].intercalate ((name.splitOn '.').map d.enclose) := by
  rw [quoteTableChars_of_not_marked (h.not_marked .brace), ← Text.splitAt_eq_splitOn]
  refine congrArg (Text.join ['.']) (List.map_congr_left fun part hpart => ?_)
  exact quoteSimpleTableChars_eq_enclose hq fun hmem =>
    h.quote_not_mem hq (Text.splitAt_subset '.' name part hpart hmem)

/-- So is each part of a plain column name, but for a star at its end. -/
theorem Plain.quoteColumnChars_eq (h : d.Plain name) (hq : d.QuotesNames q) :
    ∃ parts last, name.splitOn '.' = parts ++ [last] ∧
      d.quoteColumnChars name = ['.'].intercalate
        (parts.map d.enclose ++ [if last = ['*'] then last else d.enclose last]) := by
  have hmark := h.not_marked .bracket
  rcases Text.not_mem_or_exists_last '.' name with hdot | ⟨table, column, rfl, hdot⟩
  · refine ⟨[], name, List.splitOn_eq_singleton hdot, ?_⟩
    rw [quoteColumnChars_single hmark hdot h.brace,
      quoteSimpleColumnChars_eq_enclose hq (h.quote_not_mem hq), List.map_nil, List.nil_append,
      List.intercalate_singleton]
  · have htable : d.Plain table := h.mono (List.prefix_append _ _).isInfix
    have hcolumn : d.Plain column :=
      h.mono ((List.suffix_cons _ _).trans (List.suffix_append _ _)).isInfix
    refine ⟨table.splitOn '.', column, ?_, ?_⟩
    · rw [List.splitOn_append_cons_self, List.splitOn_eq_singleton hdot]
    · have hparts : (table.splitOn '.').map d.enclose ≠ [] :=
        mt List.map_eq_nil_iff.mp (List.splitOn_ne_nil '.' table)
      rw [quoteColumnChars_qualified hmark hdot hcolumn.brace, htable.quoteTableChars_eq hq,
        quoteSimpleColumnChars_eq_enclose hq (hcolumn.quote_not_mem hq)]
      exact (Text.join_concat hparts _).symm

/-- Quoting puts quotes into a name and nothing else, around each of its parts if the name is plain.
The one exception is a column name that loses its qualifier, of which only the last part is left. -/
theorem quoting_inserts_quotes (b : Backend) (name : String) :
    let d := Dialect.standard b
    d.withoutQuotes (d.quoteTable name).toList = d.withoutQuotes name.toList ∧
      (d.withoutQuotes (d.quoteColumn name).toList = d.withoutQuotes name.toList ↔
        ∀ column, ¬ LosesQualifier name.toList column) ∧
      (∀ column, LosesQualifier name.toList column → (d.quoteColumn name).toList = column) ∧
      (d.Plain name.toList →
        (d.quoteTable name).toList = ['.'].intercalate ((name.toList.splitOn '.').map d.enclose) ∧
        ∃ parts last, name.toList.splitOn '.' = parts ++ [last] ∧
          (d.quoteColumn name).toList = ['.'].intercalate
            (parts.map d.enclose ++ [if last = ['*'] then last else d.enclose last])) := by
  intro d
  obtain ⟨q, hq⟩ := standard_quotesNames b
  rw [quoteTable, quoteColumn, String.toList_ofList, String.toList_ofList]
  refine ⟨withoutQuotes_quoteTableChars hq _, withoutQuotes_quoteColumnChars_iff hq _, ?_, ?_⟩
  · rintro column ⟨hmark, htoken, table, hname, hdot⟩
    rw [hname] at hmark ⊢
    exact quoteColumnChars_qualified_token hmark hdot htoken
  · exact fun hplain => ⟨hplain.quoteTableChars_eq hq, hplain.quoteColumnChars_eq hq⟩

/-- A qualifier in front of a table token is dropped, with its dot. -/
theorem qualifier_not_always_kept :
    let d := Dialect.standard .ansi
    let name := "t.\x7b\x7bc\x7d\x7d"
    d.quoteColumn name = "\x7b\x7bc\x7d\x7d" ∧
      d.withoutQuotes (d.quoteColumn name).toList ≠ d.withoutQuotes name.toList := by
  decide

/-- A plain name that ends in a star, and a name that loses its qualifier. -/
theorem quoting_inserts_quotes_star :
    let d := Dialect.standard .postgres
    (d.Plain "s.t.*".toList ∧ d.quoteTable "s.t.*" = "\"s\".\"t\".\"*\"" ∧
      d.quoteColumn "s.t.*" = "\"s\".\"t\".*") ∧
    (LosesQualifier "s.t.\x7b\x7bc".toList "\x7b\x7bc".toList ∧
      (d.quoteColumn "s.t.\x7b\x7bc").toList = "\x7b\x7bc".toList) := by
  intro d
  have hchars : (Dialect.standard .postgres).quoteChars = ['"'] := rfl
  have hquote : ∀ c ∈ (Dialect.standard .postgres).quoteChars, c ∉ "s.t.*".toList := by
    rw [hchars, List.forall_mem_singleton]
    decide
  have hplain : d.Plain "s.t.*".toList := ⟨by decide, by decide, by decide, hquote⟩
  have hlost : LosesQualifier "s.t.\x7b\x7bc".toList "\x7b\x7bc".toList :=
    ⟨by decide, by decide, "s.t".toList, by decide, by decide⟩
  obtain ⟨-, -, -, hparts⟩ := quoting_inserts_quotes .postgres "s.t.*"
  obtain ⟨-, -, hlast, -⟩ := quoting_inserts_quotes .postgres "s.t.\x7b\x7bc"
  obtain ⟨htable, parts, last, hsplit, hcolumn⟩ := hparts hplain
  have hsplit' : "s.t.*".toList.splitOn '.' = [['s'], ['t']] ++ [['*']] := by decide
  obtain ⟨rfl, hend⟩ := List.append_inj' (hsplit.symm.trans hsplit') rfl
  obtain rfl := List.singleton_inj.mp hend
  refine ⟨⟨hplain, ?_, ?_⟩, hlost, hlast _ hlost⟩
  · exact String.toList_inj.mp (htable.trans (by decide))
  · exact String.toList_inj.mp (hcolumn.trans (by decide))

end Dialect

end SqlLoom
