import SqlLoom.Proofs.Literal
import SqlLoom.Proofs.Words
import SqlLoom.Schema.Reflection

/-!
# `SqlLoom.Proofs.Default`: server defaults that are literals

The text of a server default that stands in single quotes is taken for a literal, and its doubled
quotes are undone. A text is one literal (`Literal.read`) exactly if it is what the base dialect
writes for some text (`Literal.read_eq_text_iff`), and that text is what is read then.

* `Text.replace_doubled`: undoing doubled quotes gives back the text whose quotes were doubled.
* `DriverColumn.literal_defaults_iff`: literals are read as what they stand for. Of all other texts
  those are kept, or read as numbers, that do not both start and end with a quote.
* `DriverColumn.joined_literals_stripped`: two literals with an operator between them lose their
  outer quotes.
-/

set_option autoImplicit false

namespace SqlLoom

variable {s t : List Char}

/-! ### Doubled quotes -/

namespace Text

/-- Where a doubled quote starts, one quote takes its place. -/
theorem replace_doubled_cons (s : List Char) :
    replace ['\'', '\''] ['\''] ('\'' :: '\'' :: s) = '\'' :: replace ['\'', '\''] ['\''] s := by
  simp [replace, replaceFrom]

/-- Any other character but a quote stays. -/
theorem replace_plain_cons {c : Char} (hc : c ≠ '\'') (s : List Char) :
    replace ['\'', '\''] ['\''] (c :: s) = c :: replace ['\'', '\''] ['\''] s := by
  simp [replace, replaceFrom, Ne.symm hc]

/-- Undoing doubled quotes gives back the text whose quotes were doubled. -/
theorem replace_doubled (s : List Char) :
    replace ['\'', '\''] ['\''] (replaceChar '\'' ['\'', '\''] s) = s := by
  induction s with
  | nil => rfl
  | cons c s ih =>
      by_cases hc : c = '\''
      · subst hc
        exact (replace_doubled_cons _).trans (congrArg ('\'' :: ·) ih)
      · rw [double_plain_cons hc, replace_plain_cons hc, ih]

/-- A replacement that is no longer than what it replaces makes no text longer. -/
theorem length_replaceFrom_le {old new : List Char} (h : new.length ≤ old.length) (skip : Nat)
    (s : List Char) : (replaceFrom old new skip s).length ≤ s.length - skip := by
  fun_induction replaceFrom old new skip s with
  | case1 => simp
  | case2 skip c rest ih => simpa using ih
  | case3 c rest hprefix ih =>
      have hlength := (List.isPrefixOf_iff_prefix.mp hprefix).length_le
      simp only [List.length_append, List.length_cons] at hlength ⊢
      omega
  | case4 c rest hprefix ih =>
      simp only [List.length_cons] at ih ⊢
      omega

end Text

/-! ### Reading a default -/

theorem betweenQuotes?_eq_some_iff : betweenQuotes? s = some t ↔ s = '\'' :: t ++ ['\''] := by
  constructor
  · intro h
    rw [betweenQuotes?.eq_def] at h
    split at h
    · rename_i rest
      split at h
      · rename_i hlast
        obtain ⟨front, rfl⟩ := List.getLast?_eq_some_iff.mp hlast
        cases h
        rw [List.dropLast_concat]
        rfl
      · cases h
    · cases h
  · rintro rfl
    simp [betweenQuotes?]

namespace DriverColumn

variable {type : ColumnType} {c : DriverColumn} {text : String}

/-- The text stands for the current time or for nothing. -/
def IsKeyword (s : List Char) : Prop :=
  String.ofList (Text.upper s) ∈ "NULL" :: currentTimeSpellings

/-- What a text that is no literal is read as: a number for a column of whole numbers, if it is
one, and otherwise the text. -/
def plainDefault (type : ColumnType) (s : List Char) : Value :=
  if [.smallint, .integer, .bigint].contains type then
    match Text.readInt? s with
    | some n => .int n
    | none => .text (String.ofList s)
  else .text (String.ofList s)

/-- A text that starts with a quote is no keyword. -/
theorem not_isKeyword_quoted (s : List Char) : ¬ IsKeyword ('\'' :: s) := by
  intro h
  have hupper : Text.upper ('\'' :: s) = '\'' :: Text.upper s := rfl
  have hhead : ∀ word ∈ "NULL" :: currentTimeSpellings, word.toList.head? ≠ some '\'' := by decide
  refine hhead _ h ?_
  rw [hupper, String.toList_ofList]
  rfl

/-- A text that is no keyword is taken for a literal if it stands between quotes. -/
theorem readDefault_eq (hword : ¬ IsKeyword (Text.trim s)) :
    readDefault type s = match betweenQuotes? (Text.trim s) with
      | some inside => .text (String.ofList (Text.replace ['\'', '\''] ['\''] inside))
      | none => plainDefault type (Text.trim s) := by
  obtain ⟨hnull, htime⟩ := not_or.mp (mt List.mem_cons.mpr hword)
  have htime' :
      ¬ currentTimeSpellings.contains (String.ofList (Text.upper (Text.trim s))) = true := by
    simpa using htime
  simp only [readDefault, htime', Bool.false_eq_true, if_false, hnull]
  rfl

theorem readDefault_quoted (hquoted : Text.trim s = '\'' :: t ++ ['\'']) :
    readDefault type s = .text (String.ofList (Text.replace ['\'', '\''] ['\''] t)) := by
  have hword : ¬ IsKeyword (Text.trim s) := by
    rw [hquoted]
    exact not_isKeyword_quoted _
  rw [readDefault_eq hword, betweenQuotes?_eq_some_iff.mpr hquoted]

/-- A literal is read as the text that it stands for. -/
theorem readDefault_literal (hread : Literal.read false (Text.trim s) = some (.text t, [])) :
    readDefault type s = .text (String.ofList t) := by
  have hbody : (Dialect.standard .ansi).literalBody t = Text.replaceChar '\'' ['\'', '\''] t := rfl
  rw [readDefault_quoted (Literal.read_eq_text_iff.mp hread), hbody, Text.replace_doubled]

/-- Without its quotes a text becomes another one. -/
theorem stripped_ne_plainDefault :
    Value.text (String.ofList (Text.replace ['\'', '\''] ['\''] t))
      ≠ plainDefault type ('\'' :: t ++ ['\'']) := by
  -- The text inside the quotes is shorter, and undoing doubled quotes makes it no longer.
  have hshorter : Text.replace ['\'', '\''] ['\''] t ≠ '\'' :: t ++ ['\''] := by
    intro heq
    have hlength : (Text.replace ['\'', '\''] ['\''] t).length ≤ t.length :=
      Text.length_replaceFrom_le (by decide) 0 t
    rw [heq] at hlength
    simp only [List.length_cons, List.length_append] at hlength
    omega
  have htext : Value.text (String.ofList (Text.replace ['\'', '\''] ['\''] t))
      ≠ .text (String.ofList ('\'' :: t ++ ['\''])) := fun heq =>
    hshorter (String.ofList_inj.mp (Value.text.inj heq))
  unfold plainDefault
  split
  · split
    · exact nofun
    · exact htext
  · exact htext

/-- How the text of a server default is read. -/
structure ReadsDefault (c : DriverColumn) (text : List Char) : Prop where
  /-- A literal is read as the text that it stands for. -/
  literal : ∀ s, Literal.read false text = some (.text s, []) →
    c.defaultValue = .text (String.ofList s)
  /-- Any other text is kept, or read as a number, unless it stands between quotes. -/
  plain_iff : (∀ s, Literal.read false text ≠ some (.text s, [])) →
    (c.defaultValue = plainDefault c.type.abstract text ↔
      ¬ ∃ inside, text = '\'' :: inside ++ ['\''])
  /-- In that case it loses its quotes, and doubled quotes inside become single ones. -/
  stripped : ∀ inside, text = '\'' :: inside ++ ['\''] →
    c.defaultValue = .text (String.ofList (Text.replace ['\'', '\''] ['\''] inside))

theorem defaultValue_eq (hkey : c.primaryKey = false) (hdefault : c.serverDefault? = some text) :
    c.defaultValue = readDefault c.type.abstract text.toList := by
  rw [defaultValue, hdefault, hkey]

/-- A text that the base dialect quotes is the default of a column that has it as such. -/
theorem defaultValue_quoteText (hkey : c.primaryKey = false)
    (hdefault : c.serverDefault? = some ((Dialect.standard .ansi).quoteText text)) :
    c.defaultValue = .text text := by
  have htoList : ((Dialect.standard .ansi).quoteText text).toList
      = (Dialect.standard .ansi).quoteTextChars text.toList := String.toList_ofList
  have htrimmed : Text.Trimmed ((Dialect.standard .ansi).quoteTextChars text.toList) :=
    ⟨List.cons_ne_nil _ _, rfl, by rw [Dialect.quoteTextChars, List.getLast?_concat]; rfl⟩
  rw [defaultValue_eq hkey hdefault, htoList, readDefault_literal (t := text.toList),
    String.ofList_toList]
  rw [htrimmed.trim_eq]
  exact Literal.read_eq_text_iff.mpr rfl

/-- A default that is one literal is read as the text that it stands for, and so is every text that
the base dialect quotes. Any other default is kept, or read as a number, exactly if it does not both
start and end with a quote. -/
theorem literal_defaults_iff (c : DriverColumn) (text : String) (hkey : c.primaryKey = false)
    (hdefault : c.serverDefault? = some text) (hword : ¬ IsKeyword (Text.trim text.toList)) :
    ReadsDefault c (Text.trim text.toList) ∧
      ∀ s : String, { c with serverDefault? := (Dialect.standard .ansi).quoteText s }.defaultValue
        = .text s := by
  have hvalue := defaultValue_eq hkey hdefault
  have hstripped : ∀ inside, Text.trim text.toList = '\'' :: inside ++ ['\''] →
      c.defaultValue = .text (String.ofList (Text.replace ['\'', '\''] ['\''] inside)) :=
    fun inside hquoted => by rw [hvalue, readDefault_quoted hquoted]
  refine ⟨⟨fun s hread => ?_, fun _ => ⟨fun hplain => ?_, fun hbare => ?_⟩, hstripped⟩,
    fun s => defaultValue_quoteText hkey rfl⟩
  · rw [hvalue, readDefault_literal hread]
  · rintro ⟨inside, hquoted⟩
    rw [hstripped inside hquoted, hquoted] at hplain
    exact stripped_ne_plainDefault hplain
  · have hnone : betweenQuotes? (Text.trim text.toList) = none :=
      Option.eq_none_iff_forall_ne_some.mpr fun inside hinside =>
        hbare ⟨inside, betweenQuotes?_eq_some_iff.mp hinside⟩
    rw [hvalue, readDefault_eq hword, hnone]

/-- A driver's column of a type of one class, with a server default. -/
def withDefault (ofClass : TypeClass) (text : String) : DriverColumn where
  name := "a"
  type := ⟨(· = ofClass), "A", none, none, none, none⟩
  nullable := true
  primaryKey := false
  serverDefault? := some text
  default? := none

/-- A literal with white space around it, and a number. -/
theorem literal_defaults_iff_integer :
    let c := withDefault .integer " 'it''s'\n"
    let c' := withDefault .integer "+4_2"
    ¬ IsKeyword (Text.trim " 'it''s'\n".toList) ∧ ¬ IsKeyword (Text.trim "+4_2".toList) ∧
      c.defaultValue = .text "it's" ∧ c'.defaultValue = .int 42 := by
  intro c c'
  have hquoted : ¬ IsKeyword (Text.trim " 'it''s'\n".toList) := not_isKeyword_quoted "it''s'".toList
  have hnumber : ¬ IsKeyword (Text.trim "+4_2".toList) := by
    unfold IsKeyword
    decide
  have hreads := (literal_defaults_iff c " 'it''s'\n" rfl rfl hquoted).1
  have hreads' := (literal_defaults_iff c' "+4_2" rfl rfl hnumber).1
  refine ⟨hquoted, hnumber, hreads.literal "it's".toList (by decide), ?_⟩
  have hread : Literal.read false "+4_2".toList = none := by decide
  refine (hreads'.plain_iff fun s hs => ?_).mpr ?_
  · cases hread.symm.trans hs
  · rintro ⟨inside, hinside⟩
    cases (List.cons.inj hinside).1

/-- Two literals with an operator between them are no literal, and lose their outer quotes. So does
a quote between two others. -/
theorem joined_literals_stripped :
    let c := withDefault .string "'a' || 'b'"
    let c' := withDefault .string "\'\'\'"
    (∀ s, Literal.read false "'a' || 'b'".toList ≠ some (.text s, [])) ∧
      c.defaultValue = .text "a' || 'b" ∧
      (∀ s, Literal.read false "\'\'\'".toList ≠ some (.text s, [])) ∧
      c'.defaultValue = .text "'" := by
  have hjoined : Literal.read false "'a' || 'b'".toList
      = some (.text "a".toList, " || 'b'".toList) := by decide
  have hopen : Literal.read false "\'\'\'".toList = none := by decide
  refine ⟨fun s hs => ?_, rfl, fun s hs => ?_, rfl⟩
  · cases hjoined.symm.trans hs
  · cases hopen.symm.trans hs

end DriverColumn

end SqlLoom
