import Mathlib.Data.List.Infix
import SqlLoom.Proofs.Compile
import SqlLoom.Proofs.Fragment.Bound

/-!
# `SqlLoom.Proofs.Pattern`: a pattern value stands for the texts that contain it

A database reads a LIKE pattern item by item (`readPattern?`): a percent sign stands for any text,
an underscore for any one character, and a wildcard or the escape character behind the escape
character for itself. Nothing else may be escaped. The items are then matched with the whole of a
text (`matchItems`), which together is `likeMatches`.

A pattern value is written as a pattern by replacing characters one by one. With keys of one
character `Text.substitute` is such a replacement (`Text.substitute_chars`), and the built-in
dialects put the escape character before exactly those characters that need it
(`Dialect.standard_replacement`).

* `readPattern?_escaped`: what is escaped is read as its own characters.
* `like_finds_value`: so the pattern that a test binds matches a text if and only if the value
  stands somewhere in that text, and no escape in the pattern is malformed.
-/

set_option autoImplicit false

namespace SqlLoom

/-! ### Patterns as a database reads them -/

/-- One item of a LIKE pattern. -/
inductive PatternItem where
  | anyText
  | anyChar
  | char (c : Char)
  deriving DecidableEq, Repr

/-- The item of a character that is not escaped. -/
def PatternItem.ofPlain (c : Char) : PatternItem :=
  if c = '%' then .anyText else if c = '_' then .anyChar else .char c

/-- The character has to be escaped to stand for itself. -/
def isSpecial (escape c : Char) : Bool := c == '%' || c == '_' || c == escape

/-- The items of a pattern, unless something else than a special character is escaped. -/
def readPattern? (escape : Char) : List Char → Option (List PatternItem)
  | [] => some []
  | c :: rest =>
    if c = escape then
      match rest with
      | [] => none
      | d :: rest =>
        if isSpecial escape d then (readPattern? escape rest).map (.char d :: ·) else none
    else (readPattern? escape rest).map (.ofPlain c :: ·)

/-- The items match the whole of a text. -/
def matchItems : List PatternItem → List Char → Bool
  | [], s => s.isEmpty
  | .anyText :: items, s => s.tails.any (matchItems items)
  | .anyChar :: items, s =>
    match s with
    | [] => false
    | _ :: s => matchItems items s
  | .char c :: items, s =>
    match s with
    | [] => false
    | d :: s => d == c && matchItems items s

/-- The pattern is well formed and matches the whole of a text. -/
def likeMatches (escape : Char) (pattern s : List Char) : Bool :=
  (readPattern? escape pattern).any (matchItems · s)

/-- The escape character of a dialect's patterns: the declared one, or the backslash that a database
takes where none is declared. -/
def Dialect.patternEscape (d : Dialect) : Char :=
  (d.likeEscape?.bind fun s => s.toList.head?).getD '\\'

/-! ### Matching -/

/-- Characters match where a text starts with them. -/
theorem matchItems_chars (v : List Char) (items : List PatternItem) (s : List Char) :
    matchItems (v.map .char ++ items) s = true ↔
      ∃ after, s = v ++ after ∧ matchItems items after = true := by
  induction v generalizing s with
  | nil =>
      constructor
      · intro h
        exact ⟨s, rfl, h⟩
      · rintro ⟨after, rfl, h⟩
        exact h
  | cons c v ih =>
      cases s with
      | nil => simp [matchItems]
      | cons d s =>
          show (d == c && matchItems (v.map .char ++ items) s) = true ↔ _
          rw [Bool.and_eq_true, ih, beq_iff_eq]
          constructor
          · rintro ⟨rfl, after, rfl, h⟩
            exact ⟨after, rfl, h⟩
          · rintro ⟨after, hsplit, h⟩
            obtain ⟨rfl, rfl⟩ := List.cons.inj hsplit
            exact ⟨rfl, after, rfl, h⟩

/-- A percent sign at the end matches anything. -/
theorem matchItems_anyText (s : List Char) : matchItems [.anyText] s = true := by
  rw [matchItems, List.any_eq_true]
  exact ⟨[], (List.mem_tails _ _).mpr (List.nil_suffix), rfl⟩

/-- Characters between percent signs match the texts that contain them. -/
theorem matchItems_between (v s : List Char) :
    matchItems (.anyText :: (v.map .char ++ [.anyText])) s = true ↔ v <:+: s := by
  rw [matchItems, List.any_eq_true]
  constructor
  · rintro ⟨tail, htail, h⟩
    obtain ⟨before, rfl⟩ := (List.mem_tails _ _).mp htail
    obtain ⟨after, rfl, -⟩ := (matchItems_chars v _ tail).mp h
    exact ⟨before, after, List.append_assoc _ _ _⟩
  · rintro ⟨before, after, rfl⟩
    refine ⟨v ++ after, (List.mem_tails _ _).mpr ⟨before, (List.append_assoc _ _ _).symm⟩, ?_⟩
    exact (matchItems_chars v _ _).mpr ⟨after, rfl, matchItems_anyText after⟩

/-! ### Replacing characters -/

namespace Text

/-- What a table of characters puts in the place of a character. -/
def replacement (table : List (Char × List Char)) (c : Char) : List Char :=
  ((table.find? fun e => e.1 == c).map Prod.snd).getD [c]

variable (table : List (Char × List Char))

theorem keyAt_chars_nil : keyAt (table.map fun e => ([e.1], e.2)) [] = none := by
  rw [keyAt, List.find?_map]
  simp

theorem keyAt_chars_cons (c : Char) (rest : List Char) :
    keyAt (table.map fun e => ([e.1], e.2)) (c :: rest)
      = (table.find? fun e => e.1 == c).map fun e => (1, e.2) := by
  rw [keyAt, List.find?_map, Option.map_map]
  have hkey : ((fun e : List Char × List Char => e.1.isPrefixOf (c :: rest)) ∘
      fun e : Char × List Char => ([e.1], e.2)) = fun e => e.1 == c := by
    funext e
    show (e.1 == c && [].isPrefixOf rest) = (e.1 == c)
    rw [List.isPrefixOf, Bool.and_true]
  rw [hkey]
  rfl

theorem substituteFrom_chars (s : List Char) :
    substituteFrom (table.map fun e => ([e.1], e.2)) 0 s = s.flatMap (replacement table) := by
  induction s with
  | nil => rw [substituteFrom, keyAt_chars_nil, List.flatMap_nil]
  | cons c rest ih =>
      rw [substituteFrom, keyAt_chars_cons, List.flatMap_cons, replacement]
      cases table.find? fun e => e.1 == c with
      | none => exact congrArg (c :: ·) ih
      | some e => exact congrArg (e.2 ++ ·) ih

/-- Without keys nothing is replaced. -/
theorem substituteFrom_nil (s : List Char) : substituteFrom [] 0 s = s := by
  induction s with
  | nil => rfl
  | cons c rest ih => exact congrArg (c :: ·) ih

/-- Keys are tried in the order of their length; there is no exception for a table without keys. -/
theorem substitute_eq (table : List (List Char × List Char)) (s : List Char) :
    substitute table s
      = substituteFrom (table.mergeSort fun a b => b.1.length ≤ a.1.length) 0 s := by
  rw [substitute]
  split
  · rename_i hempty
    rw [List.isEmpty_iff.mp hempty, List.mergeSort_nil, substituteFrom_nil]
  · rfl

/-- Keys of one character are replaced character by character. -/
theorem substitute_chars (s : List Char) :
    substitute (table.map fun e => ([e.1], e.2)) s = s.flatMap (replacement table) := by
  -- All keys are as long as each other, so their order stays.
  rw [substitute_eq, List.mergeSort_of_pairwise, substituteFrom_chars]
  rw [List.pairwise_map]
  exact List.pairwise_of_forall fun _ _ => by simp

end Text

/-! ### Escaping -/

/-- A character as it is written in a pattern to stand for itself. -/
def escapeChar (escape c : Char) : List Char := if isSpecial escape c then [escape, c] else [c]

theorem readPattern?_plain {escape c : Char} (h : c ≠ escape) (rest : List Char) :
    readPattern? escape (c :: rest) = (readPattern? escape rest).map (.ofPlain c :: ·) := by
  cases rest <;> simp [readPattern?, h]

theorem readPattern?_special {escape c : Char} (h : isSpecial escape c = true)
    (rest : List Char) :
    readPattern? escape (escape :: c :: rest) = (readPattern? escape rest).map (.char c :: ·) := by
  simp [readPattern?, h]

/-- What is escaped is read as its own characters. -/
theorem readPattern?_escaped {escape : Char} (v rest : List Char) :
    readPattern? escape (v.flatMap (escapeChar escape) ++ rest)
      = (readPattern? escape rest).map (v.map .char ++ ·) := by
  induction v with
  | nil => simp
  | cons c v ih =>
      rw [List.flatMap_cons, List.append_assoc, escapeChar]
      split
      · rename_i hspecial
        show readPattern? escape (escape :: c :: (v.flatMap (escapeChar escape) ++ rest)) = _
        rw [readPattern?_special hspecial, ih, Option.map_map]
        rfl
      · -- A character that is not special is neither the escape nor a wildcard.
        rename_i hplain
        simp only [isSpecial, Bool.or_eq_true, beq_iff_eq, not_or] at hplain
        obtain ⟨⟨hpercent, hunderscore⟩, hescape⟩ := hplain
        have hitem : PatternItem.ofPlain c = .char c := by
          rw [PatternItem.ofPlain, if_neg hpercent, if_neg hunderscore]
        show readPattern? escape (c :: (v.flatMap (escapeChar escape) ++ rest)) = _
        rw [readPattern?_plain hescape, hitem, ih, Option.map_map]
        rfl

/-- The value between percent signs is read as its own characters between those. -/
theorem readPattern?_contains {escape : Char} (hescape : escape ≠ '%') (v : List Char) :
    readPattern? escape ('%' :: (v.flatMap (escapeChar escape) ++ ['%']))
      = some (.anyText :: (v.map .char ++ [.anyText])) := by
  have hend : readPattern? escape ['%'] = some [.anyText] :=
    readPattern?_plain hescape.symm []
  rw [readPattern?_plain hescape.symm, readPattern?_escaped, hend]
  rfl

namespace Dialect

theorem standard_patternEscape (b : Backend) : (standard b).patternEscape ≠ '%' := by
  cases b <;> decide

/-- The characters that a built-in dialect replaces. -/
def escapedChars : Backend → List (Char × List Char)
  | .oracle => [('%', ['!', '%']), ('_', ['!', '_']), ('!', ['!', '!']), ('\\', ['\\'])]
  | _ => [('%', ['\\', '%']), ('_', ['\\', '_']), ('\\', ['\\', '\\'])]

theorem standard_likeEscapes (b : Backend) :
    ((standard b).likeEscapes.map fun e => (e.1.toList, e.2.toList))
      = (escapedChars b).map fun e => ([e.1], e.2) := by
  cases b <;> rfl

/-- A built-in dialect puts the escape character before the special characters. The backslash that
Oracle's table holds too is replaced by itself. -/
theorem standard_replacement (b : Backend) (c : Char) :
    Text.replacement (escapedChars b) c = escapeChar (standard b).patternEscape c := by
  have hbackslash : Text.replacement [('%', ['\\', '%']), ('_', ['\\', '_']),
      ('\\', ['\\', '\\'])] c = escapeChar '\\' c := by
    simp only [Text.replacement, List.find?_cons, escapeChar, isSpecial]
    grind
  cases b with
  | oracle =>
      show Text.replacement _ c = escapeChar '!' c
      simp only [escapedChars, Text.replacement, List.find?_cons, escapeChar, isSpecial]
      grind
  | _ => exact hbackslash

/-- A built-in dialect escapes the special characters of a value. -/
theorem replaceKeys_standard (b : Backend) (v : String) :
    (replaceKeys (standard b).likeEscapes v).toList
      = v.toList.flatMap (escapeChar (standard b).patternEscape) := by
  rw [replaceKeys, String.toList_ofList, standard_likeEscapes, Text.substitute_chars]
  exact congrArg (v.toList.flatMap ·) (funext (standard_replacement b))

/-- The pattern that stands for the texts that contain a value. -/
def containing (d : Dialect) (v : String) : String := "%" ++ replaceKeys d.likeEscapes v ++ "%"

theorem toList_containing (b : Backend) (v : String) :
    ((standard b).containing v).toList
      = '%' :: (v.toList.flatMap (escapeChar (standard b).patternEscape) ++ ['%']) := by
  rw [containing, String.toList_append, String.toList_append, replaceKeys_standard]
  rfl

end Dialect

/-! ### A test with one value -/

section Test

variable {d : Dialect} {column : Value} {rest : List Value}

/-- Without an escape operand the mapping of the dialect escapes a value. -/
theorem escapeBy_effectiveEscape (d : Dialect) (v : String) :
    escapeBy (effectiveEscape d .null) v = .ok (replaceKeys d.likeEscapes v) := by
  have htexts : ((d.likeEscapes.map fun e => (e.1, Value.text e.2)).map fun e =>
      (e.1, (escapeText? e.2).getD "")) = d.likeEscapes := by
    rw [List.map_map]
    exact List.map_id _
  rw [effectiveEscape, escapeBy, if_pos, htexts]
  rw [List.all_map]
  exact List.all_eq_true.mpr fun _ _ => rfl

/-- A test with one text binds the pattern of the texts that contain it. -/
theorem patternTest_text (hd : d.likeEscapes ≠ []) (any negated caseless : Bool)
    (hcolumn : column.isNull = false) (hrest : rest = [] ∨ rest = [.null]) (v : String) :
    patternTest d any negated caseless (column :: .text v :: rest)
      = .ok (columnFragment d column
          ++ .ofText (" " ++ d.likeOperator (likeWords negated caseless) ++ " ")
          ++ .bound (.text (d.containing v)) ++ .ofText d.escapeClause) := by
  have htruthy : (effectiveEscape d .null).isTruthy = true := by
    show (!(d.likeEscapes.map _).isEmpty) = true
    cases hescapes : d.likeEscapes with
    | nil => exact absurd hescapes hd
    | cons _ _ => rfl
  have hpattern : patternFragment (effectiveEscape d .null) (.text v)
      = .ok (.bound (.text (d.containing v))) := by
    rw [patternFragment_eq _ (fun _ h => Value.noConfusion h), if_pos htruthy]
    show escapeBy (effectiveEscape d .null) v >>= _ = _
    rw [escapeBy_effectiveEscape]
    rfl
  have hlike : likeFragment d any negated caseless column (.text v) .null
      = .ok (⟨(columnFragment d column).steps, []⟩
          ++ .join (if any then " OR " else " AND ") [(columnFragment d column).textOnly
            ++ .ofText (" " ++ d.likeOperator (likeWords negated caseless) ++ " ")
            ++ .bound (.text (d.containing v)) ++ .ofText d.escapeClause]) := by
    have hpatterns : [Value.text v].mapM (patternFragment (effectiveEscape d .null))
        = .ok [.bound (.text (d.containing v))] := by
      rw [List.mapM_cons, hpattern]
      rfl
    show ([Value.text v].mapM (patternFragment (effectiveEscape d .null)) >>= _) = _
    rw [hpatterns]
    rfl
  rw [Fragment.append_assoc, Fragment.append_assoc, join_textOnly, Fragment.join_singleton,
    ← Fragment.append_assoc, ← Fragment.append_assoc] at hlike
  rcases hrest with rfl | rfl
  all_goals
    rw [patternTest, hcolumn]
    exact hlike

theorem bind_bound (v : Value) (t : ParamTable) : (Fragment.bound v).bind t = t.add v := by
  show (String.join [(t.add v).1], (t.add v).2) = t.add v
  rw [String.join_cons, String.join_nil, String.append_empty]

/-- The text and the table that the test of one value gives. -/
theorem bind_patternTest (column value : Value) (words clause : String) (t : ParamTable) :
    let name := (columnFragment d column).bind t
    let bound := name.2.add value
    (columnFragment d column ++ .ofText words ++ .bound value ++ .ofText clause).bind t
      = (name.1 ++ words ++ bound.1 ++ clause, bound.2) := by
  intro name bound
  have hname := (columnFragment_stands d column).toFits.balanced
  rw [Fragment.bind_append_ofText,
    Fragment.bind_append _ _ t (hname.append (Fragment.balanced_ofText words)),
    Fragment.bind_append_ofText, bind_bound]

end Test

/-- In a built-in dialect the test of a column against one text binds one pattern, in which no
escape is malformed. As the dialect's escape character has it read, the pattern matches those texts
in which the value stands as it is, and no others. -/
theorem like_finds_value (b : Backend) (any negated caseless subqueries : Bool)
    {column : Value} (hcolumn : column.isNull = false) {rest : List Value}
    (hrest : rest = [] ∨ rest = [.null]) (v : String) :
    let d := Dialect.standard b
    let test := Value.cond (.like any negated caseless) (column :: .text v :: rest)
    ∃ f pattern, test.conditionFragment d subqueries = .ok f ∧
      (∀ t, let name := (columnFragment d column).bind t
        f.bind t = (name.1 ++ (" " ++ d.likeOperator (likeWords negated caseless) ++ " ")
          ++ (name.2.add (.text pattern)).1 ++ d.escapeClause,
          (name.2.add (.text pattern)).2)) ∧
      pattern = "%" ++ replaceKeys d.likeEscapes v ++ "%" ∧
      (readPattern? d.patternEscape pattern.toList).isSome = true ∧
      ∀ s : String, likeMatches d.patternEscape pattern.toList s.toList = true ↔
        v.toList <:+: s.toList := by
  intro d test
  have hescapes : d.likeEscapes ≠ [] := by
    cases b <;> exact List.cons_ne_nil _ _
  have hread : readPattern? d.patternEscape (d.containing v).toList
      = some (.anyText :: (v.toList.map .char ++ [.anyText])) := by
    rw [Dialect.toList_containing]
    exact readPattern?_contains (Dialect.standard_patternEscape b) v.toList
  refine ⟨_, d.containing v, patternTest_text hescapes any negated caseless hcolumn hrest v,
    fun t => bind_patternTest column _ _ _ t, rfl, ?_, fun s => ?_⟩
  · rw [hread]
    rfl
  · rw [likeMatches, hread]
    exact matchItems_between v.toList s.toList

/-- A value of special characters, against an expression, on the dialect with an escape character of
its own. -/
theorem like_finds_value_special :
    let d := Dialect.standard .oracle
    let column := Value.expr ⟨"UPPER(name)", []⟩
    column.isNull = false ∧ ([Value.null] = [] ∨ [Value.null] = [.null]) ∧
      ∃ f pattern, (Value.cond (.like true true false)
          [column, .text "5%!_\\", .null]).conditionFragment d true = .ok f ∧
        (f.bind (.ofEntries ":qp" [])).1 = "UPPER(name) NOT LIKE :qp0 ESCAPE '!'" ∧
        pattern = "%5!%!!!_\\%" ∧
        likeMatches d.patternEscape pattern.toList "in 5%!_\\ out".toList = true ∧
        likeMatches d.patternEscape pattern.toList "in 5x!_\\ out".toList = false := by
  intro d column
  obtain ⟨f, pattern, hf, hbind, hpattern, -, hmatches⟩ := @like_finds_value .oracle true true false
    true column rfl [.null] (.inr rfl) "5%!_\\"
  refine ⟨rfl, .inr rfl, f, pattern, hf, ?_, ?_, ?_, ?_⟩
  · rw [hbind, hpattern]
    decide +kernel
  · have hcontaining : (d.containing "5%!_\\").toList = "%5!%!!!_\\%".toList := by
      rw [Dialect.toList_containing]
      decide +kernel
    exact hpattern.trans (String.toList_inj.mp hcontaining)
  · exact (hmatches _).mpr ⟨"in ".toList, " out".toList, by decide⟩
  · rw [Bool.eq_false_iff, Ne, hmatches]
    decide +kernel

end SqlLoom
