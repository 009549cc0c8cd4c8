import SqlLoom.Dialect.ColumnType
import SqlLoom.Proofs.Identifier
import SqlLoom.Proofs.Literal
import SqlLoom.Proofs.Trailing

/-!
# `SqlLoom.Proofs.ColumnType`: physical types that are resolved again

`Dialect.resolveType` turns the name of an abstract type into a physical type and takes any other
text for one. Nothing tells the two apart but the word that a text starts with, and some words name
an abstract type and a physical one. `Dialect.Names` says how a text names an abstract type, and
what it is resolved to in each case are three equations (`Dialect.resolveTypeChars_bare`, `_sized`
and `_suffixed`).

* `Dialect.Settles`: why a physical type is resolved to itself. It starts with no abstract type, or
  it is one that stands for itself, or one with a size that its own type has too.
* `Dialect.Settles.resolve_sized`, `Dialect.Settles.resolve_suffixed_iff`: it is so with another
  size, and with a suffix, less a line break that ends it.
* `Dialect.settles_physicalType`: all physical types of all dialects are of this kind but double
  precision in PostgreSQL, which starts with an abstract type and does not stand for it.
* `Dialect.resolved_type_again_iff`: what is resolved stays, but for these two cases.
-/

set_option autoImplicit false

namespace SqlLoom

open Text (isWord isBlank)

variable {d : Dialect} {t : ColumnType} {s name size rest : List Char}

/-! ### Characters -/

namespace Text

variable {c : Char}

theorem isWord_of_isBlank (h : isBlank c = true) : isWord c = false := by
  have hcode := isAliasChar_blankCodes c.toNat (toNat_mem_blankCodes h)
  rw [Char.ofNat_toNat, isAliasChar, Bool.or_eq_false_iff, Bool.or_eq_false_iff] at hcode
  exact hcode.1.1

/-- At an opening parenthesis no word goes on. -/
theorem isWord_head_open (s : List Char) : ∀ c, ('(' :: s).head? = some c → isWord c = false := by
  rintro c ⟨⟩
  rfl

theorem isWord_head_blank (h : s.head?.any isBlank = true) :
    ∀ c, s.head? = some c → isWord c = false := by
  intro c hc
  rw [hc] at h
  exact isWord_of_isBlank h

/-- The word at the start of a text ends where no word goes on. -/
theorem takeWhile_word_append (h : ∀ c, rest.head? = some c → isWord c = false) :
    (s ++ rest).takeWhile isWord = s.takeWhile isWord := by
  induction s with
  | nil =>
      cases rest with
      | nil => rfl
      | cons c rest => exact List.takeWhile_cons_of_neg (by simp [h c rfl])
  | cons c s ih => rw [List.cons_append, List.takeWhile_cons, List.takeWhile_cons, ih]

theorem splitAtFirst_eq_none {sep : Char} (h : sep ∉ s) : splitAtFirst sep s = none := by
  induction s with
  | nil => rfl
  | cons c s ih =>
      obtain ⟨hc, hs⟩ := not_or.mp (mt List.mem_cons.mpr h)
      rw [splitAtFirst, if_neg (Ne.symm hc), ih hs]
      rfl

/-- A text is cut at the first separating character. -/
theorem splitAtFirst_append {sep : Char} (h : sep ∉ s) (after : List Char) :
    splitAtFirst sep (s ++ sep :: after) = some (s, after) := by
  induction s with
  | nil => exact if_pos rfl
  | cons c s ih =>
      obtain ⟨hc, hs⟩ := not_or.mp (mt List.mem_cons.mpr h)
      rw [List.cons_append, splitAtFirst, if_neg (Ne.symm hc), ih hs]
      rfl

end Text

/-! ### Names of abstract types -/

namespace ColumnType

theorem isWord_name (t : ColumnType) : ∀ c ∈ t.name.toList, isWord c = true := by
  refine List.all_eq_true.mp ?_
  cases t <;> rfl

theorem not_mem_name (t : ColumnType) {c : Char} (hc : isWord c = false) : c ∉ t.name.toList :=
  Text.not_mem_of_forall t.isWord_name hc

theorem name_ne_nil (t : ColumnType) : t.name.toList ≠ [] := by
  cases t <;> decide

theorem ofName?_eq_some_iff {name : String} : ofName? name = some t ↔ name = t.name := by
  constructor
  · intro h
    have hfound := List.find?_some h
    exact (beq_iff_eq.mp hfound).symm
  · rintro rfl
    cases t <;> decide

end ColumnType

namespace Dialect

theorem physicalOf?_eq_some_iff {physical : List Char} :
    d.physicalOf? name = some physical ↔
      ∃ t : ColumnType, name = t.name.toList ∧ physical = (d.physicalType t).toList := by
  rw [physicalOf?, Option.map_eq_some_iff]
  constructor
  · rintro ⟨t, ht, rfl⟩
    refine ⟨t, ?_, rfl⟩
    rw [← ColumnType.ofName?_eq_some_iff.mp ht, String.toList_ofList]
  · rintro ⟨t, rfl, rfl⟩
    exact ⟨t, ColumnType.ofName?_eq_some_iff.mpr (String.ofList_toList ..), rfl⟩

theorem physicalOf?_eq_none_iff :
    d.physicalOf? name = none ↔ ∀ t : ColumnType, name ≠ t.name.toList := by
  rw [Option.eq_none_iff_forall_ne_some]
  constructor
  · intro h t hname
    exact h _ (physicalOf?_eq_some_iff.mpr ⟨t, hname, rfl⟩)
  · intro h physical hphysical
    obtain ⟨t, hname, -⟩ := physicalOf?_eq_some_iff.mp hphysical
    exact h t hname

/-! ### Sizes and suffixes -/

/-- A name with a size in parentheses, and what follows it on the same line. -/
structure IsSized (name size rest : List Char) : Prop where
  name_ne : name ≠ []
  word : ∀ c ∈ name, isWord c = true
  size_ne : size ≠ []
  closed : ')' ∉ size.tail
  line : '\n' ∉ size
  behind : '\n' ∉ rest

/-- A text ends with its last line or with the break behind it. -/
theorem exists_lineEnding (s : List Char) : ∃ ending, (ending = [] ∨ ending = ['\n']) ∧
    s = (if s.getLast? = some '\n' then s.dropLast else s) ++ ending := by
  by_cases hlast : s.getLast? = some '\n'
  · obtain ⟨front, rfl⟩ := List.getLast?_eq_some_iff.mp hlast
    exact ⟨['\n'], .inr rfl, by rw [if_pos hlast, List.dropLast_concat]⟩
  · exact ⟨[], .inl rfl, by rw [if_neg hlast, List.append_nil]⟩

/-- A name with a size is split into its parts, without a break that ends the text. -/
theorem IsSized.splitSized_eq (h : IsSized name size rest) {ending : List Char}
    (hending : ending = [] ∨ ending = ['\n']) :
    splitSized (name ++ '(' :: size ++ ')' :: rest ++ ending) = some (name, size, rest) := by
  obtain ⟨first, inside, rfl⟩ := List.exists_cons_of_ne_nil h.size_ne
  have hclosed : ∀ c ∈ inside, decide (c ≠ ')') = true := fun c hc =>
    decide_eq_true fun heq => h.closed (heq ▸ hc)
  have htext : name ++ '(' :: first :: inside ++ ')' :: rest ++ ending
      = name ++ '(' :: first :: (inside ++ ')' :: (rest ++ ending)) := by simp
  have hend : ∀ c, (')' :: (rest ++ ending)).head? = some c → decide (c ≠ ')') = false := by
    rintro c ⟨⟩
    rfl
  -- Each part ends where the next one starts: the word at the parenthesis, the size at the other.
  obtain ⟨hname, hopen⟩ := Text.run_append h.word
    (Text.isWord_head_open (first :: (inside ++ ')' :: (rest ++ ending))))
  obtain ⟨hinside, hbehind⟩ := Text.run_append hclosed hend
  have hline : (if (rest ++ ending).getLast? = some '\n' then (rest ++ ending).dropLast
      else rest ++ ending) = rest := by
    rcases hending with rfl | rfl
    · rw [List.append_nil, if_neg fun hlast => h.behind (List.mem_of_getLast? hlast)]
    · rw [List.getLast?_concat, if_pos rfl, List.dropLast_concat]
  have hsize : '\n' ∉ first :: inside := h.line
  have hbehind' := h.behind
  rw [htext, splitSized, hname, hopen]
  simp only [hinside, hbehind, hline]
  rw [if_pos]
  simpa [h.name_ne] using ⟨not_or.mp (mt List.mem_cons.mpr hsize), hbehind'⟩

/-- The parts of a text that is split into a name with a size. -/
theorem isSized_of_splitSized (h : splitSized s = some (name, size, rest)) :
    IsSized name size rest ∧ ∃ ending, (ending = [] ∨ ending = ['\n']) ∧
      s = name ++ '(' :: size ++ ')' :: rest ++ ending := by
  have hword : ∀ c ∈ s.takeWhile isWord, isWord c = true :=
    fun c hc => List.mem_takeWhile_imp hc
  have hs : s.takeWhile isWord ++ s.dropWhile isWord = s := List.takeWhile_append_dropWhile
  rw [splitSized] at h
  split at h
  · -- The word ends at a parenthesis. The first character of the size may be a closing one.
    rename_i first inside hopen
    have hinside : inside.takeWhile (fun x => decide (x ≠ ')'))
        ++ inside.dropWhile (fun x => decide (x ≠ ')')) = inside :=
      List.takeWhile_append_dropWhile
    have hclosed : ')' ∉ inside.takeWhile (fun x => decide (x ≠ ')')) := fun hc => by
      simpa using List.mem_takeWhile_imp hc
    split at h
    · -- The size ends at a closing parenthesis, and the line behind that, less its break.
      rename_i behind hclose
      obtain ⟨ending, hending, hbehind⟩ := exists_lineEnding behind
      simp only at h
      generalize (if behind.getLast? = some '\n' then behind.dropLast else behind) = line
        at h hbehind
      obtain ⟨hcond, hparts⟩ := Option.ite_none_right_eq_some.mp h
      cases hparts
      simp only [Bool.and_eq_true, Bool.not_eq_true', List.isEmpty_eq_false_iff,
        List.contains_eq_mem, decide_eq_false_iff_not] at hcond
      obtain ⟨⟨hne, hsize⟩, hrest⟩ := hcond
      refine ⟨⟨hne, hword, List.cons_ne_nil _ _, hclosed, hsize, hrest⟩, ending, hending, ?_⟩
      calc s = s.takeWhile isWord ++ '(' :: first :: inside := by rw [← hopen, hs]
        _ = s.takeWhile isWord ++ '(' :: first ::
            (inside.takeWhile (fun x => decide (x ≠ ')')) ++ ')' :: (rest ++ ending)) :=
          congrArg (s.takeWhile isWord ++ '(' :: first :: ·)
            (by rw [← hbehind, ← hclose, hinside])
        _ = _ := by simp only [List.cons_append, List.append_assoc]
    · cases h
  · cases h

theorem splitSized_eq_some_iff :
    splitSized s = some (name, size, rest) ↔ IsSized name size rest ∧
      ∃ ending, (ending = [] ∨ ending = ['\n']) ∧
        s = name ++ '(' :: size ++ ')' :: rest ++ ending := by
  constructor
  · exact isSized_of_splitSized
  · rintro ⟨hsized, ending, hending, rfl⟩
    exact hsized.splitSized_eq hending

instance (name size rest : List Char) : Decidable (IsSized name size rest) :=
  decidable_of_iff (name ≠ [] ∧ name.all isWord = true ∧ size ≠ [] ∧ ')' ∉ size.tail ∧
      '\n' ∉ size ∧ '\n' ∉ rest)
    ⟨fun ⟨hname, hword, hsize, hclosed, hline, hbehind⟩ =>
      ⟨hname, List.all_eq_true.mp hword, hsize, hclosed, hline, hbehind⟩,
    fun h => ⟨h.name_ne, List.all_eq_true.mpr h.word, h.size_ne, h.closed, h.line, h.behind⟩⟩

theorem splitSuffixed_eq_some_iff :
    splitSuffixed s = some (name, rest) ↔ name ≠ [] ∧ (∀ c ∈ name, isWord c = true) ∧
      rest.head?.any isBlank = true ∧ s = name ++ rest := by
  constructor
  · intro h
    rw [splitSuffixed] at h
    split at h
    · rename_i c behind hdrop
      split at h
      · rename_i hcond
        cases h
        simp only [Bool.and_eq_true, Bool.not_eq_true', List.isEmpty_eq_false_iff] at hcond
        refine ⟨hcond.1, fun c hc => List.mem_takeWhile_imp hc, hcond.2, ?_⟩
        rw [← hdrop, List.takeWhile_append_dropWhile]
      · cases h
    · cases h
  · rintro ⟨hne, hword, hblank, rfl⟩
    cases rest with
    | nil => cases hblank
    | cons c behind =>
        obtain ⟨hname, hrest⟩ := Text.run_append hword (Text.isWord_head_blank hblank)
        have hcond : (!name.isEmpty && isBlank c) = true := by
          simpa [hne] using hblank
        simp only [splitSuffixed, hname, hrest, hcond, if_true]

/-! ### How a text names an abstract type -/

/-- A text that names an abstract type: by itself, with a size, where a last line break does not
count, or with a suffix. -/
inductive Names (t : ColumnType) : List Char → Prop where
  | bare : Names t t.name.toList
  | sized {size rest ending : List Char} (h : IsSized t.name.toList size rest)
      (hending : ending = [] ∨ ending = ['\n']) :
      Names t (t.name.toList ++ '(' :: size ++ ')' :: rest ++ ending)
  | suffixed {rest : List Char} (h : rest.head?.any isBlank = true) :
      Names t (t.name.toList ++ rest)

theorem physicalOf?_name (d : Dialect) (t : ColumnType) :
    d.physicalOf? t.name.toList = some (d.physicalType t).toList :=
  physicalOf?_eq_some_iff.mpr ⟨t, rfl, rfl⟩

/-- What has a character that no word has is no name. -/
theorem physicalOf?_eq_none {c : Char} (hc : c ∈ s) (hword : isWord c = false) :
    d.physicalOf? s = none := by
  rw [physicalOf?_eq_none_iff]
  rintro t rfl
  exact t.not_mem_name hword hc

/-- Where white space follows a word no parenthesis does. -/
theorem append_open_ne_suffixed (hword : ∀ c ∈ name, isWord c = true)
    (h : rest.head?.any isBlank = true) (behind : List Char) :
    name ++ '(' :: behind ≠ t.name.toList ++ rest := by
  intro heq
  obtain ⟨-, hrest⟩ := Text.run_append t.isWord_name (Text.isWord_head_blank h)
  obtain ⟨-, hopen⟩ := Text.run_append hword (Text.isWord_head_open behind)
  rw [← heq, hopen] at hrest
  rw [← hrest] at h
  cases h

theorem sized_ne_suffixed (hword : ∀ c ∈ name, isWord c = true) (h : rest.head?.any isBlank = true)
    (size tail ending : List Char) :
    name ++ '(' :: size ++ ')' :: tail ++ ending ≠ t.name.toList ++ rest := by
  rw [List.append_assoc, List.append_assoc, List.cons_append]
  exact append_open_ne_suffixed hword h _

/-- Where white space follows a name there is no size. -/
theorem splitSized_suffixed (h : rest.head?.any isBlank = true) :
    splitSized (t.name.toList ++ rest) = none := by
  rw [Option.eq_none_iff_forall_ne_some]
  rintro ⟨name, size, behind⟩ hsplit
  obtain ⟨hsized, ending, -, heq⟩ := splitSized_eq_some_iff.mp hsplit
  exact sized_ne_suffixed hsized.word h _ _ _ heq.symm

/-! ### What a text is resolved to -/

/-- A type that is named by itself. -/
theorem resolveTypeChars_bare (d : Dialect) (t : ColumnType) :
    d.resolveTypeChars t.name.toList = .ok (d.physicalType t).toList := by
  rw [resolveTypeChars, physicalOf?_name]

/-- A type that is named with a size. -/
theorem resolveTypeChars_sized (d : Dialect) (h : IsSized t.name.toList size rest)
    {ending : List Char} (hending : ending = [] ∨ ending = ['\n']) :
    d.resolveTypeChars (t.name.toList ++ '(' :: size ++ ')' :: rest ++ ending)
      = (withSize (d.physicalType t).toList size).map (· ++ rest) := by
  have hnone : d.physicalOf? (t.name.toList ++ '(' :: size ++ ')' :: rest ++ ending) = none :=
    physicalOf?_eq_none (c := '(') (by simp) rfl
  rw [resolveTypeChars, hnone, h.splitSized_eq hending]
  simp only [Option.bind_eq_bind, Option.bind_some, physicalOf?_name]
  show (withSize (d.physicalType t).toList size >>= fun resized => .ok (resized ++ rest)) = _
  cases withSize (d.physicalType t).toList size <;> rfl

/-- A type that is named with a suffix. -/
theorem resolveTypeChars_suffixed (d : Dialect) (h : rest.head?.any isBlank = true) :
    d.resolveTypeChars (t.name.toList ++ rest) = .ok ((d.physicalType t).toList ++ rest) := by
  have hnone : d.physicalOf? (t.name.toList ++ rest) = none := by
    cases rest with
    | nil => cases h
    | cons c behind => exact physicalOf?_eq_none (by simp) (Text.isWord_of_isBlank h)
  have hsplit : splitSuffixed (t.name.toList ++ rest) = some (t.name.toList, rest) :=
    splitSuffixed_eq_some_iff.mpr ⟨t.name_ne_nil, t.isWord_name, h, rfl⟩
  rw [resolveTypeChars, hnone, splitSized_suffixed h, hsplit]
  simp [physicalOf?_name]

/-- A text that names no abstract type is a physical type already. -/
theorem resolveTypeChars_unnamed (d : Dialect) (h : ∀ t, ¬ Names t s) :
    d.resolveTypeChars s = .ok s := by
  have hbare : d.physicalOf? s = none := by
    rw [physicalOf?_eq_none_iff]
    rintro t rfl
    exact h t .bare
  have hsized : ∀ name size rest, splitSized s = some (name, size, rest) →
      d.physicalOf? name = none := by
    intro name size rest hsplit
    obtain ⟨hsized, ending, hending, rfl⟩ := splitSized_eq_some_iff.mp hsplit
    rw [physicalOf?_eq_none_iff]
    rintro t rfl
    exact h t (.sized hsized hending)
  have hsuffixed : ∀ name rest, splitSuffixed s = some (name, rest) →
      d.physicalOf? name = none := by
    intro name rest hsplit
    obtain ⟨-, -, hblank, rfl⟩ := splitSuffixed_eq_some_iff.mp hsplit
    rw [physicalOf?_eq_none_iff]
    rintro t rfl
    exact h t (.suffixed hblank)
  -- Whichever parts the text has, their names are those of no abstract type.
  rw [resolveTypeChars, hbare]
  rcases hsplit : splitSized s with _ | ⟨name, size, rest⟩ <;>
    rcases hsplit' : splitSuffixed s with _ | ⟨name', rest'⟩
  · rfl
  · simp [hsuffixed _ _ hsplit']
  · simp [hsized _ _ _ hsplit]
  · simp [hsized _ _ _ hsplit, hsuffixed _ _ hsplit']

/-! ### Sizes of physical types -/

variable {physical inside tail : List Char}

/-- Without a backslash there are no escapes. -/
theorem resolveEscapes_eq_self (replaced : List Char) (h : '\\' ∉ size) :
    resolveEscapes replaced 0 size = .ok size := by
  induction size with
  | nil => rfl
  | cons c size ih =>
      obtain ⟨hc, hsize⟩ := not_or.mp (mt List.mem_cons.mpr h)
      rw [resolveEscapes.eq_def]
      split
      · rename_i heq _
        cases heq
      · rename_i heq
        cases heq
        exact absurd rfl hc
      · rename_i heq
        cases heq
        rw [ih hsize]
        rfl
      · rename_i heq
        cases heq

/-- A size goes behind a physical type that has none. -/
theorem withSize_bare (h : '(' ∉ physical) (size : List Char) :
    withSize physical size = .ok (physical ++ '(' :: size ++ [')']) := by
  rw [withSize, Text.splitAtFirst_eq_none h]

/-- A size takes the place of the one that a physical type has. -/
theorem withSize_sized (hname : '(' ∉ name) (htail : ')' ∉ tail) (hsize : '\\' ∉ size) :
    withSize (name ++ '(' :: inside ++ ')' :: tail) size
      = .ok (name ++ '(' :: size ++ ')' :: tail) := by
  have htext : name ++ '(' :: inside ++ ')' :: tail = name ++ '(' :: (inside ++ ')' :: tail) := by
    simp
  rw [htext, withSize, Text.splitAtFirst_append hname]
  simp only [Text.splitAtLast_append htail, resolveEscapes_eq_self _ hsize]
  rfl

/-- Without a backslash every size has its place. -/
theorem exists_withSize (physical : List Char) (hsize : '\\' ∉ size) :
    ∃ resized, withSize physical size = .ok resized := by
  rw [withSize]
  split
  · exact ⟨_, rfl⟩
  · split
    · rw [resolveEscapes_eq_self _ hsize]
      exact ⟨_, rfl⟩
    · exact ⟨_, rfl⟩

/-- A size does not change the word that a physical type starts with. -/
theorem takeWhile_withSize {resized : List Char} (h : withSize physical size = .ok resized)
    (rest : List Char) : (resized ++ rest).takeWhile isWord = physical.takeWhile isWord := by
  have hopen (before behind : List Char) :
      (before ++ '(' :: behind).takeWhile isWord = before.takeWhile isWord :=
    Text.takeWhile_word_append (Text.isWord_head_open _)
  -- Either way the word ends at the first parenthesis, and what is in front of it is kept.
  by_cases hmem : '(' ∈ physical
  · obtain ⟨before, behind, rfl, hbefore⟩ := List.eq_append_cons_of_mem hmem
    rw [withSize, Text.splitAtFirst_append hbefore] at h
    simp only at h
    split at h
    · rename_i inside after _
      cases hescapes : resolveEscapes ('(' :: inside ++ [')']) 0 size with
      | error e =>
          rw [hescapes] at h
          cases h
      | ok text =>
          rw [hescapes] at h
          cases h
          rw [hopen, List.append_assoc, List.append_assoc, List.cons_append, hopen]
    · cases h
      rw [hopen, List.append_assoc, List.cons_append, hopen]
  · rw [withSize_bare hmem] at h
    cases h
    rw [List.append_assoc, List.append_assoc, List.cons_append, hopen]

/-! ### Physical types that stay -/

/-- A physical type that is resolved to itself, by the physical types of all abstract ones: it
starts with no abstract type, or it is one and stands for itself, or it is one with a size. -/
inductive Settles (types : ColumnType → String) (physical : List Char) : Prop where
  | foreign (h : ColumnType.ofName? (String.ofList (physical.takeWhile isWord)) = none)
  | own (t : ColumnType) (hname : physical = t.name.toList)
      (htype : (types t).toList = t.name.toList)
  | sized (t : ColumnType) (size own tail : List Char) (hsized : IsSized t.name.toList size tail)
      (hescape : '\\' ∉ size) (hclosed : ')' ∉ tail)
      (hphysical : physical = t.name.toList ++ '(' :: size ++ ')' :: tail)
      (htype : (types t).toList = t.name.toList ++ '(' :: own ++ [')'])

theorem settles_ansi (t : ColumnType) : Settles ansiType (ansiType t).toList := by
  cases t <;> exact .foreign (by decide)

theorem settles_oracle (t : ColumnType) : Settles oracleType (oracleType t).toList := by
  cases t <;> exact .foreign (by decide)

theorem settles_mysql (t : ColumnType) : Settles mysqlType (mysqlType t).toList := by
  cases t with
  | pk | upk | string | integer | binary | boolean => exact .foreign (by decide)
  | text => exact .own .text rfl rfl
  | float => exact .own .float rfl rfl
  | double => exact .own .double rfl rfl
  | datetime => exact .own .datetime rfl rfl
  | timestamp => exact .own .timestamp rfl rfl
  | time => exact .own .time rfl rfl
  | date => exact .own .date rfl rfl
  | char => exact .sized .char "1".toList "1".toList [] (by decide) (by decide) (by decide) rfl rfl
  | smallint =>
      exact .sized .smallint "6".toList "6".toList [] (by decide) (by decide) (by decide) rfl rfl
  | bigint =>
      exact .sized .bigint "20".toList "20".toList [] (by decide) (by decide) (by decide) rfl rfl
  | decimal =>
      exact .sized .decimal "10,0".toList "10,0".toList [] (by decide) (by decide) (by decide)
        rfl rfl
  | money =>
      exact .sized .decimal "19,4".toList "10,0".toList [] (by decide) (by decide) (by decide)
        rfl rfl
  | bigpk =>
      exact .sized .bigint "20".toList "20".toList " NOT NULL AUTO_INCREMENT PRIMARY KEY".toList
        (by decide) (by decide) (by decide) rfl rfl
  | ubigpk =>
      exact .sized .bigint "20".toList "20".toList
        " UNSIGNED NOT NULL AUTO_INCREMENT PRIMARY KEY".toList (by decide) (by decide) (by decide)
        rfl rfl

/-- All physical types of PostgreSQL stay but double precision. -/
theorem settles_postgres (hfloat : t ≠ .float) (hdouble : t ≠ .double) :
    Settles postgresType (postgresType t).toList := by
  cases t with
  | float => exact absurd rfl hfloat
  | double => exact absurd rfl hdouble
  | pk | upk | bigpk | ubigpk | string | decimal | money | binary => exact .foreign (by decide)
  | text => exact .own .text rfl rfl
  | smallint => exact .own .smallint rfl rfl
  | integer => exact .own .integer rfl rfl
  | bigint => exact .own .bigint rfl rfl
  | date => exact .own .date rfl rfl
  | boolean => exact .own .boolean rfl rfl
  | char => exact .sized .char "1".toList "1".toList [] (by decide) (by decide) (by decide) rfl rfl
  | datetime | timestamp =>
      exact .sized .timestamp "0".toList "0".toList [] (by decide) (by decide) (by decide) rfl rfl
  | time => exact .sized .time "0".toList "0".toList [] (by decide) (by decide) (by decide) rfl rfl

/-! ### Resolving again -/

/-- The physical type is an abstract one with a size. -/
def IsSizedType (physical : List Char) : Prop :=
  ∃ (t : ColumnType) (size tail : List Char),
    physical = t.name.toList ++ '(' :: size ++ ')' :: tail

theorem ne_name_of_foreign (h : ColumnType.ofName? (String.ofList (s.takeWhile isWord)) = none)
    (t : ColumnType) : s.takeWhile isWord ≠ t.name.toList := by
  intro hname
  rw [hname, String.ofList_toList, ColumnType.ofName?_eq_some_iff.mpr rfl] at h
  cases h

theorem Names.takeWhile_eq (h : Names t s) : s.takeWhile isWord = t.name.toList := by
  have hname : t.name.toList.takeWhile isWord = t.name.toList :=
    List.takeWhile_eq_self_iff.mpr t.isWord_name
  cases h with
  | bare => exact hname
  | sized h hending =>
      rw [List.append_assoc, List.append_assoc, List.cons_append,
        Text.takeWhile_word_append (Text.isWord_head_open _), hname]
  | suffixed h => rw [Text.takeWhile_word_append (Text.isWord_head_blank h), hname]

theorem Names.eq {t' : ColumnType} (h : Names t s) (h' : Names t' s) : t = t' := by
  have hname := h.takeWhile_eq.symm.trans h'.takeWhile_eq
  have hfound := ColumnType.ofName?_eq_some_iff.mpr (String.toList_inj.mp hname)
  rw [ColumnType.ofName?_eq_some_iff.mpr rfl] at hfound
  exact Option.some.inj hfound

/-- A text that starts with no abstract type is a physical type already. -/
theorem resolveTypeChars_foreign (d : Dialect)
    (h : ColumnType.ofName? (String.ofList (s.takeWhile isWord)) = none) :
    d.resolveTypeChars s = .ok s :=
  resolveTypeChars_unnamed d fun t hnames => ne_name_of_foreign h t hnames.takeWhile_eq

/-- An abstract type with a size stays where the physical type is of the same name, less a last line
break. -/
theorem resolveTypeChars_resized {own ending : List Char}
    (htype : (d.physicalType t).toList = t.name.toList ++ '(' :: own ++ [')'])
    (hsized : IsSized t.name.toList size rest) (hescape : '\\' ∉ size)
    (hending : ending = [] ∨ ending = ['\n']) :
    d.resolveTypeChars (t.name.toList ++ '(' :: size ++ ')' :: rest ++ ending)
      = .ok (t.name.toList ++ '(' :: size ++ ')' :: rest) := by
  rw [resolveTypeChars_sized d hsized hending, htype,
    withSize_sized (t.not_mem_name rfl) List.not_mem_nil hescape]
  simp [Except.map]

theorem not_isSizedType_of_foreign
    (h : ColumnType.ofName? (String.ofList (s.takeWhile isWord)) = none) : ¬ IsSizedType s := by
  rintro ⟨t, size, tail, rfl⟩
  refine ne_name_of_foreign h t ?_
  rw [List.append_assoc, List.cons_append, Text.takeWhile_word_append (Text.isWord_head_open _)]
  exact List.takeWhile_eq_self_iff.mpr t.isWord_name

theorem not_isSizedType_name (t : ColumnType) : ¬ IsSizedType t.name.toList := by
  rintro ⟨t', size, tail, hname⟩
  refine t.not_mem_name (c := '(') rfl ?_
  rw [hname]
  simp

/-- A text that names a type with a size has no line break but a last one. -/
theorem IsSized.line_eq {front ending : List Char} (hsized : IsSized name size tail)
    (hending : ending = [] ∨ ending = ['\n'])
    (heq : front ++ rest = name ++ '(' :: size ++ ')' :: tail ++ ending) (hline : '\n' ∈ rest) :
    ∃ line, rest = line ++ ['\n'] ∧ '\n' ∉ line := by
  have hclean : '\n' ∉ name ++ '(' :: size ++ ')' :: tail := by
    have hname : '\n' ∉ name := Text.not_mem_of_forall hsized.word rfl
    simp [hname, hsized.line, hsized.behind]
  rcases hending with rfl | rfl
  · rw [List.append_nil] at heq
    exact absurd (heq ▸ List.mem_append_right front hline) hclean
  · rcases List.eq_nil_or_concat rest with rfl | ⟨line, c, rfl⟩
    · cases hline
    · rw [List.concat_eq_append, ← List.append_assoc] at heq
      rw [List.concat_eq_append] at hline ⊢
      obtain ⟨hfront, hlast⟩ := List.append_inj' heq rfl
      obtain rfl : c = '\n' := (List.cons.inj hlast).1
      exact ⟨line, rfl, fun hmem => hclean (hfront ▸ List.mem_append_right front hmem)⟩

/-- With a suffix such a type stays if the suffix is on one line, which no break ends. With a break
inside the suffix it names no abstract type at all. -/
theorem resolveTypeChars_resized_iff {own : List Char}
    (htype : (d.physicalType t).toList = t.name.toList ++ '(' :: own ++ [')'])
    (hsized : IsSized t.name.toList size tail) (hescape : '\\' ∉ size) :
    d.resolveTypeChars (t.name.toList ++ '(' :: size ++ ')' :: tail ++ rest)
        = .ok (t.name.toList ++ '(' :: size ++ ')' :: tail ++ rest) ↔
      ¬ ∃ line, rest = line ++ ['\n'] ∧ '\n' ∉ line := by
  have hlonger {line : List Char} (hline : '\n' ∉ line) :
      IsSized t.name.toList size (tail ++ line) :=
    ⟨t.name_ne_nil, t.isWord_name, hsized.size_ne, hsized.closed, hsized.line,
      by simp [hline, hsized.behind]⟩
  -- A break at the end is dropped, one inside hides the size, and without any the size is found.
  by_cases hbreak : '\n' ∈ rest
  · by_cases hlast : ∃ line, rest = line ++ ['\n'] ∧ '\n' ∉ line
    · refine iff_of_false (fun heq => ?_) (not_not.mpr hlast)
      obtain ⟨line, rfl, hline⟩ := hlast
      have hresized := resolveTypeChars_resized htype (hlonger hline) hescape (.inr rfl)
      have hlength := congrArg List.length
        (Except.ok.inj (hresized.symm.trans (by simpa using heq)))
      simp at hlength
    · refine iff_of_true (resolveTypeChars_unnamed d fun t' hnames => ?_) hlast
      generalize hs : t.name.toList ++ '(' :: size ++ ')' :: tail ++ rest = s at hnames
      cases hnames with
      | bare => exact t'.not_mem_name (c := '(') rfl (hs ▸ by simp)
      | sized h hending => exact hlast (h.line_eq hending hs hbreak)
      | suffixed h => exact sized_ne_suffixed t.isWord_name h _ _ _ hs
  · refine iff_of_true ?_ fun ⟨line, hrest, _⟩ => hbreak (hrest ▸ by simp)
    have hresized := resolveTypeChars_resized htype (hlonger hbreak) hescape (.inl rfl)
    simpa using hresized

namespace Settles

variable (h : Settles d.physicalType physical)

include h

/-- A physical type stays. -/
theorem resolve_bare : d.resolveTypeChars physical = .ok physical := by
  cases h with
  | foreign h => exact resolveTypeChars_foreign d h
  | own t hname htype => rw [hname, resolveTypeChars_bare, htype]
  | sized t size own tail hsized hescape hclosed hphysical htype =>
      have hresized := resolveTypeChars_resized htype hsized hescape (.inl rfl)
      rwa [List.append_nil, ← hphysical] at hresized

/-- With a size it stays. -/
theorem resolve_sized (hsized : IsSized name size rest) (hescape : '\\' ∉ size)
    {resized : List Char} (hresized : withSize physical size = .ok resized) :
    d.resolveTypeChars (resized ++ rest) = .ok (resized ++ rest) := by
  have hsized' (t : ColumnType) {tail : List Char} (htail : '\n' ∉ tail) :
      IsSized t.name.toList size (tail ++ rest) :=
    ⟨t.name_ne_nil, t.isWord_name, hsized.size_ne, hsized.closed, hsized.line,
      by simp [htail, hsized.behind]⟩
  cases h with
  | foreign h => exact resolveTypeChars_foreign d (by rwa [takeWhile_withSize hresized])
  | own t hname htype =>
      have hresolved := resolveTypeChars_sized d (hsized' t List.not_mem_nil) (.inl rfl)
      rw [htype, withSize_bare (t.not_mem_name rfl)] at hresolved
      rw [hname, withSize_bare (t.not_mem_name rfl)] at hresized
      cases hresized
      simpa [Except.map] using hresolved
  | sized t inside own tail hinside hinner hclosed hphysical htype =>
      have hresolved := resolveTypeChars_resized htype (hsized' t hinside.behind) hescape (.inl rfl)
      rw [hphysical, withSize_sized (t.not_mem_name rfl) hclosed hescape] at hresized
      cases hresized
      simpa using hresolved

/-- With a suffix it stays, unless the suffix is a line break, and the physical type one with a
size. -/
theorem resolve_suffixed_iff (hblank : rest.head?.any isBlank = true) :
    d.resolveTypeChars (physical ++ rest) = .ok (physical ++ rest) ↔
      ¬ (IsSizedType physical ∧ ∃ line, rest = line ++ ['\n'] ∧ '\n' ∉ line) := by
  cases h with
  | foreign h =>
      refine iff_of_true (resolveTypeChars_foreign d ?_) fun hsized =>
        not_isSizedType_of_foreign h hsized.1
      rwa [Text.takeWhile_word_append (Text.isWord_head_blank hblank)]
  | own t hname htype =>
      refine iff_of_true ?_ fun hsized => not_isSizedType_name t (hname ▸ hsized.1)
      rw [hname, resolveTypeChars_suffixed d hblank, htype]
  | sized t size own tail hsized hescape hclosed hphysical htype =>
      have hnamed : IsSizedType physical := ⟨t, size, tail, hphysical⟩
      rw [hphysical, resolveTypeChars_resized_iff htype hsized hescape, ← hphysical]
      exact not_congr (and_iff_right hnamed).symm

end Settles

/-- All physical types stay but the one of PostgreSQL that starts with an abstract type. -/
theorem settles_physicalType (d : Dialect)
    (ht : ¬ (d.backend = .postgres ∧ (t = .float ∨ t = .double))) :
    Settles d.physicalType (d.physicalType t).toList := by
  rcases hbackend : d.backend with _ | _ | _ | _
  · have heq : d.physicalType = ansiType := funext fun t => by rw [physicalType, hbackend]
    exact heq ▸ settles_ansi t
  · have heq : d.physicalType = mysqlType := funext fun t => by rw [physicalType, hbackend]
    exact heq ▸ settles_mysql t
  · have heq : d.physicalType = postgresType := funext fun t => by rw [physicalType, hbackend]
    obtain ⟨hfloat, hdouble⟩ := not_or.mp fun h => ht ⟨hbackend, h⟩
    exact heq ▸ settles_postgres hfloat hdouble
  · have heq : d.physicalType = oracleType := funext fun t => by rw [physicalType, hbackend]
    exact heq ▸ settles_oracle t

/-- Double precision starts with the name of an abstract type, and PostgreSQL takes its second word
for a suffix. -/
theorem resolveTypeChars_precision (hbackend : d.backend = .postgres) (x : List Char) :
    d.resolveTypeChars ("double precision".toList ++ x)
      = .ok ("double precision precision".toList ++ x) := by
  have hdouble : d.physicalType .double = "double precision" := by rw [physicalType, hbackend]; rfl
  have hresolved :
      d.resolveTypeChars (ColumnType.double.name.toList ++ (" precision".toList ++ x)) = _ :=
    resolveTypeChars_suffixed d rfl
  rw [hdouble] at hresolved
  exact hresolved

/-- A text that names an abstract type of PostgreSQL's double precision is resolved further each
time. -/
theorem resolve_precision_ne (hbackend : d.backend = .postgres) (ht : t = .float ∨ t = .double)
    (hnames : Names t s) :
    ∃ p, d.resolveTypeChars s = .ok p ∧ d.resolveTypeChars p ≠ .ok p := by
  have htype : (d.physicalType t).toList = "double precision".toList := by
    rcases ht with rfl | rfl <;> rw [physicalType, hbackend] <;> rfl
  have hstarts : ∃ x, d.resolveTypeChars s = .ok ("double precision".toList ++ x) := by
    cases hnames with
    | bare => exact ⟨[], by rw [resolveTypeChars_bare, htype, List.append_nil]⟩
    | @sized size rest ending h hending =>
        refine ⟨'(' :: size ++ [')'] ++ rest, ?_⟩
        rw [resolveTypeChars_sized d h hending, htype, withSize_bare (by decide)]
        simp only [Except.map, List.append_assoc]
    | suffixed h => exact ⟨_, by rw [resolveTypeChars_suffixed d h, htype]⟩
  obtain ⟨x, hx⟩ := hstarts
  refine ⟨_, hx, ?_⟩
  rw [resolveTypeChars_precision hbackend]
  -- The second time the text is longer by a word.
  intro heq
  have hlength := congrArg List.length (Except.ok.inj heq)
  rw [List.length_append, List.length_append] at hlength
  exact absurd (Nat.add_right_cancel hlength) (by decide)

/-- The texts whose physical type is not resolved to itself. -/
inductive IsResolvedFurther (d : Dialect) (s : List Char) : Prop where
  /-- In PostgreSQL, all that name one of the two abstract types of double precision. -/
  | precision (t : ColumnType) (hbackend : d.backend = .postgres) (ht : t = .float ∨ t = .double)
      (hnames : Names t s)
  /-- Where the physical type is an abstract one with a size, a suffix that a line break ends. -/
  | lineBreak (t : ColumnType) (hsized : IsSizedType (d.physicalType t).toList) (line : List Char)
      (hs : s = t.name.toList ++ (line ++ ['\n'])) (hline : '\n' ∉ line)
      (hblank : (line ++ ['\n']).head?.any isBlank = true)

theorem IsResolvedFurther.exists_names (h : d.IsResolvedFurther s) : ∃ t, Names t s := by
  cases h with
  | precision t hbackend ht hnames => exact ⟨t, hnames⟩
  | lineBreak t hsized line hs hline hblank => exact ⟨t, hs ▸ .suffixed hblank⟩

/-- A text that names another abstract type is resolved further only for its last line break. -/
theorem resolve_named_iff (hnames : Names t s) (hescape : '\\' ∉ s)
    (ht : ¬ (d.backend = .postgres ∧ (t = .float ∨ t = .double))) :
    ∃ p, d.resolveTypeChars s = .ok p ∧
      (d.resolveTypeChars p = .ok p ↔ ¬ d.IsResolvedFurther s) := by
  have hsettles := settles_physicalType d ht
  -- The text starts with one abstract type only, so the first of the two cases is out.
  have hother {t' : ColumnType} (hbackend : d.backend = .postgres)
      (ht' : t' = .float ∨ t' = .double) : ¬ Names t' s := fun hnames' =>
    ht ⟨hbackend, hnames.eq hnames' ▸ ht'⟩
  cases hnames with
  | bare =>
      refine ⟨_, resolveTypeChars_bare d t, iff_of_true hsettles.resolve_bare fun hfurther => ?_⟩
      cases hfurther with
      | precision t' hbackend ht' hnames' => exact hother hbackend ht' hnames'
      | lineBreak t' hsized line hs hline hblank =>
          exact t.not_mem_name (c := '\n') rfl (hs ▸ by simp)
  | @sized size rest ending h hending =>
      have hsize : '\\' ∉ size := fun hmem => hescape (by simp [hmem])
      obtain ⟨resized, hresized⟩ := exists_withSize (d.physicalType t).toList hsize
      refine ⟨resized ++ rest, ?_,
        iff_of_true (hsettles.resolve_sized h hsize hresized) fun hfurther => ?_⟩
      · rw [resolveTypeChars_sized d h hending, hresized]
        rfl
      cases hfurther with
      | precision t' hbackend ht' hnames' => exact hother hbackend ht' hnames'
      | lineBreak t' hsized line hs hline hblank =>
          exact sized_ne_suffixed t.isWord_name hblank _ _ _ hs
  | suffixed hblank =>
      refine ⟨_, resolveTypeChars_suffixed d hblank, ?_⟩
      rw [hsettles.resolve_suffixed_iff hblank]
      refine not_congr ⟨?_, fun hfurther => ?_⟩
      · rintro ⟨hsized, line, rfl, hline⟩
        exact .lineBreak t hsized line rfl hline hblank
      · cases hfurther with
        | precision t' hbackend ht' hnames' => exact absurd hnames' (hother hbackend ht')
        | lineBreak t' hsized line hs hline hblank' =>
            obtain rfl : t = t' := Names.eq (.suffixed hblank) (hs ▸ .suffixed hblank')
            exact ⟨hsized, line, List.append_cancel_left hs, hline⟩

/-- Any text without backslashes, as a list of characters. -/
theorem resolveTypeChars_again_iff (hs : '\\' ∉ s) :
    ∃ p, d.resolveTypeChars s = .ok p ∧
      (d.resolveTypeChars p = .ok p ↔ ¬ d.IsResolvedFurther s) := by
  by_cases hnamed : ∃ t, Names t s
  · obtain ⟨t, hnames⟩ := hnamed
    by_cases ht : d.backend = .postgres ∧ (t = .float ∨ t = .double)
    · obtain ⟨p, hp, hne⟩ := resolve_precision_ne ht.1 ht.2 hnames
      exact ⟨p, hp, iff_of_false hne (not_not.mpr (.precision t ht.1 ht.2 hnames))⟩
    · exact resolve_named_iff hnames hs ht
  · have hphysical := resolveTypeChars_unnamed d (not_exists.mp hnamed)
    exact ⟨_, hphysical, iff_of_true hphysical fun hfurther => hnamed hfurther.exists_names⟩

theorem resolveType_text (d : Dialect) (s : String) :
    d.resolveType (.text s) = (d.resolveTypeChars s.toList).map String.ofList := by
  show (d.resolveTypeChars s.toList >>= fun p => .ok (String.ofList p)) = _
  cases d.resolveTypeChars s.toList <;> rfl

/-- A text without backslashes has a physical type in every dialect, and that is resolved to itself
unless it is double precision in PostgreSQL, or a line break that ends a suffix is dropped from
it. -/
theorem resolved_type_again_iff (d : Dialect) (s : String) (hs : '\\' ∉ s.toList) :
    ∃ p, d.resolveType (.text s) = .ok p ∧
      (d.resolveType (.text p) = .ok p ↔ ¬ d.IsResolvedFurther s.toList) := by
  obtain ⟨p, hp, hagain⟩ := d.resolveTypeChars_again_iff hs
  refine ⟨String.ofList p, by rw [resolveType_text, hp]; rfl, ?_⟩
  rw [resolveType_text, String.toList_ofList, ← hagain]
  cases d.resolveTypeChars p with
  | error e => exact iff_of_false (fun h => by cases h) fun h => by cases h
  | ok q =>
      constructor
      · intro h
        rw [String.ofList_inj.mp (Except.ok.inj h)]
      · intro h
        rw [h]
        rfl

/-- A size takes the place of MySQL's own, and is kept the second time. -/
theorem resolved_type_again_iff_sized :
    let d := Dialect.standard .mysql
    let s := "smallint(4) UNSIGNED\n"
    '\\' ∉ s.toList ∧ d.resolveType (.text s) = .ok "smallint(4) UNSIGNED" ∧
      d.resolveType (.text "smallint(4) UNSIGNED") = .ok "smallint(4) UNSIGNED" := by
  refine ⟨by decide, rfl, ?_⟩
  obtain ⟨p, hp, hagain⟩ :=
    resolved_type_again_iff (.standard .mysql) "smallint(4) UNSIGNED\n" (by decide)
  obtain rfl : "smallint(4) UNSIGNED" = p := Except.ok.inj hp
  refine hagain.mpr fun hfurther => ?_
  cases hfurther with
  | precision t hbackend => cases hbackend
  | lineBreak t hsized line hs hline hblank =>
      have htext : "smallint".toList ++ '(' :: "4) UNSIGNED\n".toList
          = t.name.toList ++ (line ++ ['\n']) := hs
      exact append_open_ne_suffixed ColumnType.smallint.isWord_name hblank _ htext

/-- PostgreSQL's double precision is resolved further, and MySQL's character type loses a line
break. -/
theorem double_precision_resolved_further :
    let postgres := Dialect.standard .postgres
    let mysql := Dialect.standard .mysql
    postgres.resolveType (.text "double") = .ok "double precision" ∧
      postgres.resolveType (.text "double precision") = .ok "double precision precision" ∧
      mysql.resolveType (.text "char\n") = .ok "char(1)\n" ∧
      mysql.resolveType (.text "char(1)\n") = .ok "char(1)" :=
  ⟨rfl, rfl, rfl, rfl⟩

end Dialect

end SqlLoom
