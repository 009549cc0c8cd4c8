import SqlLoom.Proofs.Batch
import SqlLoom.Proofs.Outcome
import SqlLoom.Proofs.Positions
import SqlLoom.Proofs.Template
import SqlLoom.Text.Numeral

/-!
# `SqlLoom.Proofs.Cast`: the form of a value in its column

A value is cast for its column when it is bound by an INSERT or an UPDATE (`Compiler.castFor`), and
when it is written into a batch insert (`castAt`).

* `cast_again`: what was cast stays as it is when it is cast again, so a value that is read back
  and written once more is bound unchanged. It takes that a numeral is not empty
  (`Text.Numeral.isPlain`): an empty text would become nothing the second time.
* `cast_alike_iff`: all statements cast alike, but for a value under an explicit type. It is bound
  as it is, while a batch insert turns it into its own description for a column of text, and into
  true for a column of truth values. `typed_not_cast_alike` is such a value.
-/

set_option autoImplicit false

namespace SqlLoom

variable {v : Value}

/-! ### Numerals -/

namespace Text

variable {s digits : List Char}

/-- A text that is there and has no comma. -/
def IsPlain (s : List Char) : Prop := s ≠ [] ∧ ',' ∉ s

theorem comma_not_mem_toDigits (n : Nat) : ',' ∉ Nat.toDigits 10 n :=
  fun h => absurd (Nat.isDigit_of_mem_toDigits (by decide) (by decide) h) (by decide)

theorem comma_not_mem_exponentText (e : Int) : ',' ∉ exponentText e := by
  have hdigits := comma_not_mem_toDigits e.natAbs
  rw [exponentText]
  split <;> split <;> simp [hdigits]

/-- Digits with a point or an exponent among them. -/
theorem isPlain_placeDigits (h : ',' ∉ digits) (point : Int) :
    IsPlain (placeDigits digits point) := by
  have htake (n : Nat) : ',' ∉ digits.take n := mt List.mem_of_mem_take h
  have hdrop (n : Nat) : ',' ∉ digits.drop n := mt List.mem_of_mem_drop h
  have hexponent := comma_not_mem_exponentText (point - 1)
  simp only [IsPlain, placeDigits]
  split
  · split
    · simp [h]
    · refine ⟨by simp, ?_⟩
      split <;> simp [htake, hdrop]
  · refine ⟨by simp, ?_⟩
    split
    · simp [htake, hexponent]
    · simp [htake, hexponent, mt List.mem_of_mem_tail h]

theorem isPlain_positiveNumeral (q : Rat) : IsPlain (positiveNumeral q) := by
  have hshort : IsPlain "0.0".toList ∧ IsPlain "inf".toList := by
    constructor <;> exact ⟨by decide, by decide⟩
  simp only [positiveNumeral]
  split
  · exact hshort.1
  · split
    · exact hshort.2
    · refine isPlain_placeDigits (fun h => ?_) _
      have hdigits := (List.dropWhile_sublist _).subset (List.mem_reverse.mp h)
      rw [List.mem_reverse, Nat.toString_eq_repr, Nat.toList_repr] at hdigits
      exact comma_not_mem_toDigits _ hdigits

theorem isPlain_numeral (q : Rat) : IsPlain (numeral q) := by
  rw [numeral]
  split
  · exact ⟨by decide, by decide⟩
  · split
    · refine ⟨List.cons_ne_nil _ _, ?_⟩
      exact List.not_mem_cons_of_ne_of_not_mem (by decide) (isPlain_positiveNumeral (-q)).2
    · exact isPlain_positiveNumeral q

theorem Numeral.isPlain (n : Numeral) : IsPlain n.text.toList := by
  obtain ⟨text, hspecial | ⟨q, rfl⟩⟩ := n
  · have hplain : ∀ text ∈ specialNumerals, text.toList ≠ [] ∧ ',' ∉ text.toList := by decide
    exact hplain text hspecial
  · rw [String.toList_ofList]
    exact isPlain_numeral q

end Text

/-! ### Casting twice -/

namespace Column

/-- The empty text, for a column that has no text. -/
def voids (c : Column) (v : Value) : Bool :=
  v.text? == some "" && !c.type.isTextual && c.type != .binary

/-- The form of a value by the type of the column. -/
def formed (c : Column) (v : Value) : Value :=
  if c.type.isTextual then castText v
  else if c.type.isInteger then castInteger v
  else if c.type.isFractional then castFractional v
  else if c.type = .boolean then castBoolean v
  else v

theorem cast_eq (c : Column) (v : Value) :
    c.cast v = if v.isUncast then v else if c.voids v then .null else c.formed v := rfl

/-- A form that is empty only where the value is does not become nothing. -/
theorem voids_eq_false {c : Column} {w : Value} (hvoid : c.voids v = false)
    (h : w.text? = some "" → v.text? = some "") : c.voids w = false := by
  by_cases hw : w.text? = some ""
  · rw [voids, h hw] at hvoid
    rwa [voids, hw]
  · rw [voids, beq_false_of_ne hw]
    rfl

theorem castInteger_cases (v : Value) : castInteger v = v ∨ ∃ n, castInteger v = .int n := by
  unfold castInteger
  repeat' split
  all_goals first
    | exact .inl rfl
    | exact .inr ⟨_, rfl⟩

theorem replaceChar_eq_nil {s : List Char} (h : Text.replaceChar ',' ['.'] s = []) : s = [] := by
  cases s with
  | nil => rfl
  | cons c s =>
      obtain ⟨hfirst, -⟩ := List.append_eq_nil_iff.mp h
      dsimp only at hfirst
      split at hfirst <;> cases hfirst

/-- A value for a column of numbers with places is a text without commas, or neither a text nor a
floating-point number. -/
theorem castFractional_cases (v : Value) :
    (∃ s, castFractional v = .text s ∧ ',' ∉ s.toList ∧ (s = "" → v.text? = some "")) ∨
      castFractional v = v ∧ v.text? = none ∧ ∀ numeral, v ≠ .float numeral := by
  have hreplaced (s : String) : ',' ∉ Text.replaceChar ',' ['.'] s.toList := by
    simp only [Text.replaceChar, List.mem_flatMap, not_exists, not_and]
    intro c _ hc
    split at hc
    · exact absurd hc (by decide)
    · rename_i hne
      exact hne (List.mem_singleton.mp hc).symm
  unfold castFractional
  split
  · rename_i numeral
    obtain ⟨hne, hcomma⟩ := numeral.isPlain
    exact .inl ⟨numeral.text, rfl, hcomma, fun hempty => absurd (by rw [hempty]; rfl) hne⟩
  · rename_i hfloat
    split
    · rename_i s hs
      refine .inl ⟨_, rfl, by rw [String.toList_ofList]; exact hreplaced s, fun hempty => ?_⟩
      have hnil : Text.replaceChar ',' ['.'] s.toList = [] := String.ofList_inj.mp hempty
      rw [hs, String.toList_eq_nil_iff.mp (replaceChar_eq_nil hnil)]
    · rename_i htext
      exact .inr ⟨rfl, htext, hfloat⟩

theorem castFractional_again (v : Value) :
    castFractional (castFractional v) = castFractional v := by
  rcases castFractional_cases v with ⟨s, hs, hcomma, -⟩ | ⟨hsame, -⟩
  · rw [hs]
    show Value.text (String.ofList (Text.replaceChar ',' ['.'] s.toList)) = .text s
    rw [Text.replaceChar_eq_self hcomma, String.ofList_toList]
  · rw [hsame, hsame]

/-- The form of a value stays, and it is no empty text if the value is none. -/
theorem formed_again (c : Column) (hvoid : c.voids v = false) :
    c.formed (c.formed v) = c.formed v ∧ c.voids (c.formed v) = false := by
  unfold formed
  split
  · rename_i htextual
    refine ⟨by cases v <;> rfl, ?_⟩
    rw [voids, htextual]
    simp
  · split
    · rcases castInteger_cases v with hsame | ⟨n, hn⟩
      · rw [hsame]
        exact ⟨hsame, hvoid⟩
      · rw [hn]
        exact ⟨rfl, rfl⟩
    · split
      · refine ⟨castFractional_again v, voids_eq_false hvoid fun hempty => ?_⟩
        rcases castFractional_cases v with ⟨s, hs, -, hs'⟩ | ⟨hsame, -⟩
        · rw [hs] at hempty
          exact hs' (Option.some.inj hempty)
        · rwa [hsame] at hempty
      · split
        · exact ⟨by cases v <;> rfl, by cases v <;> rfl⟩
        · exact ⟨rfl, hvoid⟩

theorem cast_twice (c : Column) (v : Value) : c.cast (c.cast v) = c.cast v := by
  rw [c.cast_eq v]
  split
  · rename_i huncast
    exact if_pos huncast
  · split
    · rfl
    · rename_i hvoid
      obtain ⟨hagain, hvoid⟩ := c.formed_again (Bool.eq_false_iff.mpr hvoid)
      rw [cast_eq, hvoid, hagain]
      exact ite_self _

end Column

/-! ### What is bound and what is written -/

/-- A value under an explicit type. -/
def Value.isExplicit : Value → Bool
  | .typed .. => true
  | _ => false

theorem castAt_twice (column? : Option Column) (v : Value) :
    castAt column? (castAt column? v) = castAt column? v := by
  cases column? with
  | none => rfl
  | some c => exact c.cast_twice v

/-- A value under an explicit type is bound as it is, and any other one as it is cast. -/
theorem castFor_eq (info : Option Table) (name : String) (v : Value) :
    Compiler.castFor info name v
      = if v.isExplicit then v else castAt (info.bind (·.column? name)) v := by
  unfold Compiler.castFor
  cases info.bind (·.column? name) <;> cases v <;> rfl

/-- What was cast is cast to itself, in every column and by every statement. -/
theorem cast_again (v : Value) :
    (∀ c : Column, c.cast (c.cast v) = c.cast v) ∧
      ∀ (info : Option Table) (name : String), Compiler.castFor info name
        (Compiler.castFor info name v) = Compiler.castFor info name v := by
  refine ⟨fun c => c.cast_twice v, fun info name => ?_⟩
  rw [castFor_eq info name v]
  split
  · rename_i hexplicit
    rw [castFor_eq, if_pos hexplicit]
  · rw [castFor_eq, castAt_twice]
    exact ite_self _

/-- A number with an exponent for a column with places, and text for one of truth values. -/
theorem cast_again_number :
    let money : Column := { name := "a", type := .money }
    let flag : Column := { name := "b", type := .boolean }
    let info : Option Table := some ⟨"t", [money, flag], none⟩
    money.cast (.float (.ofRat 10000000000000000)) = .text "1e+16" ∧
      money.cast (.text "1e+16") = .text "1e+16" ∧
      Compiler.castFor info "b" (.text " No ") = .bool false ∧
      Compiler.castFor info "b" (.bool false) = .bool false := by
  intro money flag info
  have hnumber : money.cast (.float (.ofRat 10000000000000000)) = .text "1e+16" := by
    have htext : (Text.Numeral.ofRat 10000000000000000).text = "1e+16" := by decide +kernel
    exact congrArg Value.text htext
  refine ⟨hnumber, ?_, rfl, (cast_again (.text " No ")).2 info "b"⟩
  exact hnumber ▸ (cast_again (.float (.ofRat 10000000000000000))).1 money

/-! ### Statements that cast alike -/

open Compiler (castFor insertedValue assignment whereClause batchValues)

/-- A batch insert turns the value into another one for the column of the name: it is under an
explicit type, and the column is known to be of text or of truth values. -/
def Value.IsRecast (info : Option Table) (name : String) (v : Value) : Prop :=
  v.isExplicit = true ∧ ∃ column, info.bind (·.column? name) = some column ∧
    (column.type.isTextual = true ∨ column.type = .boolean)

theorem Column.cast_typed_iff (c : Column) (value : Value) (type : BindType) :
    c.cast (.typed value type) = .typed value type
      ↔ ¬ (c.type.isTextual = true ∨ c.type = .boolean) := by
  cases htype : c.type <;> simp [Column.cast, htype, Value.isUncast, Value.text?, castText,
    castInteger, castFractional, castBoolean, ColumnType.isTextual, ColumnType.isInteger,
    ColumnType.isFractional]

theorem castAt_eq_castFor_iff (info : Option Table) (name : String) (v : Value) :
    castAt (info.bind (·.column? name)) v = castFor info name v ↔ ¬ v.IsRecast info name := by
  rw [castFor_eq]
  cases hexplicit : v.isExplicit with
  | false => simp [Value.IsRecast, hexplicit]
  | true =>
      cases v with
      | typed value type =>
          cases hcolumn : info.bind (·.column? name) with
          | none => simp [castAt, Value.IsRecast, hcolumn]
          | some column =>
              simpa [castAt, Value.IsRecast, hcolumn, Value.isExplicit] using
                column.cast_typed_iff value type
      | _ => cases hexplicit

theorem columnAt_of_name {info : Option Table} {columns : List String} {i : Nat} {name : String}
    (hname : columns[i]? = some name) :
    columnAt info columns i = info.bind (·.column? name) := by
  rw [columnAt, hname]
  rfl

theorem columnAt_beyond {info : Option Table} {columns : List String} {i : Nat}
    (hname : columns[i]? = none) : columnAt info columns i = none := by
  rw [columnAt, hname]
  cases info <;> rfl

theorem castAt_uncast (column? : Option Column) (hv : v.isUncast = true) :
    castAt column? v = v := by
  cases column? with
  | none => rfl
  | some c => exact if_pos hv

theorem castFor_uncast (info : Option Table) (name : String) (hv : v.isUncast = true) :
    castFor info name v = v := by
  rw [castFor_eq, castAt_uncast _ hv]
  exact ite_self v

theorem boundFragment_of_isBound (h : v.isBound = true) : boundFragment v = .bound v := by
  cases v <;> first | rfl | cases h

/-- What is bound for a value of an INSERT, or inlined for it. -/
theorem insertedValue_eq (d : Dialect) (info : Option Table) (name : String)
    (hv : ∀ q, v ≠ .query q) :
    insertedValue d info name v = .ok (boundFragment (castFor info name v)) := by
  rcases v.expr_or_query_or_bound with ⟨e, rfl⟩ | ⟨q, rfl⟩ | hbound
  · rw [castFor_uncast info name rfl]
    rfl
  · exact absurd rfl (hv q)
  · rw [insertedValue_of_isBound hbound,
      boundFragment_of_isBound (isBound_castFor hbound info name)]

/-- What is bound for a value of an UPDATE, or inlined for it. -/
theorem assignment_eq (d : Dialect) (info : Option Table) (name : String) (v : Value) :
    assignment d info name v
      = .ofText (d.quoteColumn name ++ "=") ++ boundFragment (castFor info name v) := by
  rcases v.expr_or_query_or_bound with ⟨e, rfl⟩ | ⟨q, rfl⟩ | hbound
  · rw [castFor_uncast info name rfl]
    rfl
  · rw [castFor_uncast info name rfl]
    exact congrArg (fun w => Fragment.ofText (d.quoteColumn name ++ "=") ++ Fragment.bound w)
      (castFor_uncast info name rfl)
  · rw [boundFragment_of_isBound (isBound_castFor hbound info name)]
    cases v <;> first | rfl | cases hbound

/-- What the statements on a table do to the values of a row. -/
structure CastsAlike (c : Compiler) (table : String) : Prop where
  /-- An INSERT binds each value cast for its column, or inlines it. -/
  inserted : ∀ row : Entries Value, row ≠ [] → (∀ e ∈ row, ∀ q, e.2 ≠ .query q) →
    c.insertFragment table (.map row) = .ok (.ofText ("INSERT INTO " ++ c.dialect.quoteTable table
        ++ " (" ++ commaJoined (row.map fun e => c.dialect.quoteColumn e.1) ++ ") VALUES ")
      ++ (Fragment.join ", "
        (row.map fun e => boundFragment (castFor (c.table? table) e.1 e.2))).parens)
  /-- An UPDATE does the same. -/
  updated : ∀ (row : Entries Value) (condition : Value),
    c.updateFragment table (.map row) condition = do
      return .ofText ("UPDATE " ++ c.dialect.quoteTable table ++ " SET ")
        ++ .join ", " (row.map fun e => .ofText (c.dialect.quoteColumn e.1 ++ "=")
          ++ boundFragment (castFor (c.table? table) e.1 e.2))
        ++ (← whereClause c.dialect condition)
  /-- A batch insert writes the literal of each value cast for the column at its position. -/
  written : ∀ (columns : List String) (rows : Value) (cells : List (List Value)),
    (do (← rows.goThrough).mapM Value.goThrough) = .ok cells →
    c.batchInsert table columns rows
      = .ok ⟨Fragment.weave (batchFrame c.dialect table columns cells.length)
          (cells.map fun row => "(" ++ commaJoined (row.mapIdx fun i v =>
            c.dialect.batchLiteral (castAt (columnAt (c.table? table) columns i) v)) ++ ")"),
        [], c.dialect.name⟩
  /-- These are the same value, unless a batch insert turns it into another one. -/
  alike_iff : ∀ (columns : List String) (i : Nat) (name : String), columns[i]? = some name →
    ∀ v : Value, castAt (columnAt (c.table? table) columns i) v = castFor (c.table? table) name v
      ↔ ¬ v.IsRecast (c.table? table) name
  /-- Behind the columns a batch insert leaves values as they are. -/
  beyond : ∀ (columns : List String) (i : Nat), columns[i]? = none →
    ∀ v : Value, castAt (columnAt (c.table? table) columns i) v = v
  /-- Nothing, expressions and collections stay as they are for every column. -/
  kept : ∀ v : Value, v.isUncast = true → (∀ column?, castAt column? v = v) ∧
    ∀ name, castFor (c.table? table) name v = v
  /-- What has an explicit type is bound as it is. -/
  typed : ∀ v : Value, v.isExplicit = true → ∀ name, castFor (c.table? table) name v = v

/-- All statements on a table cast a value alike, but for values under an explicit type: a batch
insert casts these for columns of text and of truth values. -/
theorem cast_alike_iff (c : Compiler) (hbackend : c.dialect.backend ≠ .postgres)
    (table : String) : CastsAlike c table := by
  have hnormal (row : Entries Value) : c.dialect.normalizeRow (c.table? table) row = row := by
    unfold Dialect.normalizeRow
    split
    · rename_i hpostgres _
      exact absurd hpostgres hbackend
    · rfl
  refine ⟨fun row hrow hqueries => ?_, fun row condition => ?_, fun columns rows cells hcells => ?_,
    fun columns i name hname v => ?_, fun columns i hname v => ?_,
    fun v hv => ⟨fun column? => castAt_uncast column? hv, fun name => castFor_uncast _ name hv⟩,
    fun v hv name => ?_⟩
  · have hvalues : (row.mapM fun e => insertedValue c.dialect (c.table? table) e.1 e.2)
        = .ok (row.map fun e => boundFragment (castFor (c.table? table) e.1 e.2)) :=
      mapM_eq_ok (List.map_congr_left fun e he =>
        insertedValue_eq c.dialect (c.table? table) e.1 (hqueries e he))
    show c.insertRow table row = _
    simp only [Compiler.insertRow, hnormal, List.isEmpty_iff, hrow, if_false, hvalues]
    rfl
  · rw [Compiler.updateFragment]
    simp only [hnormal, assignment_eq]
    rfl
  · rw [batchInsert_ok c table columns hcells]
    refine congrArg (fun texts => Except.ok (Compiled.mk (Fragment.weave _ texts) _ _)) ?_
    refine List.map_congr_left fun row _ => ?_
    rw [batchRow, batchValues_eq, castRow, List.map_map, List.mapIdx_eq_zipIdx_map]
    rfl
  · rw [columnAt_of_name hname]
    exact castAt_eq_castFor_iff _ name v
  · rw [columnAt_beyond hname]
    rfl
  · rw [castFor_eq, if_pos hv]

/-- A number under an explicit type is bound to a column of truth values as it is, and written into
a batch insert as true, though it is zero. -/
theorem typed_not_cast_alike :
    let c : Compiler :=
      ⟨.standard .ansi, some ⟨[⟨"t", [{ name := "a", type := .boolean }], none⟩]⟩, ":qp"⟩
    let v : Value := .typed (.int 0) .int
    c.insert "t" (.map [("a", v)]) []
      = .ok ⟨"INSERT INTO \"t\" (\"a\") VALUES (:qp0)", [(":qp0", v)], "ansi"⟩ ∧
    c.batchInsert "t" ["a"] (.list [.list [v]])
      = .ok ⟨"INSERT INTO \"t\" (\"a\") VALUES (1)", [], "ansi"⟩ ∧
    c.dialect.batchLiteral v = "TypedValue(value=0, type=<ParamType.INT: 'int'>)" :=
  ⟨rfl, rfl, rfl⟩

/-- The same number for a column of whole numbers, and text for one of truth values. -/
theorem cast_alike_iff_numbers :
    let c : Compiler := ⟨.standard .mysql, some ⟨[⟨"t", [{ name := "a", type := .integer },
      { name := "b", type := .boolean }], none⟩]⟩, ":qp"⟩
    let info := c.table? "t"
    let v : Value := .typed (.int 0) .int
    CastsAlike c "t" ∧ castAt (columnAt info ["b", "a"] 1) v = v ∧
      castAt (columnAt info ["b", "a"] 0) (.text "no") = .bool false ∧
      castFor info "b" (.text "no") = .bool false := by
  intro c info v
  have hcasts : CastsAlike c "t" := cast_alike_iff c (by decide) "t"
  have hnumber : ¬ v.IsRecast info "a" := by
    rintro ⟨-, column, hcolumn, htype⟩
    cases hcolumn
    revert htype
    decide
  have htext : ¬ (Value.text "no").IsRecast info "b" := fun h => by cases h.1
  refine ⟨hcasts, ?_, ?_, rfl⟩
  · exact ((hcasts.alike_iff ["b", "a"] 1 "a" rfl v).mpr hnumber).trans (hcasts.typed v rfl "a")
  · exact (hcasts.alike_iff ["b", "a"] 0 "b" rfl _).mpr htext

end SqlLoom
